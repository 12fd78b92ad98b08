/-
  What the transaction directory says, wherever an installation is interrupted.

  A transaction begins at a disk `origin` with a command.  Its journal and its backups are determined by
  these two, up to the phase; so the invariant is that whatever is left in the directory is what was put
  there, and that the two files are untouched as long as the phase is one of the first two.

  1. `originJournal`, `backupOf`: what is put there.
  2. `Inv`: the invariant, and `At` and `Under`, with the phase.
  3. What keeps the invariant, and the parts from which the commands are made.
-/
import OpenCodexRelay.HelperInstaller.Installer

namespace HelperInstaller

open Durable

/-- A transaction: the disk on which it begins, and the command. -/
structure Beginning (δ : Type) extends Setup δ where
  origin : Disk δ
  command : Command

/-- The two files that are installed. -/
inductive Artifact where
  | helper
  | plist

def Artifact.file : Artifact → File
  | .helper => .helper
  | .plist => .plist

def Artifact.backup : Artifact → File
  | .helper => .helperBackup
  | .plist => .plistBackup

def Artifact.mode : Artifact → ℕ
  | .helper => 0o755
  | .plist => 0o644

def Artifact.maximumBytes : Artifact → ℕ
  | .helper => 64 * 1024 * 1024
  | .plist => 64 * 1024

section Invariant

variable {δ : Type} (S : Setup δ) (b : Beginning δ)

def witnessOf : Option Entry → Option (Witness δ)
  | some (.file content _) => some ⟨content.length, S.digest content⟩
  | _ => none

def originJournal (phase : Phase) : Journal δ :=
  ⟨b.command, phase, b.origin.helper.isSome, b.origin.plist.isSome, b.origin.loaded,
    witnessOf b.toSetup b.origin.helper, witnessOf b.toSetup b.origin.plist⟩

def backupOf : Option Entry → Option Entry
  | some (.file content _) => some (.file content 0o600)
  | _ => none

/-- The phases before any file is changed. -/
def Quiet : Phase → Prop
  | .preparing | .backupsReady => True
  | _ => False

/-- Both files are there, as the installer leaves them, or none is. -/
def Settled (d : Disk δ) : Prop :=
  (∀ a : Artifact, d.get a.file = none) ∨ ∀ a : Artifact, ∃ content,
    d.get a.file = some (.file content a.mode) ∧ content.length ≤ a.maximumBytes

/-- What is known of the origin once there is a journal. -/
structure Begun : Prop where
  settled : Settled b.origin
  valid : validTransactionJournal b.toSetup (originJournal b .preparing) = true

/-- Both files are those of the other disk. -/
def SameFiles (d d' : Disk δ) : Prop := ∀ a : Artifact, d.get a.file = d'.get a.file

/-- **The invariant.** -/
structure Inv (d : Disk δ) : Prop where
  protection : d.protection = false
  backup : ∀ a : Artifact, d.get a.backup = none ∨ d.get a.backup = backupOf (b.origin.get a.file)
  journal : ∀ j, d.journal = some j →
    ∃ phase, j = originJournal b phase ∧ Begun b ∧ (Quiet phase → SameFiles d b.origin)

/-- The invariant, with the phase of the journal. -/
structure At (phase : Phase) (d : Disk δ) : Prop where
  inv : Inv b d
  journal : d.journal = some (originJournal b phase)

/-- The same where the journal may already be gone: a deletion that failed half-way is followed by an
    attempt to restore the original state. -/
structure Under (phase : Phase) (d : Disk δ) : Prop where
  inv : Inv b d
  begun : Begun b
  journal : ∀ j, d.journal = some j → j = originJournal b phase

/-- Every durable step ends in the invariant. -/
def Kept : Event (Disk δ) Question Answer → Prop
  | .wrote _ d => Inv b d
  | _ => True

/-- Some call may fail. -/
def Fails (E : Env (Disk δ) Question Answer) : Prop := ∃ c d e, E (.call c) d (some e)

abbrev Keeps {α : Type} (E : Env (Disk δ) Question Answer) (p : Op δ α)
    (post : Except Thrown α → Disk δ → Prop) (d : Disk δ) : Prop :=
  Safe E (Kept b) p post d

variable {S b} {d d' : Disk δ} {phase : Phase} {j : Journal δ} {α β : Type} {entry : Option Entry}
  {a : Artifact}

/-! ## What keeps the invariant -/

theorem At.begun (h : At b phase d) : Begun b := by
  obtain ⟨phase', -, hbegun, -⟩ := h.inv.journal _ h.journal
  exact hbegun

theorem At.under (h : At b phase d) : Under b phase d :=
  ⟨h.inv, h.begun, fun _ hj => Option.some.inj (hj.symm.trans h.journal)⟩

theorem Under.quiet (h : Under b phase d) (hj : d.journal = some j) (hquiet : Quiet phase) :
    SameFiles d b.origin := by
  obtain ⟨phase', hj', -, hsame⟩ := h.inv.journal j hj
  have hphase : phase = phase' := congrArg Journal.phase ((h.journal j hj).symm.trans hj')
  exact hsame (hphase ▸ hquiet)

theorem At.quiet (h : At b phase d) (hquiet : Quiet phase) : SameFiles d b.origin :=
  h.under.quiet h.journal hquiet

/-- A journal that is found is the one that was put there. -/
theorem Inv.at (h : Inv b d) (hj : d.journal = some j) :
    ∃ phase, j = originJournal b phase ∧ At b phase d := by
  obtain ⟨phase, rfl, -, -⟩ := h.journal j hj
  exact ⟨phase, rfl, h, hj⟩

/-- A change of one of the files, after the first phases or back to what it was. -/
theorem Under.setFile (h : Under b phase d) (hentry : Quiet phase → entry = b.origin.get a.file) :
    Under b phase (d.set entry a.file) := by
  have hjournal : (d.set entry a.file).journal = d.journal := by cases a <;> rfl
  refine ⟨⟨by cases a <;> exact h.inv.protection, fun a' => ?_, fun j hj => ?_⟩, h.begun,
    fun j hj => h.journal j (hjournal ▸ hj)⟩
  · have hsame : (d.set entry a.file).get a'.backup = d.get a'.backup := by cases a <;> cases a' <;> rfl
    exact hsame ▸ h.inv.backup a'
  · rw [hjournal] at hj
    refine ⟨phase, h.journal j hj, h.begun, fun hquiet a' => ?_⟩
    have hsame := h.quiet hj hquiet
    match a, a' with
    | .helper, .helper => exact hentry hquiet
    | .helper, .plist => exact hsame .plist
    | .plist, .helper => exact hsame .helper
    | .plist, .plist => exact hentry hquiet

@[simp] theorem Disk.journal_setBackup : (d.set entry a.backup).journal = d.journal := by
  cases a <;> cases ht : d.transaction <;> simp [Artifact.backup, set, journal, ht]

/-- The two files are looked at where the directory is not. -/
theorem SameFiles.of_eq (h : SameFiles d b.origin) (hhelper : d'.helper = d.helper)
    (hplist : d'.plist = d.plist) : SameFiles d' b.origin
  | .helper => hhelper.trans (h .helper)
  | .plist => hplist.trans (h .plist)

/-- A change elsewhere that leaves no other backup and no other journal. -/
theorem Inv.of_directory (h : Inv b d) (hprotection : d'.protection = d.protection)
    (hhelper : d'.helper = d.helper) (hplist : d'.plist = d.plist)
    (hbackup : ∀ a : Artifact, d'.get a.backup = d.get a.backup ∨ d'.get a.backup = none ∨
      d'.get a.backup = backupOf (b.origin.get a.file))
    (hjournal : ∀ j, d'.journal = some j → d.journal = some j) : Inv b d' := by
  refine ⟨hprotection.trans h.protection, fun a => ?_, fun j hj => ?_⟩
  · rcases hbackup a with hsame | hother
    · exact hsame ▸ h.backup a
    · exact hother
  · obtain ⟨phase, hphase, hbegun, hsame⟩ := h.journal j (hjournal j hj)
    exact ⟨phase, hphase, hbegun, fun hquiet => (hsame hquiet).of_eq hhelper hplist⟩

theorem Inv.withLoaded (h : Inv b d) (loaded : Bool) : Inv b (d.withLoaded loaded) :=
  h.of_directory rfl rfl rfl (fun a => .inl (by cases a <;> rfl)) fun _ hj => hj

theorem Under.withLoaded (h : Under b phase d) (loaded : Bool) : Under b phase (d.withLoaded loaded) :=
  ⟨h.inv.withLoaded loaded, h.begun, h.journal⟩

/-- A backup is what was put there, or nothing. -/
theorem Inv.setBackup (h : Inv b d) (hentry : entry = none ∨ entry = backupOf (b.origin.get a.file)) :
    Inv b (d.set entry a.backup) := by
  refine h.of_directory (by cases a <;> rfl) (by cases a <;> rfl) (by cases a <;> rfl) (fun a' => ?_)
    fun j hj => Disk.journal_setBackup ▸ hj
  cases a <;> cases a' <;> cases ht : d.transaction <;>
    simp_all [Artifact.backup, Artifact.file, Disk.set, Disk.get]

theorem Disk.get_withJournal (j : Option (Journal δ)) (file : File) :
    (d.withJournal j).get file = d.get file := by
  cases file <;> cases ht : d.transaction <;> simp [withJournal, get, ht]

theorem Disk.journal_without {part : Part} (h : (d.without part).journal = some j) :
    d.journal = some j := by
  cases part with
  | journal => cases ht : d.transaction <;> simp [without, withJournal, journal, ht] at h
  | helperBackup => exact journal_setBackup (a := .helper) ▸ h
  | plistBackup => exact journal_setBackup (a := .plist) ▸ h

theorem Inv.without (h : Inv b d) (part : Part) : Inv b (d.without part) := by
  cases part with
  | journal =>
    exact h.of_directory rfl rfl rfl (fun a => .inl (Disk.get_withJournal none a.backup))
      fun j hj => @Disk.journal_without δ d j .journal hj
  | helperBackup => exact h.setBackup (a := .helper) (.inl rfl)
  | plistBackup => exact h.setBackup (a := .plist) (.inl rfl)

theorem Inv.withoutTransaction (h : Inv b d) : Inv b (d.withTransaction none) :=
  h.of_directory rfl rfl rfl (fun a => .inr (.inl (by cases a <;> rfl))) fun _ hj => by cases hj

theorem Under.without (h : Under b phase d) (part : Part) : Under b phase (d.without part) :=
  ⟨h.inv.without part, h.begun, fun j hj => h.journal j (Disk.journal_without hj)⟩

theorem Under.withoutTransaction (h : Under b phase d) : Under b phase (d.withTransaction none) :=
  ⟨h.inv.withoutTransaction, h.begun, fun _ hj => by cases hj⟩

/-- A journal with another phase. -/
theorem Inv.withPhase (h : Inv b d) (hbegun : Begun b) (htransaction : d.transaction.isSome = true)
    (hquiet : Quiet phase → SameFiles d b.origin) :
    At b phase (d.withJournal (some (originJournal b phase))) := by
  obtain ⟨t, ht⟩ := Option.isSome_iff_exists.mp htransaction
  have hjournal : (d.withJournal (some (originJournal b phase))).journal =
      some (originJournal b phase) := by
    simp [Disk.withJournal, Disk.journal, ht]
  refine ⟨⟨h.protection, fun a => ?_, fun j hj => ?_⟩, hjournal⟩
  · rw [Disk.get_withJournal]
    exact h.backup a
  · rw [hjournal, Option.some.injEq] at hj
    exact ⟨phase, hj.symm, hbegun, fun hq => (hquiet hq).of_eq rfl rfl⟩

theorem At.transaction (h : At b phase d) : d.transaction.isSome = true := by
  have hj := h.journal
  cases ht : d.transaction with
  | none =>
    rw [Disk.journal, ht] at hj
    cases hj
  | some t => rfl

/-! ## The parts of the installer -/

variable {E : Env (Disk δ) Question Answer}

theorem safe_calling {c : Call} {k : Op δ α} {post : Except Thrown α → Disk δ → Prop}
    (hk : Keeps b E k post d) (herr : Fails E → ∀ e, post (.error e) d) :
    Keeps b E (calling c k) post d := by
  refine ⟨trivial, fun answer hanswer => ?_⟩
  cases answer with
  | none => exact hk
  | some e => exact herr ⟨c, d, e, hanswer⟩ e

/-- What the parts leave behind: where they succeed, a journal that is there has this phase, and
    outside the directory the disk is such as `P` says. -/
abbrev ends (b : Beginning δ) (phase : Phase) (P : Disk δ → Prop) : Except Thrown α → Disk δ → Prop :=
  outcome (fun _ d => Under b phase d ∧ P (d.withTransaction none)) fun _ d => Inv b d

/-- A part that comes to this disk, unless a call fails; the journal keeps its phase. -/
abbrev becomes (b : Beginning δ) (E : Env (Disk δ) Question Answer) (phase : Phase) (target : Disk δ) :
    Except Thrown α → Disk δ → Prop :=
  outcome (fun _ d => d = target ∧ Under b phase d) fun _ d => Under b phase d ∧ Fails E

/-- A part that keeps the journal's phase also where it fails. -/
theorem safe_stays {p : Op δ α} {P : Disk δ → Prop} (h : Keeps b E p (becomes b E phase d') d)
    (hP : P (d'.withTransaction none)) : Keeps b E p (ends b phase P) d :=
  h.except_mono (fun _ _ h' => h'.1.inv) fun _ _ h' => ⟨h'.2, h'.1 ▸ hP⟩

theorem safe_bootout (h : Under b phase d) :
    Keeps b E bootout (becomes b E phase (d.withLoaded false)) d :=
  safe_calling ⟨h.inv.withLoaded false, safe_calling ⟨rfl, h.withLoaded false⟩
    fun hf _ => ⟨h.withLoaded false, hf⟩⟩ fun hf _ => ⟨h, hf⟩

theorem safe_bootstrap (h : Under b phase d) :
    Keeps b E bootstrap (becomes b E phase (d.withLoaded true)) d :=
  safe_calling ⟨h.inv.withLoaded true, safe_calling ⟨rfl, h.withLoaded true⟩
    fun hf _ => ⟨h.withLoaded true, hf⟩⟩ fun hf _ => ⟨h, hf⟩

theorem safe_atomicWrite {content : Bytes} {file : File} {mode : ℕ} {post err : Disk δ → Prop}
    (h : err d) (hset : Inv b (d.set (some (.file content mode)) file))
    (herr : err (d.set (some (.file content mode)) file))
    (hpost : content.length ≤ 64 * 1024 * 1024 → post (d.set (some (.file content mode)) file)) :
    Keeps b E (atomicWrite content file mode) (outcome (fun _ d' => post d') fun _ d' =>
      err d' ∧ (Fails E ∨ 64 * 1024 * 1024 < content.length)) d :=
  safe_if (fun hlong => ⟨h, .inr hlong⟩) fun hshort => safe_calling
    ⟨hset, safe_calling (hpost (Nat.le_of_not_lt hshort)) fun hf _ => ⟨herr, .inl hf⟩⟩
    fun hf _ => ⟨h, .inl hf⟩

theorem safe_publish {content : Bytes} {file : File} {mode : ℕ} {P : Disk δ → Prop} (h : Inv b d)
    (hset : Under b phase (d.set (some (.file content mode)) file))
    (hP : content.length ≤ 64 * 1024 * 1024 →
      P ((d.set (some (.file content mode)) file).withTransaction none)) :
    Keeps b E (atomicWrite content file mode) (ends b phase P) d :=
  (safe_atomicWrite h hset.inv hset.inv fun hshort => ⟨hset, hP hshort⟩).except_mono (fun _ _ h' => h'.1)
    fun _ _ h' => h'

theorem Disk.set_get (file : File) : d.set (d.get file) file = d := by
  cases file with
  | helper => rfl
  | plist => rfl
  | helperBackup | plistBackup => cases d with | mk _ _ _ _ t => cases t <;> rfl

theorem safe_removeIfExists {file : File} (h : Under b phase d) (h' : Under b phase (d.set none file)) :
    Keeps b E (removeIfExists file) (becomes b E phase (d.set none file)) d := by
  refine safe_if (fun _ => safe_calling ⟨h'.inv, rfl, h'⟩ fun hf _ => ⟨h, hf⟩) fun habsent => ⟨?_, h⟩
  rw [← Option.not_isSome_iff_eq_none.mp habsent, Disk.set_get]

theorem safe_persist (h : Inv b d)
    (hbegun : validTransactionJournal b.toSetup (originJournal b phase) = true → Begun b)
    (htransaction : d.transaction.isSome = true) (hquiet : Quiet phase → SameFiles d b.origin) :
    Keeps b E (persistTransactionJournal b.toSetup (originJournal b phase))
      (outcome (fun _ d' => At b phase d' ∧ d'.withTransaction none = d.withTransaction none)
        fun _ d' => Inv b d' ∧ d'.transaction.isSome = true) d := by
  refine safe_if (fun _ => ⟨h, htransaction⟩) fun hvalid => ?_
  have hat := h.withPhase (hbegun (Bool.of_not_eq_false hvalid)) htransaction hquiet
  exact safe_calling ⟨hat.inv, safe_calling ⟨hat, rfl⟩ fun _ _ => ⟨hat.inv, hat.transaction⟩⟩
    fun _ _ => ⟨h, htransaction⟩

theorem safe_load (h : Inv b d) :
    Keeps b E (loadTransactionJournal b.toSetup) (outcome (fun j d' => d' = d ∧
      ∃ phase, j = originJournal b phase ∧ At b phase d) fun _ d' => d' = d ∧ d.journal = none) d := by
  refine safe_read.mpr ?_
  cases hj : d.journal with
  | none => exact ⟨rfl, rfl⟩
  | some j =>
    obtain ⟨phase, rfl, hat⟩ := h.at hj
    exact safe_if (fun _ => ⟨rfl, phase, rfl, hat⟩) fun hinvalid => absurd hat.begun.valid hinvalid

/-- The next phase, once files may be changed. -/
theorem safe_updatePhase {P : Disk δ → Prop} (hphase : ¬Quiet phase) (h : Inv b d)
    (hP : P (d.withTransaction none)) :
    Keeps b E (updateTransactionPhase b.toSetup phase) (ends b phase P) d := by
  refine safe_attempt_of (safe_load h) (fun _ _ hd => hd.1 ▸ h) ?_
  rintro j d' ⟨rfl, current, rfl, hat⟩
  refine safe_if (fun _ => h) fun _ => ?_
  exact (safe_persist h (fun _ => hat.begun) hat.transaction fun hquiet =>
    absurd hquiet hphase).except_mono (fun _ _ h' => h'.1) fun _ _ h' => ⟨h'.1.under, h'.2 ▸ hP⟩

theorem safe_removeParts {parts : List Part} (h : Under b phase d) :
    Keeps b E (removeParts parts : Op δ Unit) (outcome (fun _ d' => Under b phase d' ∧
      d'.withTransaction none = d.withTransaction none) fun _ d' => Under b phase d' ∧ Fails E) d := by
  induction parts generalizing d with
  | nil => exact ⟨h, rfl⟩
  | cons part rest ih =>
    refine safe_if (fun _ => ?_) fun _ => ih h
    refine safe_calling ⟨(h.without part).inv, (ih (h.without part)).ok_mono ?_⟩
      fun hf _ => ⟨h, hf⟩
    exact fun _ _ h' => ⟨h'.1, h'.2.trans (by cases part <;> rfl)⟩

/-- The deletion of the directory, entry by entry and in whatever order. -/
theorem safe_finish (h : Under b phase d) :
    Keeps b E (finishTransaction : Op δ Unit) (becomes b E phase (d.withTransaction none)) d := by
  refine safe_calling ⟨trivial, fun order _ => ?_⟩ fun hf _ => ⟨h, hf⟩
  refine safe_attempt_ok (safe_removeParts h) ?_
  rintro - d' ⟨h', hd'⟩
  rw [← hd']
  exact safe_calling ⟨h'.withoutTransaction.inv, rfl, h'.withoutTransaction⟩ fun hf _ => ⟨h', hf⟩

end Invariant

end HelperInstaller
