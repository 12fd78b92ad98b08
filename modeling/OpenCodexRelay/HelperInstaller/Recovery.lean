/-
  What `recover` comes to.

  `recover` needs the journal, and mostly the backups; but the existence of the directory is what refuses
  every other command.  The directory is created before the journal is written, and its entries are deleted
  one by one, so there are disks on which `recover` is the only command left and fails.

  Every part is followed ONCE, in an environment that is left open: it keeps the invariant whatever calls
  fail, and if none does it comes to what is said of it.

  1. `Intact`: what `recover` needs, phase by phase.
  2. The comparison of the files and of the backups with the journal.
  3. `safe_restoreOriginalState`, `safe_completeTarget`, `safe_recover`: both outcomes, success and refusal.
-/
import OpenCodexRelay.HelperInstaller.Invariant

namespace HelperInstaller

open Durable

section Recovery

variable {δ : Type} (S : Setup δ) (b : Beginning δ)

/-! ## Intact disks -/

/-- The files are those that the command wanted. -/
def Reached (d : Disk δ) : Command → Prop
  | .install | .update => artifactInstallationState S d = .ready
  | .uninstall => d.helper = none ∧ d.plist = none
  | .status | .recover => False

/-- The backups that the journal promises are there. -/
def Backed (d : Disk δ) (j : Journal δ) : Prop :=
  (j.hadHelper = true → (d.get .helperBackup).isSome = true) ∧
    (j.hadPlist = true → (d.get .plistBackup).isSome = true)

/-- What `recover` needs to go on from a journal. -/
def Usable (d : Disk δ) (j : Journal δ) : Prop :=
  match j.phase with
  | .preparing => d.loaded = j.wasServiceLoaded
  | .backupsReady => Backed d j ∧ d.loaded = j.wasServiceLoaded
  | _ => Reached S d j.command ∨ Backed d j

/-- **There is no transaction directory, or its journal is there and usable.** -/
def Intact (d : Disk δ) : Prop :=
  d.transaction = none ∨ ∃ j, d.journal = some j ∧ Usable S d j

/-! ## What is promised -/

/-- Helper, property list and service are those of the other disk. -/
def Same (d d' : Disk δ) : Prop := d.helper = d'.helper ∧ d.plist = d'.plist ∧ d.loaded = d'.loaded

/-- Helper, property list and service are those that the command wanted. -/
def Target (command : Command) (d : Disk δ) : Prop :=
  Reached S d command ∧ d.loaded = (command != .uninstall)

variable {S b} {E : Env (Disk δ) Question Answer} {d d' : Disk δ} {phase : Phase} {j : Journal δ} {α : Type}
  {entry : Option Entry} {post : Except Thrown α → Disk δ → Prop}

/-! ## The comparison with the journal -/

/-- A file as the installer leaves it, or none. -/
def Regular (entry : Option Entry) (mode maximumBytes : ℕ) : Prop :=
  entry = none ∨ ∃ content, entry = some (.file content mode) ∧ content.length ≤ maximumBytes

theorem Settled.regular (h : Settled d) (a : Artifact) :
    Regular (d.get a.file) a.mode a.maximumBytes :=
  h.imp (fun h => h a) fun h => h a

theorem Under.backup (h : Under b phase d) (a : Artifact)
    (hbacked : (b.origin.get a.file).isSome = true → (d.get a.backup).isSome = true) :
    d.get a.backup = backupOf (b.origin.get a.file) := by
  rcases h.inv.backup a with hnone | hsame
  · cases horigin : b.origin.get a.file with
    | none => exact hnone
    | some e =>
      rw [horigin, hnone] at hbacked
      cases hbacked rfl
  · exact hsame

section Questions

variable [DecidableEq δ] {mode maximumBytes : ℕ}

theorem witnessMatches_original (S : Setup δ) (h : Regular entry mode maximumBytes) :
    witnessMatches S (witnessOf S entry) entry mode maximumBytes = .ok true := by
  rcases h with rfl | ⟨content, rfl, hsize⟩
  · rfl
  · simp [witnessMatches, witnessOf, fileWitness, hsize, Except.map]

theorem witnessMatches_backup (S : Setup δ) (h : Regular entry mode maximumBytes) :
    witnessMatches S (witnessOf S entry) (backupOf entry) 0o600 maximumBytes = .ok true := by
  rcases h with rfl | ⟨content, rfl, hsize⟩
  · rfl
  · simp [witnessMatches, witnessOf, backupOf, fileWitness, hsize, Except.map]

theorem witnessMatches_missing (S : Setup δ) (h : Regular entry mode maximumBytes)
    (hsome : entry.isSome = true) :
    witnessMatches S (witnessOf S entry) none 0o600 maximumBytes = .error (.code .recoveryUnavailable) := by
  rcases h with rfl | ⟨content, rfl, hsize⟩
  · cases hsome
  · rfl

variable {k : Bool → Op δ α}

/-- An error of the first comparison, or of the second, or both answers together. -/
theorem safe_filesMatch {first second : File} {helperMode plistMode : ℕ} {r r' : Except Thrown Bool}
    (hfirst : witnessMatches S j.helperWitness (d.get first) helperMode (64 * 1024 * 1024) = r)
    (hsecond : witnessMatches S j.plistWitness (d.get second) plistMode (64 * 1024) = r')
    (h : match r, r' with | .error e, _ => post (.error e) d | .ok _, .error e => post (.error e) d | .ok yes, .ok yes' => Keeps b E (k (yes && yes')) post d) :
    Keeps b E (filesMatch S j first second helperMode plistMode k) post d := by
  simp only [filesMatch, Keeps, Safe, hfirst]
  cases r with
  | error e => exact h
  | ok yes =>
    simp only [hsecond]
    cases r' <;> exact h

theorem safe_backupState (h : Under b phase d)
    (hk : Backed d (originJournal b phase) → Keeps b E (k true) post d)
    (herr : ¬Backed d (originJournal b phase) → post (.error (.code .recoveryUnavailable)) d) :
    Keeps b E (backupStateMatches b.toSetup (originJournal b phase) k) post d := by
  have hthere : ∀ a : Artifact, ((b.origin.get a.file).isSome = true → (d.get a.backup).isSome = true) →
      witnessMatches b.toSetup (witnessOf b.toSetup (b.origin.get a.file)) (d.get a.backup) 0o600
        a.maximumBytes = .ok true := by
    intro a ha
    rw [h.backup a ha]
    exact witnessMatches_backup b.toSetup (h.begun.settled.regular a)
  have hmissing : ∀ a : Artifact, ¬((b.origin.get a.file).isSome = true →
      (d.get a.backup).isSome = true) → witnessMatches b.toSetup (witnessOf b.toSetup
        (b.origin.get a.file)) (d.get a.backup) 0o600 a.maximumBytes =
          .error (.code .recoveryUnavailable) := by
    intro a ha
    obtain ⟨horigin, hnone⟩ := Classical.not_imp.mp ha
    rw [Option.not_isSome_iff_eq_none.mp hnone]
    exact witnessMatches_missing b.toSetup (h.begun.settled.regular a) horigin
  by_cases hhelper : b.origin.helper.isSome = true → (d.get .helperBackup).isSome = true
  · by_cases hplist : b.origin.plist.isSome = true → (d.get .plistBackup).isSome = true
    · exact safe_filesMatch (hthere .helper hhelper) (hthere .plist hplist) (hk ⟨hhelper, hplist⟩)
    · exact safe_filesMatch (hthere .helper hhelper) (hmissing .plist hplist)
        (herr fun hbacked => hplist hbacked.2)
  · exact safe_filesMatch (hmissing .helper hhelper) rfl (herr fun hbacked => hhelper hbacked.1)

theorem safe_originalState (h : Begun b) (hfiles : SameFiles d b.origin)
    (hk : Keeps b E (k true) post d) :
    Keeps b E (originalStateMatches b.toSetup (originJournal b phase) k) post d := by
  have hfirst := witnessMatches_original b.toSetup (h.settled.regular .helper)
  have hsecond := witnessMatches_original b.toSetup (h.settled.regular .plist)
  nth_rewrite 2 [← hfiles .helper] at hfirst
  nth_rewrite 2 [← hfiles .plist] at hsecond
  exact safe_filesMatch hfirst hsecond hk

end Questions

theorem safe_target {k : Bool → Op δ α}
    (hk : ∀ yes, (yes = true → artifactInstallationState S d = .ready) →
      (yes = false → Fails E ∨ artifactInstallationState S d ≠ .ready) → Keeps b E (k yes) post d) :
    Keeps b E (targetInstallationMatches S k) post d := by
  refine safe_if (fun hno => hk false nofun fun _ => .inr hno) fun hready => ⟨trivial, fun answer ha => ?_⟩
  cases answer with
  | none => exact hk true (fun _ => not_not.mp hready) nofun
  | some e => exact hk false nofun fun _ => .inl ⟨_, _, e, ha⟩

/-! ## The original state -/

/-- Files that the installer leaves are never a reason to refuse. -/
theorem Settled.state (h : Settled d) : artifactInstallationState S d ≠ .recoveryRequired := by
  rcases h with hnone | hsome
  · have hhelper : d.helper = none := hnone .helper
    have hplist : d.plist = none := hnone .plist
    simp [artifactInstallationState, hhelper, hplist]
  · obtain ⟨hc, hhelper, -⟩ : ∃ c, d.helper = some (.file c 0o755) ∧ _ := hsome .helper
    obtain ⟨pc, hplist, -⟩ : ∃ c, d.plist = some (.file c 0o644) ∧ _ := hsome .plist
    rw [artifactInstallationState, hhelper, hplist, if_neg (by simp), if_neg (by simp [regularFile])]
    split <;> simp

theorem Settled.of_same {d' : Disk δ} (h : Settled d') (hfiles : SameFiles d d') : Settled d :=
  h.imp (fun h a => (hfiles a).trans (h a)) fun h a => hfiles a ▸ h a

/-- A service that was loaded had both its files. -/
theorem Begun.both (h : Begun b) (hloaded : b.origin.loaded = true) :
    (b.origin.helper.isSome && b.origin.plist.isSome) = true := by
  have hvalid := h.valid
  simp only [validTransactionJournal, originJournal, hloaded, Bool.and_eq_true, Bool.not_true,
    Bool.false_or] at hvalid
  simpa using hvalid.2

/-- The directory goes, and the receipt names the state of settled files. -/
theorem safe_finishAndReceipt (h : Under b phase d) (hsettled : Settled d) :
    Keeps b E (attempt finishTransaction fun _ => recoveredReceipt S)
      (outcome (fun _ d' => d' = d.withTransaction none) fun _ _ => Fails E) d := by
  refine safe_attempt_of (safe_finish h) (fun _ _ hf => hf.2) ?_
  rintro - _ ⟨rfl, -⟩
  have hstate : artifactInstallationState S (d.withTransaction none) ≠ .recoveryRequired :=
    Settled.state (hsettled.of_same fun a => by cases a <;> rfl)
  refine safe_read.mpr ?_
  cases hs : artifactInstallationState S (d.withTransaction none) with
  | recoveryRequired => exact absurd hs hstate
  | _ => exact rfl

/-- A file is put back from its backup, or taken away. -/
theorem safe_putBack (a : Artifact) (h : Under b phase d)
    (hbacked : (b.origin.get a.file).isSome = true → (d.get a.backup).isSome = true) :
    Keeps b E (putBack (b.origin.get a.file).isSome a.backup a.file a.mode)
      (outcome (fun _ d' => d' = d.set (b.origin.get a.file) a.file ∧ Under b phase d')
        fun _ _ => Fails E) d := by
  have hset : Under b phase (d.set (b.origin.get a.file) a.file) := h.setFile fun _ => rfl
  have hbackup := h.backup a hbacked
  rcases h.begun.settled.regular a with hnone | ⟨content, hsome, hsize⟩
  · rw [hnone] at hset ⊢
    exact (safe_removeIfExists h hset).except_mono (fun _ _ hf => hf.2) fun _ _ h' => h'
  · rw [hsome] at hset hbackup ⊢
    refine safe_read.mpr ?_
    rw [hbackup]
    refine (safe_atomicWrite h.inv hset.inv hset.inv fun _ => ⟨rfl, hset⟩).except_mono (fun _ _ hf => ?_) fun _ _ h' => h'
    refine hf.2.resolve_right (Nat.not_lt.mpr (hsize.trans ?_))
    cases a <;> decide

theorem safe_restoreService (h : Under b phase d) (hfiles : SameFiles d b.origin)
    (hloaded : d.loaded = false) :
    Keeps b E (restoreService S (originJournal b phase))
      (outcome (fun _ d' => d' = (d.withLoaded b.origin.loaded).withTransaction none)
        fun _ _ => Fails E) d := by
  have hsettled : Settled d := h.begun.settled.of_same hfiles
  refine safe_if (fun hwas => ?_) fun hwas => ?_
  · have hwas : b.origin.loaded = true := hwas
    refine safe_if (fun hno => absurd (h.begun.both hwas) (Bool.eq_false_iff.mp hno)) fun _ => ?_
    refine safe_attempt_of (safe_bootstrap h) (fun _ _ hf => hf.2) ?_
    rintro - _ ⟨rfl, h'⟩
    have hfinish := @safe_finishAndReceipt δ S b E _ phase h'
      (hsettled.of_same fun a => by cases a <;> rfl)
    rw [hwas]
    refine safe_if (fun hno => nomatch hno) fun _ => safe_target fun isTarget _ _ => ?_
    refine safe_if (fun _ => ?_) fun _ => hfinish
    have hprobe : Keeps b E (calling .probeReadiness (.ret (.ok ())) : Op δ Unit)
        (outcome (fun _ d' => d' = d.withLoaded true) fun _ _ => Fails E) (d.withLoaded true) :=
      safe_calling rfl fun hf _ => hf
    refine safe_guarded_of hprobe (fun _ _ hf => hf) ?_
    rintro - _ rfl
    exact hfinish
  · have hwas : b.origin.loaded = false := Bool.of_not_eq_true hwas
    have hsame : d.withLoaded false = d := by
      rw [← hloaded]
      rfl
    rw [hwas, hsame]
    refine safe_if (fun hyes => ?_) fun _ => safe_finishAndReceipt h hsettled
    rw [hloaded] at hyes
    cases hyes

variable [DecidableEq δ]

/-- **Back to the original state**, if the backups are there. -/
theorem safe_restoreOriginalState (h : Under b phase d) :
    Keeps b E (restoreOriginalState b.toSetup (originJournal b phase))
      (outcome (fun _ d' => (d'.transaction = none ∧ Same d' b.origin) ∧ Backed d (originJournal b phase))
        fun _ _ => Fails E ∨ ¬Backed d (originJournal b phase)) d := by
  refine safe_backupState h (fun hbacked => ?_) .inr
  refine safe_if (fun hno => nomatch hno) fun _ => ?_
  refine safe_attempt_of (safe_bootout h) (fun _ _ hf => .inl hf.2) ?_
  rintro - _ ⟨rfl, h1⟩
  refine safe_attempt_of (safe_putBack .helper h1 hbacked.1) (fun _ _ hf => .inl hf) ?_
  rintro - _ ⟨rfl, h2⟩
  refine safe_attempt_of (safe_putBack .plist h2 hbacked.2) (fun _ _ hf => .inl hf) ?_
  rintro - _ ⟨rfl, h3⟩
  have hfiles : SameFiles (((d.withLoaded false).set b.origin.helper .helper).set b.origin.plist .plist)
      b.origin := fun a => by cases a <;> rfl
  refine safe_originalState h.begun hfiles (safe_if (fun hno => nomatch hno) fun _ => ?_)
  refine (safe_restoreService h3 hfiles rfl).except_mono (fun _ _ hf => .inl hf) ?_
  rintro - _ rfl
  exact ⟨⟨rfl, rfl, rfl, rfl⟩, hbacked⟩

/-! ## Recovery -/

/-- What an attempt to confirm the target comes to. -/
def confirms (S : Setup δ) (b : Beginning δ) (E : Env (Disk δ) Question Answer) (phase : Phase)
    (d : Disk δ) : Option InstallerState → Disk δ → Prop
  | some _, d' => (d'.transaction = none ∧ Target S b.command d') ∧ Reached S d b.command
  | none, d' => Under b phase d' ∧ (Fails E ∨ (d' = d ∧ ¬Reached S d b.command))

omit [DecidableEq δ] in
/-- A failure is no more than a target that is not confirmed. -/
theorem safe_confirmed {p : Op δ (Option InstallerState)}
    (hp : Keeps b E p (outcome (confirms S b E phase d) fun _ d' => Under b phase d' ∧ Fails E) d) :
    Keeps b E (confirmed p) (outcome (confirms S b E phase d) fun _ _ => False) d :=
  safe_guarded_of hp (fun _ _ hf => ⟨hf.1, .inl hf.2⟩) fun _ _ h => h

omit [DecidableEq δ] in
theorem safe_completeReplaced (h : Under b phase d) (hc : b.command = .install ∨ b.command = .update) :
    Keeps b E (completeReplaced S) (outcome (confirms S b E phase d) fun _ _ => False) d := by
  have hreached : Reached S d b.command ↔ artifactInstallationState S d = .ready := by
    rcases hc with hc | hc <;> rw [hc] <;> rfl
  refine safe_target fun isTarget hyes hno => ?_
  refine safe_if (fun hfalse => ⟨h, (hno hfalse).imp_right fun hn => ⟨rfl, hreached.not.mpr hn⟩⟩)
    fun htrue => safe_confirmed ?_
  have hready := hreached.mpr (hyes (Bool.of_not_eq_false htrue))
  refine safe_attempt_ok (safe_bootout h) ?_
  rintro - _ ⟨rfl, h1⟩
  refine safe_attempt_ok (safe_bootstrap h1) ?_
  rintro - _ ⟨rfl, h2⟩
  refine safe_if (fun hno => nomatch hno) fun _ => safe_calling ?_ fun hf _ => ⟨h2, hf⟩
  refine safe_attempt_ok (safe_finish h2) ?_
  rintro - _ ⟨rfl, -⟩
  refine ⟨⟨rfl, ?_⟩, hready⟩
  rcases hc with hc | hc <;> rw [hc] at hready ⊢ <;> exact ⟨hready, rfl⟩

omit [DecidableEq δ] in
theorem safe_completeRemoved (h : Under b phase d) (hc : b.command = .uninstall) :
    Keeps b E completeRemoved (outcome (confirms S b E phase d) fun _ _ => False) d := by
  have hreached : Reached S d b.command ↔ ¬(d.helper.isSome = true ∨ d.plist.isSome = true) := by
    rw [hc, not_or, Option.not_isSome_iff_eq_none, Option.not_isSome_iff_eq_none]
    rfl
  refine safe_if (fun hthere => ⟨h, .inr ⟨rfl, fun hr => hreached.mp hr hthere⟩⟩)
    fun hgone => safe_confirmed ?_
  refine safe_attempt_ok (safe_bootout h) ?_
  rintro - _ ⟨rfl, h1⟩
  refine safe_if (fun hno => nomatch hno) fun _ => ?_
  refine safe_attempt_ok (safe_finish h1) ?_
  rintro - _ ⟨rfl, -⟩
  have hready := hreached.mpr hgone
  refine ⟨⟨rfl, ?_⟩, hready⟩
  rw [hc] at hready ⊢
  exact ⟨hready, rfl⟩

omit [DecidableEq δ] in
/-- **On to the target state**, if the files are those of the target. -/
theorem safe_completeTarget (h : Under b phase d) :
    Keeps b E (completeTargetStateIfPossible S (originJournal b phase))
      (outcome (confirms S b E phase d) fun _ _ => False) d := by
  have hvalid := h.begun.valid
  obtain ⟨setup, origin, command⟩ := b
  cases command with
  | install => exact safe_completeReplaced h (.inl rfl)
  | update => exact safe_completeReplaced h (.inr rfl)
  | uninstall => exact safe_completeRemoved h rfl
  | status | recover => simp [validTransactionJournal, originJournal] at hvalid

/-- There is no directory any more, and everything is as before or as the command wanted it. -/
abbrev Done (b : Beginning δ) (d : Disk δ) : Prop :=
  d.transaction = none ∧ (Same d b.origin ∨ Target b.toSetup b.command d)

/-- The original state is confirmed where the service is as it was. -/
theorem safe_confirmOriginal (h : At b phase d) (hquiet : Quiet phase) :
    Keeps b E (confirmOriginal b.toSetup (originJournal b phase))
      (outcome (fun _ d' => Done b d' ∧ d.loaded = b.origin.loaded)
        fun _ _ => Fails E ∨ d.loaded ≠ b.origin.loaded) d := by
  have hfiles := h.quiet hquiet
  refine safe_originalState h.begun hfiles ?_
  refine safe_if (fun hor => .inr ?_) fun hnot => ?_
  · exact hor.resolve_left (by simp)
  · have hloaded : d.loaded = b.origin.loaded := not_not.mp (not_or.mp hnot).2
    refine (safe_finishAndReceipt h.under (h.begun.settled.of_same hfiles)).except_mono
      (fun _ _ hf => .inl hf) ?_
    rintro - _ rfl
    exact ⟨⟨rfl, .inl ⟨hfiles .helper, hfiles .plist, hloaded⟩⟩, hloaded⟩

theorem safe_recoverChanged (h : Under b phase d) :
    Keeps b E (recoverChanged b.toSetup (originJournal b phase))
      (outcome (fun _ d' => Done b d' ∧
          (Fails E ∨ Reached b.toSetup d b.command ∨ Backed d (originJournal b phase)))
        fun _ _ => Fails E ∨ ¬(Reached b.toSetup d b.command ∨ Backed d (originJournal b phase))) d := by
  refine safe_attempt_of (safe_completeTarget h) (fun _ _ hf => hf.elim) fun receipt d1 h1 => ?_
  cases receipt with
  | some s => exact ⟨⟨h1.1.1, .inr h1.1.2⟩, .inr (.inl h1.2)⟩
  | none =>
    obtain ⟨hunder, hcase⟩ := h1
    refine safe_guarded_of (safe_restoreOriginalState hunder) ?_ ?_
    · intro e d2 herr
      have hpost : Fails E ∨ ¬(Reached b.toSetup d b.command ∨ Backed d (originJournal b phase)) := by
        rcases hcase with hf | ⟨rfl, hreached⟩
        · exact .inl hf
        · exact herr.imp_right fun hbacked => not_or.mpr ⟨hreached, hbacked⟩
      exact safe_if (fun _ => hpost) fun _ => hpost
    · rintro s d2 ⟨⟨hnone, hsame⟩, hbacked⟩
      refine ⟨⟨hnone, .inl hsame⟩, hcase.imp_right ?_⟩
      rintro ⟨rfl, -⟩
      exact .inr hbacked

/-- **Recovery**: where no call fails, a usable journal is enough, and nothing less is. -/
theorem safe_recover (h : Inv b d) :
    Keeps b E (recoverInterruptedTransaction b.toSetup)
      (outcome (fun _ d' => Done b d' ∧ (Fails E ∨ ∃ j, d.journal = some j ∧ Usable b.toSetup d j))
        fun _ _ => Fails E ∨ ¬∃ j, d.journal = some j ∧ Usable b.toSetup d j) d := by
  refine safe_attempt_of (safe_load h) (fun _ _ hnone => .inr ?_) ?_
  · rintro ⟨j, hj, -⟩
    rw [hnone.2] at hj
    cases hj
  rintro j d' ⟨rfl, phase, rfl, hat⟩
  have husable : (∃ j, d'.journal = some j ∧ Usable b.toSetup d' j) ↔
      Usable b.toSetup d' (originJournal b phase) := by
    simp [hat.journal]
  rw [husable]
  cases phase with
  | preparing =>
    exact (safe_confirmOriginal hat trivial).ok_mono fun _ _ h' => ⟨h'.1, .inr h'.2⟩
  | backupsReady =>
    refine safe_backupState hat.under (fun hbacked => safe_if (fun hno => nomatch hno) fun _ => ?_)
      fun hbacked => .inr fun hu => hbacked hu.1
    exact (safe_confirmOriginal hat trivial).except_mono
      (fun _ _ h' => h'.imp_right fun hne hu => hne hu.2) fun _ _ h' => ⟨h'.1, .inr ⟨hbacked, h'.2⟩⟩
  | _ => exact safe_recoverChanged hat.under

end Recovery

end HelperInstaller
