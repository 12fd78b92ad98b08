/-
  Every command keeps the invariant of a transaction, and when an interrupted one can be recovered.

  1. The parts: the way back of a command that fails, the steps of the three commands, the beginning of a
     transaction.
  2. `safe_perform`: the command that begins the transaction, and all that follow as long as the directory
     is there.  `Interrupted`, `interrupted_inv`: wherever they stop, with whatever answers.
  3. `recovers_iff_intact`: wherever the installer was interrupted, `recover` succeeds EXACTLY on the intact
     disks, and then everything is as before the command or as the command wanted it.
  4. `reports_truth_iff`: where nothing is interrupted, when receipts and errors say what is the case.
-/
import OpenCodexRelay.HelperInstaller.Recovery

namespace HelperInstaller

open Durable

section Commands

variable {δ : Type} {S : Setup δ} {b : Beginning δ} {E : Env (Disk δ) Question Answer} {d d' : Disk δ}
  {phase : Phase} {j : Journal δ} {α : Type} {entry : Option Entry}

/-! ## What is reported -/

/-- What an error says: unless a rollback has failed, nothing of the command is left. -/
def TruthfulError (before : Disk δ) : Thrown → Disk δ → Prop
  | .failure _ _ rollback, d => rollback = .failed ∨ d.transaction = none ∧ Same d before
  | _, _ => True

/-- **What a command reports is the truth**: a receipt names the target state, and an error, unless its
    rollback has failed, the state before. -/
def Truthful (S : Setup δ) (command : Command) (before : Disk δ) :
    Except Thrown InstallerState → Disk δ → Prop :=
  outcome (fun _ d => Target S command d) (TruthfulError before)

/-- The property list that is installed is one that matches. -/
def Matching (S : Setup δ) : Prop :=
  installedPlistMatches S (some (.file S.daemonPlistData 0o644)) = true

theorem TruthfulError.of_same {before : Disk δ} {e : Thrown} (h : d.transaction = none ∧ Same d before) :
    TruthfulError before e d := by
  cases e with
  | failure c r rollback => exact .inr h
  | _ => exact trivial

theorem TruthfulError.failed {before : Disk δ} {e : Thrown} {code : Option ErrorCode} :
    TruthfulError before (e.changing code .failed) d := by
  cases e with
  | failure c r rollback => exact .inl rfl
  | _ => exact trivial

theorem safe_rollbackAndThrow [DecidableEq δ] {failure : Thrown} {P : Disk δ → Prop} (h : Inv b d) :
    Keeps b E (rollbackAndThrow b.toSetup failure)
      (outcome (fun _ d' => P d') (TruthfulError b.origin)) d := by
  have hrestore : Keeps b E (attempt (loadTransactionJournal b.toSetup) fun j =>
      restoreOriginalState b.toSetup j)
      (outcome (fun _ d' => d'.transaction = none ∧ Same d' b.origin) fun _ _ => True) d := by
    refine safe_attempt_of (safe_load h) (fun _ _ _ => trivial) ?_
    rintro j d' ⟨rfl, phase, rfl, hat⟩
    exact (safe_restoreOriginalState hat.under).except_mono (fun _ _ _ => trivial) fun _ _ h' => h'.1
  have hescalate : Keeps b E (rollbackOrEscalate b.toSetup)
      (outcome (fun _ d' => d'.transaction = none ∧ Same d' b.origin) fun _ _ => True) d :=
    safe_guarded_of hrestore (fun _ _ _ => trivial) fun _ _ h' => h'
  exact safe_guarded_of hescalate (fun _ _ _ => .failed) fun _ _ h' => .of_same h'

/-! ## The commands -/

section Steps

variable {P : Disk δ → Prop}

theorem safe_diagnosed {fallback : FailureReason} {p : Op δ α} {k : α → Op δ Unit} {next : Phase}
    {ok : Unit → Disk δ → Prop} (hp : Keeps b E p (ends b next P) d)
    (hk : ∀ a d', Under b next d' → P (d'.withTransaction none) →
      Keeps b E (k a) (outcome ok fun _ d'' => Inv b d'') d') :
    Keeps b E (diagnosed fallback p k) (outcome ok fun _ d'' => Inv b d'') d :=
  safe_guarded_of hp (fun _ _ h => h) fun a d' h => hk a d' h.1 h.2

/-- A change of something, and then the phase that says so. -/
theorem safe_thenPhase {p : Op δ Unit} {next : Phase} (hnext : ¬Quiet next)
    (hp : Keeps b E p (ends b phase P) d) :
    Keeps b E (attempt p fun _ => updateTransactionPhase b.toSetup next) (ends b next P) d :=
  safe_attempt_ok hp fun _ _ h => safe_updatePhase hnext h.1.inv h.2

theorem safe_finished (h : Under b phase d) (hP : P (d.withTransaction none)) :
    Keeps b E (diagnosed .durabilityFailed finishTransaction fun _ => .ret (.ok ()))
      (outcome (fun _ d' => P d') fun _ d' => Inv b d') d :=
  safe_guarded_of (safe_finish h) (fun _ _ h' => h'.1.inv) fun _ _ h' => h'.1 ▸ hP

/-- The new helper is in its place. -/
def Replaced (S : Setup δ) (d : Disk δ) : Prop :=
  d.helper = some (.file S.sourceHelper 0o755) ∧ S.sourceHelper.length ≤ 64 * 1024 * 1024

/-- Both files are. -/
def Installed (S : Setup δ) (d : Disk δ) : Prop := Matching S → artifactInstallationState S d = .ready

/-- And the service is loaded. -/
def Running (S : Setup δ) (d : Disk δ) : Prop := Matching S → Target S .install d

theorem Replaced.installed (h : Replaced S d) (hplist : d.plist = some (.file S.daemonPlistData 0o644)) :
    Installed S d := by
  intro hmatching
  have hmatches : installedPlistMatches S (some (.file S.daemonPlistData 0o644)) = true := hmatching
  simp [artifactInstallationState, h.1, h.2, hplist, regularFile, helperMatches, hmatches]

theorem safe_replaceSteps (h : Inv b d) :
    Keeps b E (replaceSteps b.toSetup)
      (outcome (fun _ d' => Running b.toSetup d') fun _ d' => Inv b d') d := by
  have hloud : ¬Quiet .mutationStarted ∧ ¬Quiet .helperChanged ∧ ¬Quiet .plistChanged ∧
      ¬Quiet .serviceStopped ∧ ¬Quiet .serviceStarted ∧ ¬Quiet .activationVerified :=
    ⟨id, id, id, id, id, id⟩
  obtain ⟨hmutation, hhelper, hplist, hstopped, hstarted, hverified⟩ := hloud
  have hstart : Keeps b E (attempt (updateTransactionPhase b.toSetup .mutationStarted) fun _ =>
      calling .ensurePublishingDirectories (.ret (.ok ()))) (ends b .mutationStarted fun _ => True) d :=
    safe_attempt_ok (safe_updatePhase (P := fun _ => True) hmutation h trivial)
      fun _ _ h' => safe_calling h' fun _ _ => h'.1.inv
  refine safe_diagnosed hstart fun _ d1 h1 _ => ?_
  refine safe_diagnosed (safe_thenPhase (P := Replaced b.toSetup) hhelper (safe_publish h1.inv
    (h1.setFile (a := .helper) fun hq => absurd hq hmutation) fun hshort => ⟨rfl, hshort⟩))
    fun _ d2 h2 hP2 => ?_
  refine safe_diagnosed (safe_thenPhase (P := Installed b.toSetup) hplist (safe_publish h2.inv
    (h2.setFile (a := .plist) fun hq => absurd hq hhelper) fun _ => Replaced.installed hP2 rfl))
    fun _ d3 h3 hP3 => ?_
  have hvalidate : Keeps b E (calling .validateInstalledHelper (.ret (.ok ())) : Op δ Unit)
      (ends b .plistChanged (Installed b.toSetup)) d3 := safe_calling ⟨h3, hP3⟩ fun _ _ => h3.inv
  refine safe_guarded_of hvalidate (fun _ _ h' => h') fun _ d4 h4 => ?_
  refine safe_diagnosed (safe_thenPhase (P := Installed b.toSetup) hstopped
    (safe_stays (safe_bootout h4.1) h4.2)) fun _ d5 h5 hP5 => ?_
  refine safe_guarded_of (safe_thenPhase (P := Running b.toSetup) hstarted
    (safe_stays (safe_bootstrap h5) fun hm => ⟨hP5 hm, rfl⟩)) (fun _ _ h' => h') fun _ d6 h6 => ?_
  have hready : Keeps b E (serviceIsLoaded fun loaded =>
      if loaded = false then .ret (.error (.reason .daemonNotLoaded))
      else calling .probeReadiness (updateTransactionPhase b.toSetup .activationVerified))
      (ends b .activationVerified (Running b.toSetup)) d6 :=
    safe_if (fun _ => h6.1.inv) fun _ =>
      safe_calling (safe_updatePhase hverified h6.1.inv h6.2) fun _ _ => h6.1.inv
  exact safe_guarded_of hready (fun _ _ h' => h') fun _ d7 h7 => safe_finished h7.1 h7.2

theorem safe_removeSteps (h : Inv b d) :
    Keeps b E (removeSteps b.toSetup)
      (outcome (fun _ d' => Target b.toSetup .uninstall d') fun _ d' => Inv b d') d := by
  have hloud : ¬Quiet .mutationStarted ∧ ¬Quiet .helperChanged ∧ ¬Quiet .plistChanged ∧
      ¬Quiet .serviceStopped ∧ ¬Quiet .activationVerified := ⟨id, id, id, id, id⟩
  obtain ⟨hmutation, hhelper, hplist, hstopped, hverified⟩ := hloud
  refine safe_diagnosed (safe_updatePhase (P := fun _ => True) hmutation h trivial) fun _ d1 h1 _ => ?_
  refine safe_diagnosed (safe_thenPhase (P := fun d => d.loaded = false) hstopped
    (safe_stays (safe_bootout h1) rfl)) fun _ d2 h2 hP2 => ?_
  refine safe_diagnosed (safe_thenPhase (P := fun d => d.helper = none ∧ d.loaded = false) hhelper
    (safe_stays (safe_removeIfExists h2 (h2.setFile (a := .helper) fun hq => absurd hq hstopped))
      ⟨rfl, hP2⟩)) fun _ d3 h3 hP3 => ?_
  have hlast : Keeps b E (attempt (removeIfExists .plist) fun _ =>
      attempt (updateTransactionPhase b.toSetup .plistChanged) fun _ => .read fun d =>
        if d.helper.isSome ∨ d.plist.isSome then .ret (.error (.reason .publishFailed))
        else updateTransactionPhase b.toSetup .activationVerified)
      (ends b .activationVerified (Target b.toSetup .uninstall)) d3 := by
    refine safe_attempt_ok (safe_stays (P := Target b.toSetup .uninstall) (safe_removeIfExists h3
      (h3.setFile (a := .plist) fun hq => absurd hq hhelper)) ⟨⟨hP3.1, rfl⟩, hP3.2⟩) fun _ d4 h4 => ?_
    refine safe_attempt_ok (safe_updatePhase hplist h4.1.inv h4.2) fun _ d5 h5 => ?_
    exact safe_if (fun _ => h5.1.inv) fun _ => safe_updatePhase hverified h5.1.inv h5.2
  exact safe_diagnosed hlast fun _ d4 h4 hP4 => safe_finished h4 hP4

end Steps

/-! ## The beginning -/

section Beginning

theorem optionalWitness_ok {mode maximumBytes : ℕ} {w : Option (Witness δ)}
    (h : optionalWitness S entry mode maximumBytes = .ok w) :
    w = witnessOf S entry ∧ (entry = none ∨ ∃ content, entry = some (.file content mode) ∧
      content.length ≤ maximumBytes) := by
  cases entry with
  | none =>
    injection h with h
    exact ⟨h.symm, .inl rfl⟩
  | some e =>
    cases e with
    | other => cases h
    | file content m =>
      by_cases hfits : m = mode ∧ content.length ≤ maximumBytes
      · simp only [optionalWitness, fileWitness, Option.isSome_some, if_true, if_pos hfits,
          Except.map, Except.ok.injEq] at h
        exact ⟨h.symm, .inr ⟨content, by rw [hfits.1], hfits.2⟩⟩
      · simp [optionalWitness, fileWitness, hfits, Except.map] at h

/-- A command begins a transaction only where both files are there or none is. -/
theorem settled_of_witnessed {hw pw : Option (Witness δ)}
    (hstate : artifactInstallationState S d ≠ .recoveryRequired)
    (hhelper : optionalWitness S d.helper 0o755 (64 * 1024 * 1024) = .ok hw)
    (hplist : optionalWitness S d.plist 0o644 (64 * 1024) = .ok pw) : Settled d := by
  rcases (optionalWitness_ok hhelper).2 with hh | ⟨hc, hh, hsize⟩ <;>
    rcases (optionalWitness_ok hplist).2 with hp | ⟨pc, hp, psize⟩
  · exact .inl fun | .helper => hh | .plist => hp
  · exact absurd (by simp [artifactInstallationState, hh, hp, regularFile]) hstate
  · exact absurd (by simp [artifactInstallationState, hh, hp, regularFile]) hstate
  · exact .inr fun | .helper => ⟨hc, hh, hsize⟩ | .plist => ⟨pc, hp, psize⟩

/-- The directory, still empty. -/
theorem Inv.of_origin (hprotection : b.origin.protection = false) :
    Inv b (b.origin.withTransaction (some ⟨none, none, none⟩)) :=
  ⟨hprotection, fun a => .inl (by cases a <;> rfl), fun _ hj => by cases hj⟩

/-- While a transaction is prepared, its journal is there, and its directory in any case. -/
abbrev prepares (b : Beginning δ) (phase : Phase) : Except Thrown Unit → Disk δ → Prop :=
  outcome (fun _ d => At b phase d) fun _ d => d.transaction.isSome = true

variable [DecidableEq δ]

theorem safe_backUp {maximumBytes : ℕ} (a : Artifact) (h : At b .preparing d) :
    Keeps b E (backUp S (b.origin.get a.file).isSome (witnessOf S (b.origin.get a.file)) a.file a.backup
      maximumBytes) (prepares b .preparing) d := by
  refine safe_if (fun _ => h) fun _ => ?_
  have hcopied : Keeps b E (atomicCopy a.file a.backup 0o600) (prepares b .preparing) d := by
    refine safe_read.mpr ?_
    cases hsource : d.get a.file with
    | none => exact h.transaction
    | some e =>
      cases e with
      | other => exact h.transaction
      | file content m =>
        have horigin : b.origin.get a.file = some (.file content m) := h.quiet trivial a ▸ hsource
        have hset : At b .preparing (d.set (some (.file content 0o600)) a.backup) :=
          ⟨h.inv.setBackup (.inr (by rw [horigin]; rfl)), Disk.journal_setBackup.trans h.journal⟩
        exact (safe_atomicWrite h.transaction hset.inv hset.transaction fun _ => hset).except_mono
          (fun _ _ h' => h'.1) fun _ _ h' => h'
  refine safe_attempt_ok hcopied fun _ d1 h1 => ?_
  refine safe_read.mpr ?_
  cases fileWitness S (d1.get a.backup) 0o600 maximumBytes with
  | error e => exact h1.transaction
  | ok w => exact safe_if (fun _ => h1) fun _ => h1.transaction

theorem safe_prepareTransaction (hprotection : b.origin.protection = false) (hsettled : Settled b.origin) :
    Keeps b E (prepareTransaction b.toSetup (originJournal b .preparing)) (prepares b .backupsReady)
      (b.origin.withTransaction (some ⟨none, none, none⟩)) := by
  refine safe_attempt_of (safe_persist (Inv.of_origin hprotection) (fun hvalid => ⟨hsettled, hvalid⟩) rfl
    fun _ a => by cases a <;> rfl) (fun _ _ h => h.2) fun _ d1 h1 => ?_
  refine safe_attempt_ok (safe_backUp .helper h1.1) fun _ d2 h2 => ?_
  refine safe_attempt_ok (safe_backUp .plist h2) fun _ d3 h3 => ?_
  exact (safe_persist h3.inv (fun _ => h3.begun) h3.transaction fun _ => h3.quiet trivial).except_mono
    (fun _ _ h => h.2) fun _ _ h => h.1

theorem safe_beginTransaction (hprotection : b.origin.protection = false)
    (hstate : artifactInstallationState b.toSetup b.origin ≠ .recoveryRequired) :
    Keeps b E (beginTransaction b.toSetup b.command)
      (outcome (fun _ d => At b .backupsReady d) fun _ d => d = b.origin ∨ d.transaction.isSome = true)
      b.origin := by
  refine safe_read.mpr ?_
  cases hhelper : optionalWitness b.toSetup b.origin.helper 0o755 (64 * 1024 * 1024) with
  | error e => exact .inl rfl
  | ok helperWitness =>
    cases hplist : optionalWitness b.toSetup b.origin.plist 0o644 (64 * 1024) with
    | error e => exact .inl rfl
    | ok plistWitness =>
      have hsettled := settled_of_witnessed hstate hhelper hplist
      obtain ⟨rfl, -⟩ := optionalWitness_ok hhelper
      obtain ⟨rfl, -⟩ := optionalWitness_ok hplist
      refine safe_calling ⟨Inv.of_origin hprotection, safe_calling ?_ fun _ _ => .inr rfl⟩
        fun _ _ => .inl rfl
      exact (safe_prepareTransaction hprotection hsettled).except_mono (fun _ _ h => .inr h)
        fun _ _ h => h

/-- A command that begins a transaction, and takes its steps back where one of them fails. -/
theorem safe_begun {steps : Op δ Unit} {P : Disk δ → Prop} (hnone : b.origin.transaction = none)
    (hprotection : b.origin.protection = false)
    (hstate : artifactInstallationState b.toSetup b.origin ≠ .recoveryRequired)
    (hsteps : ∀ d, Inv b d → Keeps b E steps (outcome (fun _ d' => P d') fun _ d' => Inv b d') d) :
    Keeps b E (begun b.toSetup b.command <| guarded steps (rollbackAndThrow b.toSetup) fun _ => .ret (.ok ()))
      (outcome (fun _ d' => P d') (TruthfulError b.origin)) b.origin := by
  refine safe_guarded_of (safe_beginTransaction hprotection hstate) (fun e d h => ?_) fun _ d h =>
    safe_guarded_of (hsteps d h.inv) (fun _ _ h' => safe_rollbackAndThrow h') fun _ _ h' => h'
  refine safe_if (fun _ => .failed) fun hno => ?_
  obtain rfl := h.resolve_right hno
  exact .of_same ⟨hnone, rfl, rfl, rfl⟩

end Beginning

/-! ## Whole commands -/

section Whole

/-- What comes before the commands themselves changes nothing. -/
theorem safe_before {c : Call} {fail : Thrown → Op δ α} {k : Unit → Op δ α} {p : Op δ Unit}
    {post : Except Thrown α → Disk δ → Prop} (hp : p = calling c (.ret (.ok ())) ∨
      ∃ c', p = calling c' (calling c (.ret (.ok ()))))
    (hfail : ∀ e, Keeps b E (fail e) post d) (hk : Keeps b E (k ()) post d) :
    Keeps b E (guarded p fail k) post d := by
  have hlast : Keeps b E (calling c (.ret (.ok ())))
      (outcome (fun _ d' => d' = d) fun _ d' => d' = d) d := safe_calling rfl fun _ _ => rfl
  have hcalls : Keeps b E p (outcome (fun _ d' => d' = d) fun _ d' => d' = d) d := by
    rcases hp with rfl | ⟨c', rfl⟩
    · exact hlast
    · exact safe_calling hlast fun _ _ => rfl
  refine safe_guarded_of hcalls ?_ ?_
  · rintro e _ rfl
    exact hfail e
  · rintro ⟨⟩ _ rfl
    exact hk

/-- The disk from which a command runs: the one before the transaction, or one that the transaction has
    left. -/
def From (b : Beginning δ) (next : Command) (d : Disk δ) : Prop :=
  (d = b.origin ∧ next = b.command ∧ d.transaction = none) ∨ (Inv b d ∧ d.transaction.isSome = true)

variable [DecidableEq δ]

/-- What a receipt that is given without any change is worth: the service is loaded where the files are
    there already, and is not where they are gone. -/
structure Honest (S : Setup δ) (command : Command) (d : Disk δ) : Prop where
  none : d.transaction = none
  installed : command = .install → installationState S d = .ready → d.loaded = true
  absent : command = .uninstall → installationState S d = .installRequired → d.loaded = false

omit [DecidableEq δ] in
theorem gone_of_state (h : artifactInstallationState S d = .installRequired) :
    d.helper = none ∧ d.plist = none := by
  unfold artifactInstallationState at h
  split_ifs at h with hgone
  exact hgone

/-- The first command of a transaction reports the truth. -/
def Reports (b : Beginning δ) (d : Disk δ) (r : Except Thrown InstallerState) (d' : Disk δ) : Prop :=
  b.command ≠ .status → Matching b.toSetup → d.transaction = none → Honest b.toSetup b.command b.origin →
    Truthful b.toSetup b.command b.origin r d'

/-- **Every command keeps the invariant**, the one that begins the transaction and those that follow. -/
theorem safe_perform {next : Command} (h : From b next d) :
    Keeps b E (perform b.toSetup next) (Reports b d) d := by
  have herr : ∀ e, Reports b d (.error e) d := by
    intro e _ _ hnone _
    rcases h with ⟨rfl, -⟩ | ⟨-, hsome⟩
    · exact .of_same ⟨hnone, rfl, rfl, rfl⟩
    · simp [hnone] at hsome
  refine safe_before (.inl rfl) (fun _ => herr _) ?_
  refine safe_if (fun hstatus hcommand _ hnone _ => ?_) fun _ => safe_calling ?_ fun _ => herr
  · rcases h with ⟨-, rfl, -⟩ | ⟨-, hsome⟩
    · exact absurd hstatus hcommand
    · simp [hnone] at hsome
  refine safe_before (.inr ⟨_, rfl⟩) (fun _ => herr _) ?_
  refine safe_if (fun _ => herr _) fun hprotection => ?_
  refine safe_if (fun _ => herr _) fun hrecover => ?_
  refine safe_if (fun _ => herr _) fun hother => ?_
  -- only `recover` runs where the directory is there
  rcases h with ⟨rfl, rfl, hnone⟩ | ⟨hinv, hsome⟩
  · have hstate : artifactInstallationState b.toSetup b.origin = installationState b.toSetup b.origin := by
      simp [installationState, hnone, hprotection]
    have hresult : ∀ (steps : Op δ Unit) (s : InstallerState), (∀ d, Inv b d → Keeps b E steps
          (outcome (fun _ d' => Matching b.toSetup → Target b.toSetup b.command d') fun _ d' => Inv b d') d) →
        installationState b.toSetup b.origin ≠ .recoveryRequired →
        Keeps b E (attempt (begun b.toSetup b.command <| guarded steps (rollbackAndThrow b.toSetup)
          fun _ => .ret (.ok ())) fun _ => .ret (.ok s)) (Reports b b.origin) b.origin :=
      fun steps s hsteps hbroken => safe_attempt_of (safe_begun hnone (Bool.of_not_eq_true hprotection)
        (hstate ▸ hbroken) hsteps) (fun _ _ h' _ _ _ _ => h') fun _ _ h' _ hm _ _ => h' hm
    obtain ⟨setup, origin, command⟩ := b
    cases command with
    | status => exact fun hcommand => absurd rfl hcommand
    | recover => exact absurd ⟨rfl, hnone⟩ hrecover
    | install =>
      refine safe_if (fun hready _ _ _ hhonest => ⟨hstate.trans hready, hhonest.installed rfl hready⟩)
        fun _ => safe_if (fun _ => herr _) fun hbroken => ?_
      exact safe_if (fun _ => herr _) fun _ => hresult _ _ (fun _ => safe_replaceSteps) hbroken
    | update =>
      refine safe_if (fun _ => herr _) fun _ => safe_if (fun _ => herr _) fun hbroken => ?_
      exact hresult _ _ (fun _ => safe_replaceSteps) hbroken
    | uninstall =>
      refine safe_if (fun habsent _ _ _ hhonest => ⟨gone_of_state (hstate.trans habsent),
        hhonest.absent rfl habsent⟩) fun _ => safe_if (fun _ => herr _) fun hbroken => ?_
      exact hresult _ _ (fun _ h => (safe_removeSteps h).ok_mono fun _ _ h' _ => h')
        hbroken
  · have hnext : next = .recover := by
      by_contra hne
      exact hother ⟨hne, hsome⟩
    subst hnext
    refine (safe_recover hinv).post_mono fun _ _ _ _ _ hnone _ => ?_
    simp [hnone] at hsome

/-- Where a command that began at the origin, and the commands that followed it while the directory was
    there, can have stopped. -/
inductive Interrupted (b : Beginning δ) : Disk δ → Prop where
  | first {d : Disk δ} (h : Stops anyAnswer (perform b.toSetup b.command) b.origin d) : Interrupted b d
  | later {d d' : Disk δ} (next : Command) (h : Interrupted b d) (hsome : d.transaction.isSome = true)
      (hnext : Stops anyAnswer (perform b.toSetup next) d d') : Interrupted b d'

/-- **Wherever the installer stops,** it is at the beginning or in the invariant. -/
theorem interrupted_inv (hnone : b.origin.transaction = none) (h : Interrupted b d) :
    d = b.origin ∨ Inv b d := by
  have hstop : ∀ {next : Command} {d1 d2 : Disk δ}, From b next d1 → (d1 = b.origin ∨ Inv b d1) →
      Stops anyAnswer (perform b.toSetup next) d1 d2 → (d2 = b.origin ∨ Inv b d2) :=
    fun hfrom h1 hstops => stops_of_safe (I := fun d => d = b.origin ∨ Inv b d)
      (safe_perform hfrom) (fun _ _ h _ => .inr h) h1 hstops
  induction h with
  | first h => exact hstop (.inl ⟨rfl, rfl, hnone⟩) (.inl rfl) h
  | later next _ hsome hnext ih =>
    rcases ih with rfl | hinv
    · rw [hnone] at hsome
      cases hsome
    · exact hstop (.inr ⟨hinv, hsome⟩) (.inr hinv) hnext

end Whole

/-! ## The main result -/

section Result

variable [DecidableEq δ]

/-- Every call succeeds; the entries of the directory come in this order. -/
def allOk (order : List Part) : (q : Question) → Disk δ → Answer q
  | .call _, _ => none
  | .removalOrder, _ => order

/-- There is no transaction directory, or `recover` succeeds and leaves none, and helper, property list
    and service are all as they were or all as the command wanted them. -/
def Recovers (b : Beginning δ) (d : Disk δ) : Prop :=
  d.transaction = none ∨ ∀ order, Succeeds (allOk order) (perform b.toSetup .recover)
    (fun _ d' => d'.transaction = none ∧ (Same d' b.origin ∨ Target b.toSetup b.command d')) d

theorem run_perform_recover {order : List Part} (hprotection : d.protection = false) (hsome : d.transaction.isSome = true) :
    run (allOk order) (perform S .recover) d =
      run (allOk order) (recoverInterruptedTransaction S) d := by
  show run _ (if d.protection = true then _ else if Command.recover = .recover ∧ d.transaction = none then _
    else _) d = _
  rw [if_neg (by simp [hprotection]), if_neg (by simp [← Option.isSome_iff_ne_none, hsome])]
  rfl

/-- **Recovery succeeds exactly on intact disks.**  Wherever the command, begun at a disk without a
    transaction directory, and the commands after it were interrupted, by whatever answers: `recover`
    succeeds, leaves no directory, and helper, property list and service are all as before or all as
    the command wanted them, if and only if the disk is intact. -/
theorem recovers_iff_intact (hnone : b.origin.transaction = none) (h : Interrupted b d) :
    Recovers b d ↔ Intact b.toSetup d := by
  cases htransaction : d.transaction with
  | none => exact ⟨fun _ => .inl htransaction, fun _ => .inl htransaction⟩
  | some t =>
    have hsome : d.transaction.isSome = true := by rw [htransaction]; rfl
    have hinv : Inv b d := by
      refine (interrupted_inv hnone h).resolve_left fun hd => ?_
      rw [hd, hnone] at htransaction
      cases htransaction
    have hrecover : ∀ order : List Part, outcome (fun _ d' => Done b d' ∧
        ∃ j, d.journal = some j ∧ Usable b.toSetup d j)
        (fun _ _ => ¬∃ j, d.journal = some j ∧ Usable b.toSetup d j)
        (run (allOk order) (perform b.toSetup .recover) d).1
        (run (allOk order) (perform b.toSetup .recover) d).2 := by
      intro order
      rw [run_perform_recover hinv.protection hsome]
      have hfails : ¬Fails fun q (d : Disk δ) answer => answer = allOk order q d := by
        rintro ⟨c, d', e, he⟩
        cases he
      refine run_of_safe (allOk order) (E := fun q d answer => answer = allOk order q d) (C := Kept b)
        (fun _ _ => rfl) ((safe_recover hinv).except_mono (fun _ _ h' => ?_) fun _ _ h' => ?_)
      · exact h'.resolve_left hfails
      · exact ⟨h'.1, h'.2.resolve_left hfails⟩
    constructor
    · intro hrecovers
      obtain ⟨s, d', hok, -⟩ := hrecovers.resolve_left (by simp [htransaction]) []
      have hresult := hrecover []
      rw [hok] at hresult
      exact .inr hresult.2
    · intro hintact
      have husable := hintact.resolve_left (by simp [htransaction])
      refine .inr fun order => ?_
      have hresult := hrecover order
      cases hok : run (allOk order) (perform b.toSetup .recover) d with
      | mk r d' =>
        rw [hok] at hresult
        cases r with
        | error e => exact absurd husable hresult
        | ok s => exact ⟨s, d', hok, hresult.1⟩

/-- A machine without the helper, on which it is installed. -/
def fresh : Beginning ℕ :=
  ⟨⟨List.length, fun _ => true, [0], [1], (· == [1])⟩, ⟨none, none, false, false, none⟩, .install⟩

/-- The disk on which `install` stops after so many steps. -/
def installing (n : ℕ) : Disk ℕ := halt (allOk []) (perform fresh.toSetup .install) n fresh.origin

theorem installing_interrupted (n : ℕ) : Interrupted fresh (installing n) :=
  .first (stops_halt (allOk []) (fun _ _ => trivial) _ n fresh.origin)

/-- Interrupted after the new helper has been put in its place. -/
theorem recovers_iff_intact_helper : (installing 19).helper = some (.file [0] 0o755) ∧
    (installing 19).transaction.isSome = true ∧ Recovers fresh (installing 19) :=
  ⟨rfl, rfl, (recovers_iff_intact rfl (installing_interrupted 19)).mpr
    (.inr ⟨⟨.install, .mutationStarted, false, false, false, none, none⟩, rfl, .inr ⟨nofun, nofun⟩⟩)⟩

/-- Interrupted between the directory and the journal: every command but `recover` is refused because of
    the directory, and `recover` because there is no journal. -/
theorem emptyDirectory_unrecoverable :
    Interrupted fresh (installing 6) ∧ ¬Recovers fresh (installing 6) ∧
      run (allOk []) (perform fresh.toSetup .recover) (installing 6) =
        (.error (.code .recoveryUnavailable), installing 6) ∧
      run (allOk []) (perform fresh.toSetup .install) (installing 6) =
        (.error (.code .recoveryRequired), installing 6) := by
  have hrefused : run (allOk []) (perform fresh.toSetup .recover) (installing 6) =
      (.error (.code .recoveryUnavailable), installing 6) := by decide +kernel
  refine ⟨installing_interrupted 6, ?_, hrefused, by decide +kernel⟩
  rintro (hnone | hrecovers)
  · exact absurd hnone (by decide +kernel)
  · obtain ⟨s, d', hok, -⟩ := hrecovers []
    rw [hrefused] at hok
    cases hok

/-! ## Reports -/

/-- Every call succeeds but the first, which finds the artifacts invalid. -/
def artifactsInvalid : (q : Question) → Disk δ → Answer q
  | .call .validateArtifacts, _ => some (.code .artifactInvalid)
  | .call _, _ => none
  | .removalOrder, _ => []

/-- **When exactly a command reports the truth**, whatever calls fail: where no directory of an earlier
    transaction is there, and where `install` finds the files installed the service is loaded, and where
    `uninstall` finds none it is not. -/
theorem reports_truth_iff {command : Command} (hmatching : Matching S)
    (hcommand : command = .install ∨ command = .update ∨ command = .uninstall) :
    Safe anyAnswer (fun _ => True) (perform S command) (Truthful S command d) d ↔
      Honest S command d := by
  constructor
  · intro h
    have hnone : d.transaction = none :=
      ((run_of_safe artifactsInvalid (fun _ _ => trivial) h).resolve_left nofun).1
    have hrun := run_of_safe (allOk []) (fun _ _ => trivial) h
    have hprotection : ∀ s, installationState S d = s → s ≠ .recoveryRequired → d.protection = false := by
      rintro s rfl hs
      by_contra hp
      simp [installationState, hp] at hs
    refine ⟨hnone, ?_, ?_⟩
    · rintro rfl hready
      have hok : run (allOk []) (perform S .install) d = (.ok .ready, d) := by
        show run _ (if d.protection = true then _ else if _ ∧ d.transaction = none then _
          else if _ ∧ d.transaction.isSome = true then _ else
            if installationState S d = .ready then _ else _) d = _
        simp [hprotection _ hready nofun, hnone, hready, run]
      rw [hok] at hrun
      exact hrun.2
    · rintro rfl habsent
      have hok : run (allOk []) (perform S .uninstall) d = (.ok .installRequired, d) := by
        show run _ (if d.protection = true then _ else if _ ∧ d.transaction = none then _
          else if _ ∧ d.transaction.isSome = true then _ else
            if installationState S d = .installRequired then _ else _) d = _
        simp [hprotection _ habsent nofun, hnone, habsent, run]
      rw [hok] at hrun
      exact hrun.2
  · intro hhonest
    have hsafe := safe_perform (b := ⟨S, d, command⟩) (E := anyAnswer) (.inl ⟨rfl, rfl, hhonest.none⟩)
    refine hsafe.mono (fun _ _ => trivial) fun r d' h => h ?_ hmatching hhonest.none hhonest
    rcases hcommand with rfl | rfl | rfl <;> nofun

/-- An installation on a machine without the helper. -/
theorem reports_truth_iff_fresh : Matching fresh.toSetup ∧ Safe anyAnswer (fun _ => True)
    (perform fresh.toSetup .install) (Truthful fresh.toSetup .install fresh.origin) fresh.origin :=
  ⟨rfl, (reports_truth_iff (S := fresh.toSetup) rfl (.inl rfl)).mpr ⟨rfl, fun _ h => (nomatch h), nofun⟩⟩

/-- The files are installed, and the service is not loaded. -/
def unloaded : Disk ℕ := ⟨some (.file [0] 0o755), some (.file [1] 0o644), false, false, none⟩

/-- `install` has a receipt for it all the same. -/
theorem ready_without_service :
    run (allOk []) (perform fresh.toSetup .install) unloaded = (.ok .ready, unloaded) ∧
    ¬Truthful fresh.toSetup .install unloaded (.ok .ready) unloaded :=
  ⟨by decide +kernel, fun h => (nomatch h.2)⟩

end Result

end Commands

end HelperInstaller
