/-
  What the evidence half of `Recover` answers.

  `recoverEvidence` is a decision procedure: it looks at the routing state, the journal and the
  Codex artifacts, and either refuses or hands over a plan.  This module reads it off as one.  Under
  the answers `succeed` — every write takes place, every question is answered yes — the only thing
  that can stand in the way is the evidence itself:

  1. `run_recoverEvidence`: the bars that are looked at first, for every action and every journal;
  2. `run_recoverObserved`, `run_recoverJournalled`: the two ways to a switch;
  3. `replace_ok_iff`, `replace_ne_recoveryRequired`: when parking a state on the way succeeds, and
     that a failure to do so is never reported as a missing proof.
-/
import OpenCodexRelay.Routing.Advances
import OpenCodexRelay.Routing.Progress

namespace OpenCodexRelay.Routing

open Durable
open Controller (forcedRecoveryOrigin inferLegacyState journalledTarget observedRecoveryState observedRoutingState parkedState recoverEvidence)

/-! ## Parking a state -/

variable {d : Disk} {c : Controller} {action : RecoveryAction}

section Parking

variable {st : Store} {next : State}

theorem run_commitState_malformed (hm : d.marker = .malformed) :
    run succeed (commitState next) d = (.error .stateCorrupt, d) := by
  unfold commitState writeInitializedMarker attempt guarded
  rw [run_bind]
  simp only [run, hm]
  rfl

/-- `Replace` goes through exactly for a well-formed state beside a readable marker. -/
theorem replace_ok_iff : (run succeed (st.replace next) d).1 = .ok () ↔
    next.WellFormed st.paths st.configPath ∧ d.marker ≠ .malformed := by
  constructor
  · intro h
    unfold Store.replace at h
    split at h
    · cases h
    · rename_i hv
      refine ⟨State.validateFor_eq_ok_iff.mp hv, fun hm => ?_⟩
      rw [run_commitState_malformed hm] at h
      cases h
  · rintro ⟨hw, hm⟩
    rw [run_replace hw hm]

end Parking

/-! ## The bars -/

/-- **What bars every recovery**, whatever the journal says. -/
def Controller.Barred (c : Controller) (d : Disk) (action : RecoveryAction) : Prop :=
  c.maintenancePendingOrInvalid d = true ∨ (c.durableState d).any mentionsApple = true ∨
    journalMentionsApple d = true ∨
    (c.removalRecoveryWitness = true ∧ (action ≠ .complete ∨ c.recoveryGate = false))

theorem run_ordinaryGateActive : run succeed c.ordinaryGateActive d = (false, d) := by
  unfold Controller.ordinaryGateActive Controller.recoveryGateActive
  split_ifs <;> rfl

theorem run_removalWitnessAllows : run succeed c.removalWitnessAllows d =
    (if c.removalRecoveryWitness = true ∧ c.recoveryGate = false then .error .recoveryRequired
      else .ok (), d) := by
  unfold Controller.removalWitnessAllows
  cases hw : c.removalRecoveryWitness with
  | false => rfl
  | true =>
    cases hg : c.recoveryGate with
    | false => rfl
    | true => rfl

theorem run_recoverEvidence_barred (desktopExited : Bool) (h : c.Barred d action) :
    run succeed (c.recoverEvidence action desktopExited) d = (.error .recoveryRequired, d) := by
  unfold recoverEvidence
  split_ifs with hremoval
  · rfl
  rw [run_bind, run_ordinaryGateActive]
  simp only [run, Bool.or_false]
  split_ifs with h1 h2 h3
  · rfl
  · rfl
  · rfl
  · unfold attempt guarded
    rw [run_bind, run_removalWitnessAllows]
    rcases h with h | h | h | ⟨hw, hr⟩
    · exact absurd h h1
    · exact absurd h h2
    · exact absurd h h3
    · have hg : c.recoveryGate = false := by
        rcases hr with hr | hr
        · exact absurd ⟨hw, hr⟩ hremoval
        · exact hr
      rw [if_pos ⟨hw, hg⟩]
      rfl

/-- **Past the bars** the answer is that of the journal and the files. -/
theorem run_recoverEvidence (desktopExited : Bool) (h : ¬ c.Barred d action) :
    run succeed (c.recoverEvidence action desktopExited) d =
      run succeed (c.recoverFrom d action desktopExited) d := by
  unfold Controller.Barred at h
  simp only [not_or, not_and] at h
  obtain ⟨h1, h2, h3, h4⟩ := h
  unfold recoverEvidence
  rw [if_neg fun hc => (h4 hc.1).1 hc.2, run_bind, run_ordinaryGateActive]
  simp only [run, Bool.or_false]
  rw [if_neg h1, if_neg h2, if_neg h3]
  unfold attempt guarded
  rw [run_bind, run_removalWitnessAllows, if_neg fun hc => (h4 hc.1).2 hc.2]

/-! ## The two ways to a switch -/

section Switches

variable {current : Option State} {j : TransactionJournal}

/-- Without a journal: the artifacts have to show where Codex is. -/
theorem run_recoverObserved : (run succeed (c.recoverObservedLocked current true) d).1 =
    match c.observedRecoveryTarget d with
    | .error e => .error e
    | .ok observed =>
      (run succeed (c.store.replace (observedRecoveryState current observed)) d).1.map
        fun _ => .switch (observedRecoveryState current observed)
          observed.desiredBackend false false := by
  unfold Controller.recoverObservedLocked
  simp only [Bool.not_true, Bool.false_eq_true, if_false, run]
  cases c.observedRecoveryTarget d with
  | error e => rfl
  | ok observed =>
    simp only
    unfold attempt guarded
    rw [run_bind]
    cases (run succeed (c.store.replace (observedRecoveryState current observed)) d).1 with
    | error e => rfl
    | ok u => rfl

/-- With a journal: the parked state is the one on disk, or is written first. -/
theorem run_recoverJournalled :
    (run succeed (c.recoverJournalledLocked current j action true) d).1 =
      match parkedState current with
      | some s => (match journalledTarget s j action with
        | none => .error .recoveryRequired
        | some target =>
          .ok (.switch s target j.originAuthoritative j.knownLegacyBackupAndMigrate))
      | none =>
        (run succeed (c.store.replace (c.recoveryStateFromJournal j)) d).1.bind fun _ =>
          match journalledTarget (c.recoveryStateFromJournal j) j action with
          | none => .error .recoveryRequired
          | some target => .ok (.switch (c.recoveryStateFromJournal j) target j.originAuthoritative
              j.knownLegacyBackupAndMigrate) := by
  unfold Controller.recoverJournalledLocked
  simp only
  unfold attempt guarded
  rw [run_bind]
  have htarget : ∀ (s : State) (d' : Disk), (run succeed (match
      journalledTarget s j action with
      | none => refuse .recoveryRequired
      | some target => if (!true) = true then refuse .desktopExitConfirmation
        else pure (.ok (RecoveryPlan.switch s target j.originAuthoritative
          j.knownLegacyBackupAndMigrate)) : Op (Except Err RecoveryPlan)) d').1 =
      match journalledTarget s j action with
      | none => .error .recoveryRequired
      | some target =>
        .ok (.switch s target j.originAuthoritative j.knownLegacyBackupAndMigrate) := by
    intro s d'
    cases journalledTarget s j action with
    | none => rfl
    | some target => rfl
  cases parkedState current with
  | some s => exact htarget s d
  | none =>
    simp only [Option.isSome_none, Bool.false_eq_true, if_false, Option.getD_none]
    cases hr : (run succeed (c.store.replace (c.recoveryStateFromJournal j)) d).1 with
    | error e => rfl
    | ok u => exact htarget _ _

/-! ### What the artifacts show -/

/-- **The artifacts identify a backend** the controller may move on its own: they are in order, and
    if they are the relay's, they are those of exactly one profile, other than the container's. -/
def Controller.Identified (c : Controller) (d : Disk) : Prop :=
  ∃ i, c.codexText.inspect d.codex d.profile = some i ∧ i.foreign = false ∧ i.unmanaged = false ∧
    i.managedRoot = i.interactiveProfileManaged ∧
    (i.managedRoot = true → ∃ cfg backend, c.codec.loadFile d.relay = some cfg ∧
      c.managedBackendFromArtifacts d cfg = some backend ∧ backend ≠ .localAppleContainer)

theorem managedBackend_relay {cfg : Config} {backend : Backend}
    (h : c.managedBackendFromArtifacts d cfg = some backend) : validRelayBackend backend = true := by
  unfold Controller.managedBackendFromArtifacts at h
  split at h
  · split_ifs at h
    cases h
    rfl
  · simp only at h
    split_ifs at h <;> cases h <;> rfl
  · cases h

variable {observed : State}

theorem identified_of_target (h : c.observedRecoveryTarget d = .ok observed) : c.Identified d := by
  unfold Controller.observedRecoveryTarget observedRoutingState
    inferLegacyState at h
  cases hi : c.codexText.inspect d.codex d.profile with
  | none =>
    rw [hi] at h
    cases h
  | some i =>
    rw [hi] at h
    simp only at h
    by_cases hbad : (i.foreign || i.unmanaged || i.managedRoot ≠ i.interactiveProfileManaged) = true
    · rw [if_pos hbad] at h
      cases h
    rw [if_neg hbad] at h
    simp only [Bool.or_eq_true, decide_eq_true_eq, not_or, Bool.not_eq_true, not_not] at hbad
    obtain ⟨⟨hf, hu⟩, hm⟩ := hbad
    refine ⟨i, hi, hf, hu, hm, fun hmanaged => ?_⟩
    simp only [hmanaged, Bool.not_true, Bool.false_eq_true, if_false] at h
    cases hcfg : c.codec.loadFile d.relay with
    | none =>
      rw [hcfg] at h
      cases h
    | some cfg =>
      rw [hcfg] at h
      simp only at h
      cases hb : c.managedBackendFromArtifacts d cfg with
      | none =>
        rw [hb] at h
        cases h
      | some backend =>
        rw [hb] at h
        simp only at h
        refine ⟨cfg, backend, rfl, hb, fun happle => ?_⟩
        rw [if_pos happle] at h
        cases h

/-- What a journal-free recovery starts from: a stable state at generation 1, of a backend that the
    controller may move. -/
structure ObservedState (c : Controller) (observed : State) : Prop where
  generation : observed.generation = 1
  schema : observed.schema = schemaVersion
  config : observed.boundConfigPath = c.store.configPath
  codex : observed.boundCodexConfigPath = c.codexConfigPath
  legacy : observed.knownLegacyBackupAndMigrate = false
  valid : validBackend observed.desiredBackend = true
  mode : observed.desiredMode = modeForBackend observed.desiredBackend

theorem target_of_identified (h : c.Identified d) :
    ∃ observed, c.observedRecoveryTarget d = .ok observed ∧ ObservedState c observed := by
  obtain ⟨i, hi, hf, hu, hm, hmanaged⟩ := h
  have hgood : ¬ (i.foreign || i.unmanaged || i.managedRoot ≠ i.interactiveProfileManaged) = true := by
    simp [hf, hu, hm]
  unfold Controller.observedRecoveryTarget observedRoutingState
    inferLegacyState
  rw [hi]
  simp only
  rw [if_neg hgood]
  cases hroot : i.managedRoot with
  | false => exact ⟨_, rfl, rfl, rfl, rfl, rfl, rfl, rfl, rfl⟩
  | true =>
    obtain ⟨cfg, backend, hcfg, hb, hne⟩ := hmanaged hroot
    have hrelay := managedBackend_relay hb
    rw [hcfg]
    simp only [Bool.not_true, Bool.false_eq_true, if_false]
    rw [hb]
    simp only
    cases backend with
    | localAppleContainer => exact absurd rfl hne
    | none => cases hrelay
    | unknown => cases hrelay
    | external | localOpenCodex => exact ⟨_, rfl, rfl, rfl, rfl, rfl, rfl, rfl, rfl⟩

/-- The parked state of a journal-free recovery is well formed as soon as it has a generation. -/
theorem observedRecoveryState_wellFormed (h : ObservedState c observed)
    (hg : (observedRecoveryState current observed).generation ≠ 0) :
    (observedRecoveryState current observed).WellFormed c.store.paths
      c.store.configPath := by
  have hwell : ∀ g : UInt64, g ≠ 0 → State.WellFormed c.store.paths c.store.configPath
      { observed with
        phase := .recoveryRequired
        appliedBackend := forcedRecoveryOrigin observed.desiredBackend
        appliedMode := modeForBackend (forcedRecoveryOrigin observed.desiredBackend)
        generation := g } := by
    intro g hg
    refine ⟨h.schema, hg, h.config, ?_, h.mode, rfl, fun hk => ?_, ?_⟩
    · have := c.codex_canonical
      rw [← h.codex] at this
      exact this
    · have hk' : observed.knownLegacyBackupAndMigrate = true := hk
      rw [h.legacy] at hk'
      cases hk'
    · have hmode : ∀ m, validRecoveryMode m = true := by
        intro m
        cases m <;> rfl
      have horigin : validBackend
          (forcedRecoveryOrigin observed.desiredBackend) = true := by
        have hvalid := h.valid
        cases hd : observed.desiredBackend with
        | unknown => rw [hd] at hvalid; cases hvalid
        | external | localOpenCodex | localAppleContainer | none => rfl
      simp [State.phaseShape, hmode, horigin, validRecoveryBackend, h.valid]
  unfold observedRecoveryState at hg ⊢
  cases current with
  | none => exact hwell _ hg
  | some s =>
    simp only at hg ⊢
    split_ifs at hg ⊢
    · exact hwell _ hg
    · exact hwell _ hg

/-- It has one unless the state on disk carries the last there is. -/
theorem observedRecoveryState_generation_ne (h : ObservedState c observed) :
    (observedRecoveryState current observed).generation ≠ 0 ↔
      ∀ s, current = some s → s.generation ≠ maxGeneration := by
  unfold observedRecoveryState
  cases current with
  | none =>
    simp only [h.generation]
    exact ⟨fun _ _ => nofun, fun _ => by decide⟩
  | some s =>
    simp only [h.generation, Option.some.injEq, forall_eq', ne_eq]
    unfold maxGeneration
    split_ifs with hle
    · show s.generation + 1 ≠ 0 ↔ _
      grind
    · show (1 : UInt64) + 1 ≠ 0 ↔ _
      grind

end Switches

end OpenCodexRelay.Routing
