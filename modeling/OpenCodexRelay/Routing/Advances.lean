/-
  What is demanded of the controller's writes and waits.

  A generation is a compare-and-swap token: the relay acknowledges it, gateway changes and removals
  are bound to it.  `Advances` demands of EVERY write of the routing state that it is newer than the
  readable state it replaces; `Waits` demands of every wait for a final state that the state is
  durable and no journal lies beside it.

  1. The two demands, and what is known of the state on disk (`AtMost`, `Newer`, `Bound`).
  2. Which states are bound to the controller's own Codex config.
  3. `Save` compares generations itself.  `Replace` compares nothing, so whoever uses it owes an
     argument about the state on disk: one lemma per state that a recovery puts there.

  Two kinds of write are not newer.  A native repair whose second look fails puts the parked state
  back: that write is older ON PURPOSE (`PutsBack`).  And a recovery beside a journal that the state
  has overtaken writes a generation that is not new: `JournalBehind` and `RecoveryBehind` are those
  positions.
-/
import OpenCodexRelay.Routing.WitnessPlan

namespace OpenCodexRelay.Routing

open Durable

/-! ## The demands -/

/-- **What is demanded of a write of the routing state**: it is bound to the controller's own Codex
    config, and newer than the readable state it replaces, unless `Restored` allows it. -/
def Advances (c : Controller) (Restored : State → Disk → Prop) : Observed → Prop
  | .asked (.store (.state next)) d =>
    next.boundCodexConfigPath = c.codexConfigPath ∧
      (Restored next d ∨
        ∀ previous, c.store.read d = .ok (previous, false) → previous.generation < next.generation)
  | .wrote d d' =>
    d'.state = d.state ∨
      ∃ next : State, next.boundCodexConfigPath = c.codexConfigPath ∧ d'.state = .record next
  | _ => True

/-- **What is demanded of a wait**: the final state is durable, and there is no journal.  The
    witnesses of the lifecycle are left alone all the while. -/
def Waits (st : Store) : Observed → Prop
  | .asked (.awaitFinalized final) d =>
    st.read d = .ok (final, false) ∧ d.journal = .absent ∧
      final.appliedBackend ≠ .localAppleContainer
  | .wrote d d' => d'.maintenance = d.maintenance ∧ d'.runtimeRouting = d.runtimeRouting
  | _ => True

/-- What can be read has at most this generation. -/
def AtMost (c : Controller) (generation : UInt64) (d : Disk) : Prop :=
  ∀ s, c.store.read d = .ok (s, false) → s.generation ≤ generation

/-- The state is newer than what can be read, if it has a generation at all. -/
def Newer (c : Controller) (next : State) (d : Disk) : Prop :=
  next.generation ≠ 0 → ∀ previous, c.store.read d = .ok (previous, false) →
    previous.generation < next.generation

/-- A state that can be read is bound to this controller's Codex config. -/
def Controller.Bound (c : Controller) (d : Disk) : Prop :=
  ∀ s, c.store.read d = .ok (s, false) → s.boundCodexConfigPath = c.codexConfigPath

variable {d' d : Disk} {c : Controller} {s : State}

section Generations

variable {next : State}

theorem AtMost.of_read (h : c.store.read d = .ok (s, false)) : AtMost c s.generation d := by
  intro s' hs'
  rw [h] at hs'
  cases hs'
  exact UInt64.le_refl _

/-- Reading depends on the state file alone, so every write of another file keeps the bound. -/
theorem AtMost.congr {generation : UInt64} (h : AtMost c generation d) (hs : d'.state = d.state) :
    AtMost c generation d' :=
  fun s hr => h s (Store.read_congr hr hs.symm)

/-- The successor of a bound is newer. -/
theorem AtMost.newer {generation : UInt64} (h : AtMost c generation d)
    (hnext : next.generation = generation + 1) : Newer c next d := by
  intro hne previous hr
  rw [hnext] at hne ⊢
  exact UInt64.lt_of_le_of_lt (h previous hr) (next_generation_gt hne)

theorem newer_of_read (hr : c.store.read d = .ok (s, false)) (h : s.generation < next.generation) :
    Newer c next d := by
  intro _ previous hp
  rw [hr] at hp
  cases hp
  exact h

theorem Controller.Bound.of_read (hr : c.store.read d = .ok (s, false))
    (hb : s.boundCodexConfigPath = c.codexConfigPath) : c.Bound d := by
  intro s' hs'
  rw [hr] at hs'
  cases hs'
  exact hb

end Generations

/-! ## Bound states -/

section Bound

variable {R : State → Disk → Prop}

theorem decodeState_codex {P : Paths} {s' : State} {bound : String}
    (h : decodeState P s bound = .ok s') : s'.boundCodexConfigPath = s.boundCodexConfigPath := by
  simp only [decodeState] at h
  split_ifs at h
  all_goals
    split at h <;> cases h
  · unfold migrateSchemaV1
    split_ifs
    · rfl
    · rfl
  · rfl
  · rfl

theorem Controller.Bound.step (hB : c.Bound d) (h : Advances c R (.wrote d d')) : c.Bound d' := by
  intro s' hs'
  rcases h with hsame | ⟨next, hb, hnext⟩
  · exact hB s' (Store.read_congr hs' hsame.symm)
  · rcases Store.read_cases hs' with ⟨-, stored, hstate, hdecode⟩ | ⟨hno, -⟩
    · rw [hnext] at hstate
      cases hstate
      exact (decodeState_codex hdecode).trans hb
    · cases hno

/-- The binding survives whatever meets the demand, to wherever it stops. -/
theorem Safe.stopsBound {α : Type} {E : Env Disk Query (fun _ => Bool)} {p : Op α}
    {post : α → Disk → Prop} (h : Safe E (Advances c R) p post d) (hB : c.Bound d)
    (hstop : Stops E p d d') : c.Bound d' :=
  stops_of_safe h (fun _ _ hC hI => hI.step hC) hB hstop

theorem inferLegacyState_codex {inferred : State} (h : c.inferLegacyState d s = .ok inferred) :
    inferred.boundCodexConfigPath = c.codexConfigPath := by
  unfold Controller.inferLegacyState at h
  split at h
  · cases h
  split_ifs at h
  · cases h
    rfl
  split at h
  · cases h
  split at h
  · cases h
  · cases h
    rfl

/-- What the bound state is, and that it is bound to this controller's Codex config. -/
theorem boundState_eq {legacy : Bool} (h : c.boundState d = .ok (s, legacy)) :
    ((legacy = false ∧ c.store.read d = .ok (s, false)) ∨
      legacy = true ∧ c.store.read d = .ok (newRelayState c.store.configPath, true) ∧
        c.inferLegacyState d (newRelayState c.store.configPath) = .ok s) ∧
    s.boundCodexConfigPath = c.codexConfigPath := by
  unfold Controller.boundState at h
  split at h
  · cases h
  · rename_i s' hr
    have hs' := (Store.read_legacy hr).2.2
    subst hs'
    split at h
    · cases h
    · rename_i inferred hinferred
      cases h
      exact ⟨.inr ⟨rfl, hr, hinferred⟩, inferLegacyState_codex hinferred⟩
  · rename_i hr
    split at h
    · cases h
    · rename_i hv
      cases h
      exact ⟨.inl ⟨rfl, hr⟩, (State.validateForCodexConfig_eq_ok_iff.mp hv).2⟩

/-- A bound state that is not inferred is the one on disk. -/
theorem boundState_durable (h : c.boundState d = .ok (s, false)) : c.store.read d = .ok (s, false) := by
  rcases (boundState_eq h).1 with ⟨-, hr⟩ | ⟨hlegacy, -⟩
  · exact hr
  · cases hlegacy

theorem durableState_of_read (hB : c.Bound d) (h : c.store.read d = .ok (s, false)) :
    c.durableState d = some s := by
  have hv := State.validateForCodexConfig_eq_ok_iff.mpr ⟨Store.read_wellFormed h, hB s h⟩
  unfold Controller.durableState Controller.boundState
  rw [h]
  simp only
  rw [hv]

theorem durableState_eq (h : c.durableState d = some s) :
    c.store.read d = .ok (s, false) ∧ s.boundCodexConfigPath = c.codexConfigPath := by
  unfold Controller.durableState at h
  split at h
  · rename_i s' hs'
    cases h
    exact ⟨boundState_durable hs', (boundState_eq hs').2⟩
  · cases h

/-- A staged state keeps the binding and the applied backend, and was not made from one under way. -/
theorem requestBackendTransition_eq {staged : State} {target : Backend} {changed : Bool}
    (h : requestBackendTransition s target = .ok (staged, changed)) :
    staged.boundCodexConfigPath = s.boundCodexConfigPath ∧
      staged.appliedBackend = s.appliedBackend ∧ s.phase ≠ .applying ∧
      s.phase ≠ .recoveryRequired := by
  unfold requestBackendTransition at h
  split_ifs at h with h1 h2 h3 h4 h5
  · cases h
    exact ⟨rfl, rfl, h2, h3⟩
  · cases h
    exact ⟨rfl, rfl, h2, h3⟩
  · split at h
    · cases h
    · cases h
      exact ⟨rfl, rfl, h2, h3⟩

end Bound

/-! ## States put on disk by a recovery -/

/-- **The positions at which a journal-derived recovery is not new**: the state on disk is not
    parked and has already left the generation of the journal behind. -/
def Controller.JournalBehind (c : Controller) (d : Disk) : Prop :=
  ∃ j s, loadJournal d = .ok (some j) ∧ j.kind = .routingSwitch ∧ c.durableState d = some s ∧
    s.phase ≠ .recoveryRequired ∧ j.generation < s.generation

/-- **The positions at which the parked state of a journal is not new**: it differs from the state
    on disk and carries the same generation. -/
def Controller.RecoveryBehind (c : Controller) (d : Disk) : Prop :=
  ∃ w s j recovery, c.runtimeRoutingEvidence d w = some (s, some j) ∧
    c.recoveryStateBeyond j s = some recovery ∧ s ≠ recovery ∧ recovery.generation = s.generation

/-- The state a repair of `s` commits. -/
def repairedState (s : State) : State :=
  { Controller.nativeState s with generation := s.generation + 1 }

/-- **The one write that goes back**: a repair that started at `d₀` puts the state it found there in
    the place of the one it has committed itself. -/
def PutsBack (c : Controller) (d₀ : Disk) (next : State) (d : Disk) : Prop :=
  c.store.read d₀ = .ok (next, false) ∧ c.store.read d = .ok (repairedState next, false)

section Recovered

variable {observed : State} {j : TransactionJournal}

/-- The parked state of a recovery without a journal. -/
theorem observedRecoveryState_eq (current : Option State) (observed : State) :
    (Controller.observedRecoveryState current observed).phase = .recoveryRequired ∧
      (Controller.observedRecoveryState current observed).boundCodexConfigPath =
        observed.boundCodexConfigPath := by
  unfold Controller.observedRecoveryState
  cases current with
  | none => exact ⟨rfl, rfl⟩
  | some s =>
    simp only
    split_ifs
    · exact ⟨rfl, rfl⟩
    · exact ⟨rfl, rfl⟩

theorem observedRecoveryState_newer (hB : c.Bound d) :
    Newer c (Controller.observedRecoveryState (c.durableState d) observed) d := by
  intro hne previous hr
  rw [durableState_of_read hB hr] at hne ⊢
  unfold Controller.observedRecoveryState at hne ⊢
  simp only at hne ⊢
  split_ifs at hne ⊢ with hle
  · exact next_generation_gt hne
  · exact UInt64.not_le.mp hle

theorem observedRecoveryTarget_eq (h : c.observedRecoveryTarget d = .ok observed) :
    observed.boundCodexConfigPath = c.codexConfigPath ∧
      observed.desiredBackend ≠ .localAppleContainer := by
  unfold Controller.observedRecoveryTarget Controller.observedRoutingState at h
  split at h
  · cases h
  · rename_i o ho
    simp only at h
    split_ifs at h with h1
    cases h
    exact ⟨inferLegacyState_codex ho, h1⟩

/-- The parked state of a recovery from a journal: found on disk, or newer than what is there. -/
theorem journalledRecovery_fits (hB : c.Bound d)
    (hahead : ∀ s, c.durableState d = some s → s.phase ≠ .recoveryRequired →
      s.generation ≤ j.generation) :
    let parked := Controller.parkedState (c.durableState d)
    let recovery := parked.getD (c.recoveryStateFromJournal j)
    recovery.boundCodexConfigPath = c.codexConfigPath ∧
      (parked.isSome = true → AtMost c recovery.generation d) ∧
      (parked.isSome = false → Newer c recovery d) := by
  simp only
  cases hparked : Controller.parkedState (c.durableState d) with
  | some s =>
    obtain ⟨hr, hb⟩ := durableState_eq (Option.filter_eq_some_iff.mp hparked).1
    exact ⟨hb, fun _ => AtMost.of_read hr, nofun⟩
  | none =>
    refine ⟨rfl, nofun, fun _ hne previous hr => ?_⟩
    have hs := durableState_of_read hB hr
    refine UInt64.lt_of_le_of_lt (hahead previous hs fun hphase => ?_) (next_generation_gt hne)
    unfold Controller.parkedState at hparked
    simp [hs, hphase] at hparked

/-- The same for the recovery of a gateway reload, which looks at the generation on disk. -/
theorem gatewayRecovery_fits (hB : c.Bound d) :
    let r := c.gatewayRecoveryState (c.durableState d) j
    r.1.boundCodexConfigPath = c.codexConfigPath ∧ (r.2 = false → AtMost c r.1.generation d) ∧
      (r.2 = true → Newer c r.1 d) := by
  simp only
  unfold Controller.gatewayRecoveryState
  cases hs : c.durableState d with
  | none =>
    refine ⟨rfl, nofun, fun _ _ previous hr => ?_⟩
    rw [durableState_of_read hB hr] at hs
    cases hs
  | some s =>
    obtain ⟨hr, hb⟩ := durableState_eq hs
    simp only
    split_ifs with hparked hle
    · exact ⟨hb, fun _ => AtMost.of_read hr, nofun⟩
    · exact ⟨rfl, nofun, fun _ => (AtMost.of_read hr).newer rfl⟩
    · exact ⟨rfl, nofun, fun _ => newer_of_read hr (UInt64.not_le.mp hle)⟩

/-- What is replaced in a gateway recovery is parked. -/
theorem gatewayRecovery_phase {current : Option State}
    (h : (c.gatewayRecoveryState current j).2 = true) :
    (c.gatewayRecoveryState current j).1.phase = .recoveryRequired := by
  unfold Controller.gatewayRecoveryState at h ⊢
  cases current with
  | none => rfl
  | some s =>
    simp only at h ⊢
    split_ifs at h ⊢
    · rfl
    · rfl

end Recovered

end OpenCodexRelay.Routing
