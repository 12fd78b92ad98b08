/-
  The attempts of a container operation.

  Each attempt plans, makes the plan durable, and mutates.  One lemma per attempt says what comes
  of it.  Whatever the surroundings answer, it stays on the positions its plan foresees.  It returns
  a value only where the selected backend is stable at the generation the plan ends in and the
  witness is resolved (`Concluded`), and only where the generations of the plan exist.  And a call
  that is `ready` does get a value: nothing in the files stands in its way (`Switchable`).

  1. `plans_of`: a plan made from a state and a journal of the operation is one the store accepts,
     and it belongs to the files it was made from.
  2. The building blocks: planning, checking, resolving.
  3. The two ways into the switch, from a staged and from a parked state.
  4. One lemma per attempt: replace, apply a pending switch, resume, recover, switch.
-/
import OpenCodexRelay.Routing.WitnessPlan

namespace OpenCodexRelay.Routing

open Durable
open Controller (BackendPreflight recoveryApplying resolvedJournal)
open RuntimeRoutingJournal (expects matchesState startAttempt validAttempt validAttemptGenerations valid_bound planned)

/-! ## Witnesses of one operation -/

/-- The two witnesses differ in their attempt only. -/
structure RuntimeRoutingJournal.SameOperation (w w' : RuntimeRoutingJournal) : Prop where
  schema : w'.schema = w.schema
  boundConfigPath : w'.boundConfigPath = w.boundConfigPath
  boundCodexConfigPath : w'.boundCodexConfigPath = w.boundCodexConfigPath
  intent : w'.intent = w.intent
  originBackend : w'.originBackend = w.originBackend
  targetBackend : w'.targetBackend = w.targetBackend
  originGeneration : w'.originGeneration = w.originGeneration
  targetAppleActive : w'.targetAppleActive = w.targetAppleActive

variable {w w' : RuntimeRoutingJournal} {direction : RuntimeRoutingDirection} {s : State} {d : Disk}
variable {t : Option TransactionJournal} {origin target selected : Backend} {g : UInt64}
variable {strict ready : Prop} {c : Controller} {E : Env Disk Query (fun _ => Bool)}

section Operation

variable {config codex : String}

namespace RuntimeRoutingJournal.SameOperation

theorem refl (w : RuntimeRoutingJournal) : w.SameOperation w :=
  ⟨rfl, rfl, rfl, rfl, rfl, rfl, rfl, rfl⟩

theorem trans {w'' : RuntimeRoutingJournal}
    (h : w.SameOperation w') (h' : w'.SameOperation w'') : w.SameOperation w'' :=
  ⟨h'.schema.trans h.schema, h'.boundConfigPath.trans h.boundConfigPath,
    h'.boundCodexConfigPath.trans h.boundCodexConfigPath, h'.intent.trans h.intent,
    h'.originBackend.trans h.originBackend, h'.targetBackend.trans h.targetBackend,
    h'.originGeneration.trans h.originGeneration, h'.targetAppleActive.trans h.targetAppleActive⟩

theorem selectedBackend (h : w.SameOperation w') :
    w'.selectedBackend direction = w.selectedBackend direction := by
  cases direction with
  | completeTarget => exact h.targetBackend
  | restoreOrigin => exact h.originBackend

theorem matchesRequest (h : w.SameOperation w')
    (request : RuntimeRoutingRequest) : w'.matchesRequest request = w.matchesRequest request := by
  unfold RuntimeRoutingJournal.matchesRequest
  rw [h.intent, h.originGeneration, h.targetAppleActive]

end RuntimeRoutingJournal.SameOperation

/-- The attempt has ended where it was meant to. -/
theorem resolvedJournal_valid (hv : w.valid config codex = true) (h0 : s.generation ≠ 0)
    (hgen : s.generation = w.attemptFinalGeneration)
    (ha : s.appliedBackend = w.selectedBackend direction)
    (ht : w.attemptTargetBackend = w.selectedBackend direction) :
    (resolvedJournal w direction s).valid config codex = true := by
  obtain ⟨hconfig, hcodex, hroute, hattempt⟩ := valid_bound hv
  have hroute' : (resolvedJournal w direction s).validRoute = true := hroute
  have hsel : (resolvedJournal w direction s).selectedBackend direction =
      w.selectedBackend direction := by
    cases direction <;> rfl
  have hattempt' : (resolvedJournal w direction s).validAttempt = true := by
    simp only [validAttempt, Bool.and_eq_true] at hattempt
    obtain ⟨⟨⟨⟨⟨⟨⟨⟨⟨h1, h2⟩, h3⟩, -⟩, h5⟩, h6⟩, h7⟩, h8⟩, h9⟩, -⟩ := hattempt
    have h4 : decide (w.attemptTargetBackend =
        (resolvedJournal w direction s).selectedBackend direction) = true := by
      rw [hsel, ht]
      exact decide_eq_true rfl
    simp only [validAttempt, Bool.and_eq_true]
    refine ⟨⟨⟨⟨⟨⟨⟨⟨⟨h1, h2⟩, h3⟩, h4⟩, h5⟩, h6⟩, h7⟩, h8⟩, h9⟩, ?_⟩
    show (decide (s.generation ≠ 0) && decide (s.generation = w.attemptFinalGeneration) &&
      (decide (s.appliedBackend = .localAppleContainer) =
        decide ((resolvedJournal w direction s).selectedBackend direction =
          .localAppleContainer))) = true
    rw [hsel, ha, decide_eq_true h0, decide_eq_true hgen]
    simp
  unfold RuntimeRoutingJournal.valid
  rw [hroute', hattempt']
  simp [resolvedJournal, hconfig, hcodex]

end Operation

/-! ## Plans -/

/-- `w'` is a plan for the operation of `w`: it is valid, leads to the selected backend, and belongs
    to the state `s` and the journal `t`. -/
structure Plans (c : Controller) (w w' : RuntimeRoutingJournal) (s : State)
    (t : Option TransactionJournal) (direction : RuntimeRoutingDirection) : Prop where
  same : w.SameOperation w'
  valid : w'.valid c.store.configPath c.codexConfigPath = true
  target : w'.attemptTargetBackend = w.selectedBackend direction
  start_lt : w'.attemptStartGeneration < w'.attemptFinalGeneration
  source : t.all w'.sourceTransactionMatches = true
  matches_state : w'.matchesState c.store.paths s t = true

section Plans

variable {kind : AttemptKind}
variable {requested recovery applying final : UInt64}

/-- **Plans belong.** A plan made from the state and the journal on disk is valid as soon as its
    generations are. -/
theorem plans_of (h : Witnessed c strict d w s t)
    (ht : ∀ j ∈ t, TransactionJournal.kind j = .routingSwitch ∧ j.generation ≠ 0)
    (ho : w.onRoute origin) (hne : origin ≠ w.selectedBackend direction ∨ kind = .replace)
    (hlt : s.generation < final)
    (hgens : (w.planned kind direction s t origin requested recovery applying
      final).validAttemptGenerations = true) :
    Plans c w (w.planned kind direction s t origin requested recovery applying final) s t
      direction := by
  obtain ⟨w', hw'⟩ : ∃ w', w' = w.planned kind direction s t origin requested recovery applying
    final := ⟨_, rfl⟩
  rw [← hw'] at hgens ⊢
  obtain ⟨hconfig, hcodex, hroute, -⟩ := valid_bound h.valid
  have hsel : w'.selectedBackend direction = w.selectedBackend direction := by
    rw [hw']
    cases direction <;> rfl
  have hjournal : (if w'.sourceJournalGeneration = 0 then
      w'.sourceJournalOriginBackend = none && w'.sourceJournalTargetBackend = none
    else
      w'.sourceJournalOriginBackend.any validBackend && w'.sourceJournalTargetBackend.any validBackend
        && w'.sourceJournalOriginBackend ≠ w'.sourceJournalTargetBackend : Bool) = true := by
    rw [hw']
    cases t with
    | none => rfl
    | some j =>
      have hr := h.journal_route j rfl
      have h1 := valid_of_route h.valid hr.origin_route
      have h2 := valid_of_route h.valid hr.target_route
      simp [planned, startAttempt, (ht j rfl).2, h1, h2,
        hr.origin_ne]
  have hattempt : w'.validAttempt = true := by
    have h0 := h.wellFormed.generation_ne
    have h1 := valid_of_route h.valid h.desired_route
    have h2 := valid_of_route h.valid h.applied_route
    have h3 := valid_of_route h.valid ho
    have hfinal : final ≠ 0 := by
      rintro rfl
      exact absurd hlt (by grind)
    unfold validAttempt
    rw [hgens, hjournal]
    rw [hw'] at hsel ⊢
    simp only [planned, startAttempt] at hsel ⊢
    rcases hne with hne | rfl
    · simp [h0, h1, h2, h3, hfinal, hne, hsel]
    · simp [h0, h1, h2, h3, hfinal, hsel]
  have hvalid : w'.valid c.store.configPath c.codexConfigPath = true := by
    have hroute' : w'.validRoute = true := by
      rw [hw']
      exact hroute
    unfold RuntimeRoutingJournal.valid
    rw [hroute', hattempt, hw']
    simp [planned, startAttempt, hconfig, hcodex]
  have hsource : t.all w'.sourceTransactionMatches = true := by
    rw [hw']
    cases t with
    | none => rfl
    | some j =>
      obtain ⟨hkind, hj⟩ := ht j rfl
      simp [RuntimeRoutingJournal.sourceTransactionMatches, planned,
        startAttempt, hkind, hj]
  have hval := validate_of_bound hvalid h.wellFormed h.codex
  subst hw'
  refine ⟨⟨rfl, rfl, rfl, rfl, rfl, rfl, rfl, rfl⟩, hvalid, rfl, hlt, hsource, ?_⟩
  refine matches_start hval rfl ?_ hsource
  simp [exactRuntimeAttemptStart, planned, startAttempt]

/-- A plan that leads through an `applying` state. -/
theorem planned_of (ho : w.onRoute origin) (hne : origin ≠ w.selectedBackend direction)
    (hfinal : final = applying + 1)
    (hgens : strict → s.generation < applying ∧ recovery < applying ∧ applying ≠ maxGeneration) :
    Planned strict (w.planned kind direction s t origin requested recovery applying final) :=
  ⟨rfl, fun hstrict => ⟨(hgens hstrict).1, (hgens hstrict).2.1, (hgens hstrict).2.2⟩, hfinal, hne, ho,
    selected_route⟩

/-- Two more generations. -/
theorem room_two (h : g ≤ maxGeneration - 2) :
    g < g + 1 ∧ g < g + 2 ∧ g + 1 ≠ 0 ∧ g + 1 ≠ maxGeneration ∧ g + 2 = g + 1 + 1 := by
  unfold maxGeneration at h ⊢
  refine ⟨?_, ?_, ?_, ?_, ?_⟩ <;> grind

theorem room_one (h : g ≠ maxGeneration) : g < g + 1 ∧ g + 1 ≠ 0 := by
  unfold maxGeneration at h
  constructor <;> grind

end Plans

/-! ## Building blocks -/

section Blocks

/-- The operation is resolved at generation `g`. -/
def Concluded (c : Controller) (w : RuntimeRoutingJournal) (direction : RuntimeRoutingDirection)
    (g : UInt64) (d' : Disk) : Prop :=
  ∃ w' s', w.SameOperation w' ∧
    Witnessed c True d' (resolvedJournal w' direction s') s' none ∧
    s'.generation = g ∧ stableStateForBackend s' (w.selectedBackend direction) = true

theorem Concluded.transfer (hop : w.SameOperation w') (h : Concluded c w' direction g d) :
    Concluded c w direction g d := by
  obtain ⟨w'', s', hop', hw, hg, hs⟩ := h
  rw [hop.selectedBackend] at hs
  exact ⟨w'', s', hop.trans hop', hw, hg, hs⟩

theorem Concluded.closed (h : Concluded c w direction g d) : CrashClosed c strict d := by
  obtain ⟨w', s', -, hw, -, -⟩ := h
  exact .inr ⟨_, s', none, { hw with matches_state := fun _ => hw.matches_state trivial }⟩

theorem applied_of_stable {b : Backend} (h : stableStateForBackend s b = true) :
    s.appliedBackend = b := by
  simp only [stableStateForBackend, Bool.and_eq_true, decide_eq_true_eq] at h
  exact h.1.1.2

/-- **Planning** gives the plan `w'`, where the generations it leads through exist. -/
theorem planAttempt_goes (direction : RuntimeRoutingDirection) (calm : ready → Calm E)
    {report : Err → Err} {planned : Option RuntimeRoutingJournal} {room : Prop} (h : Witnessed c strict d w s t)
    (hplanned : ∀ w'', planned = some w'' → room ∧ w' = w'') (hready : ready → planned = some w')
    (hplan : room → Plans c w w' s t direction) :
    Keeps E c strict (c.planAttempt report planned)
      (Ends c strict ready fun w'' d' => w' = w'' ∧ room ∧ Plans c w w' s t direction ∧
        Witnessed c strict d' w' s t ∧ (ready → d' = { d with runtimeRouting := .record w' })) d := by
  unfold Controller.planAttempt
  cases planned with
  | none => exact ⟨h.closed, fun hr => by cases hready hr⟩
  | some w'' =>
    obtain ⟨hroom, rfl⟩ := hplanned w'' rfl
    have hp := hplan hroom
    exact safe_guarded_of (goes_to (writeRuntimeRouting_keeps h (fun _ => hp.matches_state) hp.start_lt
      hp.same.originBackend hp.same.targetBackend) calm fun _ => run_writeRuntimeRouting hp.valid)
      (fun _ _ h' => ⟨h'.1.closed, h'.2⟩) fun _ _ h' => ⟨rfl, hroom, hp, h'.1, h'.2⟩

theorem matches_resolved (h : Witnessed c strict d w s none)
    (hstable : stableStateForBackend s (w.selectedBackend direction) = true) :
    (resolvedJournal w direction s).matchesState c.store.paths s none = true := by
  have hv : s.validateForCodexConfig c.store.paths
      (resolvedJournal w direction s).boundConfigPath
      (resolvedJournal w direction s).boundCodexConfigPath = .ok () := h.validate
  have hselected : stableStateForBackend s
      ((resolvedJournal w direction s).selectedBackend
        (resolvedJournal w direction s).attemptDirection) = true := hstable
  have hphase : (resolvedJournal w direction s).phase = .resolved := rfl
  unfold matchesState
  rw [if_neg (not_not.mpr hv), if_pos hphase, hselected]
  simp [resolvedJournal]

/-- **Resolving** takes a state where the attempt was meant to end. -/
theorem mark_goes (calm : ready → Calm E) (h : Witnessed c strict d w s none)
    (hready : ready → s.generation = w.attemptFinalGeneration ∧
      stableStateForBackend s (w.selectedBackend direction) = true ∧
      w.attemptTargetBackend = w.selectedBackend direction) :
    Keeps E c strict (c.markRuntimeRoutingResolved w direction s)
      (Ends c strict ready fun g d' => Concluded c w direction g d' ∧
        s.generation = w.attemptFinalGeneration) d := by
  refine safe_if (fun hn => ⟨h.closed, fun hr => ?_⟩) fun hn => ?_
  · obtain ⟨hgen, hs, -⟩ := hready hr
    rcases hn with hn | hn
    · exact hn hgen
    · rw [hs] at hn
      cases hn
  rw [not_or, not_not, Bool.not_eq_false] at hn
  refine safe_attempt_of (goes_to (writeRuntimeRouting_keeps h (fun _ => matches_resolved h hn.2)
    h.start_lt rfl rfl) calm fun hr => run_writeRuntimeRouting (resolvedJournal_valid h.valid
      h.wellFormed.generation_ne hn.1 (applied_of_stable hn.2) (hready hr).2.2))
    (fun _ _ h' => ⟨h'.1.closed, h'.2⟩) ?_
  rintro - d1 ⟨h1, -⟩
  exact ⟨⟨w, s, .refl w, { h1 with matches_state := fun _ => matches_resolved h hn.2 }, rfl, hn.2⟩,
    hn.1⟩

/-- A switch that has reached its end is settled. -/
theorem settle_goes (calm : ready → Calm E) {s0 : State} {t0 : Option TransactionJournal}
    (hplan : Plans c w w' s0 t0 direction) (h : Reached c strict w' d) :
    Keeps E c strict
      (c.settleRuntimeRouting w' direction (w.selectedBackend direction))
      (Ends c strict ready fun g d' => Concluded c w direction g d') d := by
  obtain ⟨final, h, hgen, hs⟩ := h
  have ht := hplan.target
  rw [← hplan.same.selectedBackend] at ht ⊢
  rw [ht] at hs
  unfold Controller.settleRuntimeRouting
  refine safe_attempt_of (require_goes calm) (fun _ _ h' => h'.1 ▸ ⟨h.closed, h'.2⟩) ?_
  rintro - _ rfl
  refine safe_read.mpr ?_
  rw [h.read]
  simp only
  rw [if_neg (by simp [hgen, hs])]
  exact (mark_goes calm h fun _ => ⟨hgen, hs, ht⟩).ok_mono
    fun _ _ h' => h'.1.transfer hplan.same

/-- A preflight without a migration in mind writes nothing and finds none. -/
theorem preflight_goes (calm : ready → Calm E) {legacy : Bool} (hl : legacy = false)
    (h : CrashClosed c strict d) (hpre : ready → ∃ p,
      (run succeed (c.preflightBackendWithLegacyIntent target false) d).1 = .ok p) :
    Keeps E c strict (c.preflightBackendWithLegacyIntent target legacy)
      (Ends c strict ready fun p d' => d' = d ∧ p.legacyMigrationRequired = false ∧
        (ready → (run succeed (c.preflightBackendWithLegacyIntent target false) d).1 = .ok p)) d := by
  subst hl
  have hsafe : Keeps E c strict (c.preflightBackendWithLegacyIntent target false)
      (outcome (fun p d' => d' = d ∧ p.legacyMigrationRequired = false)
        fun _ d' => CrashClosed c strict d') d := by
    refine safe_preflight (fun _ _ => trivial) (fun p hp => ⟨rfl, ?_⟩) fun _ => h
    rw [← Bool.not_eq_true]
    exact fun hc => by cases (hp hc).2
  refine (hsafe.goes succeed calm fun hr => ?_).ok_mono
    fun _ _ h' => ⟨h'.1.1, h'.1.2, fun hr => congrArg Prod.fst (h'.2 hr)⟩
  obtain ⟨p, hp⟩ := hpre hr
  exact ⟨p, _, Prod.ext hp rfl⟩

variable {d' : Disk}

theorem drift_congr (hs : d.SameArtifacts d') (final : State) :
    c.appliedRoutingDriftCheck d' final = c.appliedRoutingDriftCheck d final := by
  unfold Controller.appliedRoutingDriftCheck Controller.validateNative Controller.validateManaged
  rw [hs.relay, hs.codex, hs.profile]

/-- What it takes to confirm a backend that is applied already. -/
structure Confirmable (c : Controller) (d : Disk) (selected : Backend) : Prop where
  preflight : ∃ p, (run succeed (c.preflightBackendWithLegacyIntent selected false) d).1 = .ok p
  shown : ∀ final, stableStateForBackend final selected = true →
    c.appliedRoutingDriftCheck d final = true

theorem Confirmable.congr (h : Confirmable c d selected) (hs : d.SameArtifacts d') :
    Confirmable c d' selected := by
  refine ⟨?_, fun final hfinal => (drift_congr hs final).trans (h.shown final hfinal)⟩
  rw [run_preflight selected false hs]
  exact h.preflight

theorem verify_goes (calm : ready → Calm E) {final : State} (h : CrashClosed c strict d)
    (hs : stableStateForBackend final selected = true) (hready : ready → Confirmable c d selected) :
    Keeps E c strict (c.verifyStableRuntimeRoute final selected)
      (Ends c strict ready fun _ d' => d' = d) d := by
  refine safe_if (fun hn => ⟨h, fun hr => ?_⟩) fun _ => ?_
  · rw [hs, (hready hr).shown final hs] at hn
    simp at hn
  refine safe_attempt_ok (preflight_goes calm rfl h fun hr => (hready hr).preflight) ?_
  rintro p _ ⟨rfl, -⟩
  exact (require_goes calm).except_mono (fun _ _ h' => ⟨h'.1 ▸ h, h'.2⟩) fun _ _ h' => h'

/-- What a switch to `selected` needs besides a state to start from. -/
structure Switchable (c : Controller) (d : Disk) (selected : Backend) : Prop where
  marker : d.marker ≠ .malformed
  regular : d.Regular
  preflight : ∃ p, (run succeed (c.preflightBackendWithLegacyIntent selected false) d).1 = .ok p
  edit : ∀ p, (run succeed (c.preflightBackendWithLegacyIntent selected false) d).1 = .ok p →
    (run succeed (c.applyConfigWithLegacyIntent selected p.config false) d).1 = .ok ()

theorem Switchable.congr (h : Switchable c d selected) (hs : d.SameArtifacts d')
    (hm : d'.marker ≠ .malformed) : Switchable c d' selected := by
  refine ⟨hm, h.regular.congr hs, ?_, fun p hp => ?_⟩
  · rw [run_preflight selected false hs]
    exact h.preflight
  · rw [run_preflight selected false hs] at hp
    rw [run_applyConfig selected p.config hs]
    exact h.edit p hp

/-- The preflight has returned the config that the switch goes on with. -/
theorem Switchable.editable {p : BackendPreflight} (h : Switchable c d selected)
    (hp : (run succeed (c.preflightBackendWithLegacyIntent selected false) d).1 = .ok p)
    (hs : d.SameArtifacts d') (hm : d'.marker ≠ .malformed) : Editable c d' selected p.config :=
  ⟨hm, h.regular.congr hs, (run_applyConfig selected p.config hs).trans (h.edit p hp)⟩

end Blocks

/-! ## Into the switch -/

/-- The `applying` state between two known backends. -/
theorem applying_wellFormed {P : Paths} {bound : String} (h : s.WellFormed P bound)
    {desired applied : Backend} (hd : validBackend desired = true) (ha : validBackend applied = true)
    (hne : desired ≠ applied) {generation : UInt64} (hg : generation ≠ 0) :
    State.WellFormed P bound { s with
      desiredBackend := desired
      appliedBackend := applied
      desiredMode := modeForBackend desired
      appliedMode := modeForBackend applied
      phase := .applying
      knownLegacyBackupAndMigrate := false
      generation := generation } := by
  refine ⟨h.schema_eq, hg, h.config_eq, h.codex_eq, rfl, rfl, nofun, ?_⟩
  simp [State.phaseShape, hd, ha, hne]

/-- A switch from a staged state. -/
theorem applyLocked_goes (calm : ready → Calm E) (hp : Planned strict w)
    (h : Witnessed c strict d w s none) (hpending : pendingRoutingState s = true)
    (hgen : s.generation + 1 = w.attemptApplyingGeneration)
    (hdesired : s.desiredBackend = w.attemptTargetBackend)
    (happlied : s.appliedBackend = w.attemptOriginBackend)
    (hroom : s.generation ≤ maxGeneration - 2)
    (hsw : ready → Switchable c d w.attemptTargetBackend) :
    Keeps E c strict (c.applyLocked s)
      (Ends c strict ready fun _ => Reached c strict w) d := by
  have hk : s.knownLegacyBackupAndMigrate = false := by
    refine h.migration_over ?_ ?_ <;>
    · intro hphase
      simp [pendingRoutingState, hphase] at hpending
  have htarget := valid_of_route h.valid hp.target_route
  have horigin := valid_of_route h.valid hp.origin_route
  obtain ⟨hlt, -, h0, hmax, -⟩ := room_two hroom
  obtain ⟨next, hnext⟩ : ∃ next : State, next = { s with
      phase := .applying
      knownLegacyBackupAndMigrate := false
      generation := s.generation + 1 } := ⟨_, rfl⟩
  have hn : next.WellFormed c.store.paths c.store.configPath := by
    have happ := applying_wellFormed h.wellFormed htarget horigin hp.origin_ne.symm h0
    rw [← hdesired, ← happlied, ← h.wellFormed.desired_eq, ← h.wellFormed.applied_eq] at happ
    rw [hnext]
    exact happ
  have htransition : validateTransition s next = .ok () := by
    rw [hnext]
    simp only [pendingRoutingState, Bool.or_eq_true, decide_eq_true_eq] at hpending
    rcases hpending with (hphase | hphase) | hphase <;>
      simp [validateTransition, validTransition, hphase]
  have hunder : Underway w next := by
    rw [hnext]
    exact ⟨hgen, rfl, hdesired, happlied, rfl⟩
  have hbound : next.boundCodexConfigPath = c.codexConfigPath := by
    rw [hnext]
    exact h.codex
  unfold Controller.applyLocked
  simp only
  rw [← hdesired] at hsw htarget
  rw [if_neg (by rw [htarget]; simp)]
  refine safe_attempt_ok (preflight_goes calm hk h.closed fun hr => (hsw hr).preflight) ?_
  rintro ⟨cfg, _⟩ _ ⟨rfl, rfl, hpre⟩
  simp only
  rw [← hnext]
  refine safe_attempt_of (goes_to (save_keeps h fun _ => fits_applying hp hunder h.valid hn hbound rfl)
    calm fun hr => run_save hn h.read (hnext ▸ hlt) htransition (hsw hr).marker)
    (fun _ _ h' => ⟨h'.1.closed, h'.2⟩) ?_
  rintro - d1 ⟨h1, hd1⟩
  have hedit : ready → Editable c d1 w.attemptTargetBackend cfg := by
    intro hr
    rw [hd1 hr, ← hdesired]
    exact (hsw hr).editable (hpre hr) ⟨rfl, rfl, rfl⟩ (by rintro ⟨⟩)
  have hfinish := finish_goes calm hp hunder h1 rfl hedit (fun _ => hnext ▸ hmax) true rfl
  rw [← hdesired] at hfinish
  exact hfinish

/-- A switch from a parked state, whichever way round its backends are. -/
theorem applyRecovery_goes (calm : ready → Calm E) (hp : Planned strict w)
    (h : Witnessed c strict d w s t) (ht : w.expects t = true) {recovery : State}
    (hgen : recovery.generation + 1 = w.attemptApplyingGeneration)
    (hwell : recovery.WellFormed c.store.paths c.store.configPath)
    (hcodex : recovery.boundCodexConfigPath = c.codexConfigPath)
    (hk : recovery.knownLegacyBackupAndMigrate = false)
    (hside : (recovery.appliedBackend = w.attemptTargetBackend ∧
        recovery.desiredBackend = w.attemptOriginBackend) ∨
      recovery.appliedBackend = w.attemptOriginBackend)
    (hroom : recovery.generation ≤ maxGeneration - 2)
    (hsw : ready → Switchable c d w.attemptTargetBackend) (authoritative : Bool) :
    Keeps E c strict (c.applyRecoveryLockedWithOriginAuthority recovery
      w.attemptTargetBackend authoritative false)
      (Ends c strict ready fun _ => Reached c strict w) d := by
  have htarget := valid_of_route h.valid hp.target_route
  have horigin := valid_of_route h.valid hp.origin_route
  obtain ⟨-, -, h0, hmax, -⟩ := room_two hroom
  obtain ⟨next, hnext⟩ : ∃ next : State, next = { recovery with
      desiredBackend := w.attemptTargetBackend
      appliedBackend := w.attemptOriginBackend
      desiredMode := modeForBackend w.attemptTargetBackend
      appliedMode := modeForBackend w.attemptOriginBackend
      phase := .applying
      knownLegacyBackupAndMigrate := false
      generation := recovery.generation + 1 } := ⟨_, rfl⟩
  have happ : recoveryApplying recovery w.attemptTargetBackend (false || false) =
      some next := by
    have hor : (if w.attemptTargetBackend = recovery.appliedBackend then recovery.desiredBackend
        else recovery.appliedBackend) = w.attemptOriginBackend := by
      rcases hside with ⟨ht', ho⟩ | ho
      · rw [if_pos ht'.symm, ho]
      · rw [if_neg fun heq => hp.origin_ne (ho.symm.trans heq.symm), ho]
    simp only [recoveryApplying, hor]
    rw [if_neg (by simp [horigin, hp.origin_ne]), hnext]
    rfl
  have hn : next.WellFormed c.store.paths c.store.configPath :=
    hnext ▸ applying_wellFormed hwell htarget horigin hp.origin_ne.symm h0
  have hunder : Underway w next := by
    rw [hnext]
    exact ⟨hgen, rfl, rfl, rfl, rfl⟩
  have hbound : next.boundCodexConfigPath = c.codexConfigPath := by
    rw [hnext]
    exact hcodex
  unfold Controller.applyRecoveryLockedWithOriginAuthority
  refine safe_attempt_ok (preflight_goes calm hk h.closed fun hr => (hsw hr).preflight) ?_
  rintro ⟨cfg, _⟩ _ ⟨rfl, rfl, hpre⟩
  simp only [happ]
  refine safe_attempt_of (goes_to (replace_keeps h fun _ => fits_applying hp hunder h.valid hn hbound
    ht) calm fun hr => run_replace hn (hsw hr).marker) (fun _ _ h' => ⟨h'.1.closed, h'.2⟩) ?_
  rintro - d1 ⟨h1, hd1⟩
  refine finish_goes calm hp hunder h1 ht (fun hr => ?_) (fun _ => hnext ▸ hmax) _ rfl
  rw [hd1 hr]
  exact (hsw hr).editable (hpre hr) ⟨rfl, rfl, rfl⟩ (by rintro ⟨⟩)

/-! ## The attempts -/

theorem replacedState_wellFormed {P : Paths} {bound : String} (h : s.WellFormed P bound)
    {b : Backend} (hb : validBackend b = true) (hg : g ≠ 0) :
    (Controller.replacedState s g b).WellFormed P bound :=
  ⟨h.schema_eq, hg, h.config_eq, h.codex_eq, rfl, rfl, nofun,
    phaseShape_stable hb rfl rfl rfl rfl rfl⟩

/-- **Replacing the state** by one at rest needs one more generation. -/
theorem replaceRuntimeRouting_goes (calm : ready → Calm E) (h : Witnessed c strict d w s none)
    (hready : ready → d.marker ≠ .malformed ∧ s.generation ≠ maxGeneration ∧
      Confirmable c d (w.selectedBackend direction)) :
    Keeps E c strict (c.replaceRuntimeRoutingState w s direction
      (w.selectedBackend direction))
      (Ends c strict ready fun g d' => Concluded c w direction g d' ∧
        s.generation ≠ maxGeneration) d := by
  have h0 := h.wellFormed.generation_ne
  unfold Controller.replaceRuntimeRoutingState
  refine safe_attempt_ok (planAttempt_goes direction calm h (fun _ => setAttempt_replace.mp)
    (fun hr => setAttempt_replace.mpr ⟨⟨h0, (hready hr).2.1⟩, rfl⟩) fun hroom => ?_) ?_
  · refine plans_of h (fun _ hj => by cases hj) h.applied_route (.inr rfl) (room_one hroom.2).1 ?_
    simp [validAttemptGenerations, planned, startAttempt, hroom.2]
  rintro _ d1 ⟨rfl, ⟨-, hmax⟩, hplan, h1, hd1⟩
  have hroute : w.onRoute (w.selectedBackend direction) := selected_route
  have hn := replacedState_wellFormed h.wellFormed (valid_of_route h.valid hroute) (room_one hmax).2
  have hs := stable_replacedState hn.generation_ne
  refine safe_attempt_of (goes_to (replace_keeps h1 fun _ => ?_) calm fun hr => run_replace hn ?_)
    (fun _ _ h' => ⟨h'.1.closed, h'.2⟩) ?_
  · have hval := validate_of_bound hplan.valid hn h.codex
    exact ⟨fun _ => matches_final hval rfl (UInt64.ne_of_lt (room_one hmax).1).symm rfl hs rfl, h.codex,
      selected_route, selected_route, fun hc => absurd hc (settled_of_stable hs).1, nofun⟩
  · rw [hd1 hr]
    exact (hready hr).1
  rintro - d2 ⟨h2, hd2⟩
  refine safe_attempt_ok (verify_goes calm h2.closed hs fun hr => ?_) ?_
  · rw [hd2 hr, hd1 hr]
    exact (hready hr).2.2.congr ⟨rfl, rfl, rfl⟩
  rintro - _ rfl
  have hsel : _ = w.selectedBackend direction := hplan.same.selectedBackend
  exact (mark_goes calm h2 fun _ => ⟨rfl, hsel.symm ▸ hs, hplan.target.trans hsel.symm⟩).ok_mono
    fun _ _ h' => ⟨h'.1.transfer hplan.same, hmax⟩

/-- **A staged switch** needs two more. -/
theorem applyPending_goes (calm : ready → Calm E) (h : Witnessed c strict d w s none)
    (hpending : pendingRoutingState s = true) (hdesired : s.desiredBackend = w.selectedBackend direction)
    (happlied : s.appliedBackend ≠ w.selectedBackend direction)
    (hready : ready → s.generation ≤ maxGeneration - 2 ∧
      Switchable c d (w.selectedBackend direction)) :
    Keeps E c strict (c.applyPendingRuntimeRouting w s direction
      (w.selectedBackend direction))
      (Ends c strict ready fun g d' => Concluded c w direction g d' ∧
        s.generation ≤ maxGeneration - 2) d := by
  have h0 := h.wellFormed.generation_ne
  unfold Controller.applyPendingRuntimeRouting
  rw [if_neg (by simp [hdesired, happlied])]
  refine safe_attempt_ok (planAttempt_goes direction calm h (fun _ => setAttempt_applyPending.mp)
    (fun hr => setAttempt_applyPending.mpr ⟨⟨h0, (hready hr).1, hpending⟩, rfl⟩) fun hroom => ?_) ?_
  · refine plans_of h (fun _ hj => by cases hj) h.applied_route (.inl happlied)
      (room_two hroom.2.1).2.1 ?_
    simp [validAttemptGenerations, planned, startAttempt, hroom.2.1]
  rintro _ d1 ⟨rfl, ⟨-, hroom, -⟩, hplan, h₁, hd1⟩
  obtain ⟨hlt, -, h1, hmax, htwo⟩ := room_two hroom
  refine safe_attempt_ok (applyLocked_goes calm (planned_of h.applied_route happlied htwo fun _ =>
    ⟨hlt, by grind, hmax⟩) h₁ hpending rfl hdesired rfl hroom fun hr => ?_) fun _ d2 h2 => ?_
  · rw [hd1 hr]
    exact (hready hr).2.congr ⟨rfl, rfl, rfl⟩ (hready hr).2.marker
  exact (settle_goes calm hplan h2).ok_mono fun _ _ h' => ⟨h', hroom⟩

/-- Resuming keeps to the route; what it does not keep is the witness's match. -/
theorem resume_goes (calm : ready → Calm E) (hstrict : ¬ strict) (h : Witnessed c strict d w s none)
    (happlying : s.phase = .applying) (hdesired : s.desiredBackend = w.selectedBackend direction)
    (hready : ready → s.generation ≠ maxGeneration ∧
      Switchable c d (w.selectedBackend direction)) :
    Keeps E c strict (c.resumeApplyingRuntimeRouting w s direction
      (w.selectedBackend direction))
      (Ends c strict ready fun g d' => Concluded c w direction g d' ∧
        s.generation ≠ maxGeneration) d := by
  have h0 := h.wellFormed.generation_ne
  have happlied : s.appliedBackend ≠ w.selectedBackend direction :=
    hdesired ▸ (h.moving happlying).symm
  have hk : s.knownLegacyBackupAndMigrate = false := by
    refine h.migration_over ?_ ?_ <;>
    · rw [happlying]
      exact nofun
  unfold Controller.resumeApplyingRuntimeRouting
  rw [if_neg (by simp [hdesired, happlied])]
  refine safe_attempt_ok (preflight_goes calm hk h.closed fun hr => (hready hr).2.preflight) ?_
  rintro ⟨cfg, _⟩ _ ⟨rfl, rfl, hpre⟩
  refine safe_attempt_ok (planAttempt_goes direction calm h (fun _ => setAttempt_resumeApplying.mp)
    (fun hr => setAttempt_resumeApplying.mpr ⟨⟨h0, (hready hr).1, happlying⟩, rfl⟩) fun hroom => ?_) ?_
  · refine plans_of h (fun _ hj => by cases hj) h.applied_route (.inl happlied)
      (room_one hroom.2.1).1 ?_
    simp [validAttemptGenerations, planned, startAttempt, hroom.2.1]
  rintro _ d1 ⟨rfl, ⟨-, hmax, -⟩, hplan, h1, hd1⟩
  refine safe_attempt_ok (finish_goes calm (planned_of h.applied_route happlied rfl fun hc =>
    absurd hc hstrict) ⟨rfl, happlying, hdesired, rfl, hk⟩ h1 rfl (fun hr => ?_)
    (fun hr => (hready hr).1) true rfl) fun _ d2 h2 => ?_
  · rw [hd1 hr]
    exact (hready hr).2.editable (hpre hr) ⟨rfl, rfl, rfl⟩ (hready hr).2.marker
  exact (settle_goes calm hplan h2).ok_mono fun _ _ h' => ⟨h', hmax⟩

/-- What a recovery attempt needs of the parked state it goes through: it is not behind the state
    on disk, and one of its backends is the one that was not selected. -/
structure Recovers (c : Controller) (strict : Prop) (w : RuntimeRoutingJournal)
    (s recovery : State) (direction : RuntimeRoutingDirection) (park : Bool) : Prop where
  generation_le : s.generation ≤ recovery.generation
  wellFormed : recovery.WellFormed c.store.paths c.store.configPath
  codex : recovery.boundCodexConfigPath = c.codexConfigPath
  phase : recovery.phase = .recoveryRequired
  no_migration : recovery.knownLegacyBackupAndMigrate = false
  desired_route : w.onRoute recovery.desiredBackend
  side : (recovery.appliedBackend = w.selectedBackend direction ∧
      recovery.desiredBackend = w.selectedBackend (oppositeRuntimeDirection direction)) ∨
    recovery.appliedBackend = w.selectedBackend (oppositeRuntimeDirection direction)
  /-- A state that has to be parked first faces the way the plan does. -/
  parks : strict → park = true → recovery.desiredBackend = w.selectedBackend direction ∧
    recovery.appliedBackend = w.selectedBackend (oppositeRuntimeDirection direction)

/-- **A recovery** needs two more than the parked state it goes through. -/
theorem recoverRuntimeRouting_goes (calm : ready → Calm E) {recovery : State} {park : Bool}
    (h : Witnessed c strict d w s t)
    (ht : ∀ j ∈ t, TransactionJournal.kind j = .routingSwitch ∧ j.generation ≠ 0)
    (hr : Recovers c strict w s recovery direction park)
    (hready : ready → recovery.generation ≤ maxGeneration - 2 ∧
      Switchable c d (w.selectedBackend direction)) (authoritative : Bool) :
    Keeps E c strict (c.recoverRuntimeRouting w s recovery direction
      (w.selectedBackend direction) t park authoritative false)
      (Ends c strict ready fun g d' => Concluded c w direction g d' ∧
        recovery.generation ≤ maxGeneration - 2) d := by
  have hle := hr.generation_le
  have hr0 := hr.wellFormed.generation_ne
  have hne : w.selectedBackend (oppositeRuntimeDirection direction) ≠ w.selectedBackend direction :=
    selected_opposite_ne h.valid
  have hplans : recovery.generation ≤ maxGeneration - 2 →
      Plans c w (w.planned .recover direction s t
        (w.selectedBackend (oppositeRuntimeDirection direction)) 0 recovery.generation
        (recovery.generation + 1) (recovery.generation + 2)) s t direction := by
    intro hroom
    have hlt := (room_two hroom).2.1
    refine plans_of h ht selected_route (.inl hne) (by grind) ?_
    simp [validAttemptGenerations, planned,
      startAttempt, hr0, hroom]
  unfold Controller.recoverRuntimeRouting
  refine safe_attempt_ok (planAttempt_goes direction calm h (fun w'' hw' => ?_) (fun hok =>
    setRecoveryAttempt_eq.mpr ⟨⟨hr0, (hready hok).1, h.wellFormed.generation_ne, ?_, ?_⟩, rfl⟩)
    hplans) ?_
  · obtain ⟨⟨-, hroom, -⟩, heq⟩ := setRecoveryAttempt_eq.mp hw'
    exact ⟨hroom, heq⟩
  · have hroom := (hready hok).1
    unfold maxGeneration at hroom ⊢
    grind
  · obtain ⟨hconfig, hcodex, -, -⟩ := valid_bound h.valid
    rw [hconfig, hcodex]
    exact (hplans (hready hok).1).valid
  rintro w' d1 ⟨heq, hroom, hplan, h₁, hd1⟩
  rw [heq] at hplan h₁ hd1
  obtain ⟨hlt, -, h1, hmax, htwo⟩ := room_two hroom
  have hexpects : w'.expects t = true := by
    have hs := hplan.source
    cases t with
    | none => rfl
    | some j =>
      simp only [Option.all_some] at hs
      simp [expects, hs]
  have hp : Planned strict w' := by
    rw [← heq]
    exact planned_of selected_route hne htwo fun _ => ⟨by grind, hlt, hmax⟩
  have hfinish : ∀ (s' : State) (d' : Disk), Witnessed c strict d' w' s' t →
      (ready → d.SameArtifacts d' ∧ d'.marker ≠ .malformed) →
      Keeps E c strict (attempt (c.applyRecoveryLockedWithOriginAuthority recovery
        (w.selectedBackend direction) authoritative false) fun _ =>
        c.settleRuntimeRouting w' direction (w.selectedBackend direction))
        (Ends c strict ready fun g d' => Concluded c w direction g d' ∧
          recovery.generation ≤ maxGeneration - 2) d' := by
    intro s' d' h' hd'
    have happly : Keeps E c strict (c.applyRecoveryLockedWithOriginAuthority recovery
        w'.attemptTargetBackend authoritative false)
        (Ends c strict ready fun _ => Reached c strict w') d' := by
      refine applyRecovery_goes calm hp h' hexpects ?_ hr.wellFormed hr.codex hr.no_migration ?_ hroom
        (fun hok => ?_) authoritative
      · rw [← heq]
        rfl
      · rw [← heq]
        exact hr.side
      · rw [hplan.target]
        exact (hready hok).2.congr (hd' hok).1 (hd' hok).2
    rw [hplan.target] at happly
    refine safe_attempt_ok happly fun _ d2 h2 => ?_
    exact (settle_goes calm hplan h2).ok_mono fun _ _ h' => ⟨h', hroom⟩
  cases park with
  | false =>
    refine hfinish s d1 h₁ fun hok => ?_
    rw [hd1 hok]
    exact ⟨⟨rfl, rfl, rfl⟩, (hready hok).2.marker⟩
  | true =>
    refine safe_attempt_of (goes_to (replace_keeps h₁ fun hn => ?_) calm
      fun hok => run_replace hr.wellFormed (d := d1) ?_) (fun _ _ h' => ⟨h'.1.closed, h'.2⟩) ?_
    · have hval := validate_of_bound h₁.valid hn hr.codex
      have hsource := hplan.source
      subst heq
      refine ⟨fun hstrict => ?_, hr.codex, hr.desired_route, ?_, fun hc => ?_, fun hk => ?_⟩
      · -- replacing a parked state under its own generation may land on the plan's very start
        obtain ⟨hd, ha⟩ := hr.parks hstrict rfl
        cases hstart : exactRuntimeAttemptStart _ recovery with
        | true => exact matches_start hval rfl hstart hsource
        | false =>
          refine matches_recovery hval rfl hstart hn.generation_ne rfl ?_ hsource
          simp [recoveryStateForBackends, hr.phase, hd, ha, planned,
            startAttempt]
      · rcases hr.side with ⟨ha, -⟩ | ha <;>
        · rw [ha]
          exact selected_route
      · rw [hr.phase] at hc
        cases hc
      · rw [hr.no_migration] at hk
        cases hk
    · rw [hd1 hok]
      exact (hready hok).2.marker
    · rintro - d2 ⟨h2, hd2⟩
      refine hfinish recovery d2 h2 fun hok => ?_
      rw [hd2 hok, hd1 hok]
      exact ⟨⟨rfl, rfl, rfl⟩, by rintro ⟨⟩⟩

/-! ### Switching from a state at rest -/

/-- The pending phase between two known backends is an edge of the phase graph, and its shape fits
    them. -/
theorem pendingPhase_of_ne (ho : validBackend origin = true) (ht : validBackend target = true)
    (hne : target ≠ origin) :
    ∃ phase, pendingPhaseForBackends target origin = some phase ∧
      ∀ s next : State, stableStateForBackend s origin = true → next.phase = phase →
        next.desiredBackend = target → next.appliedBackend = origin →
        pendingRoutingState next = true ∧ next.phaseShape = true ∧
          validateTransition s next = .ok () := by
  by_cases htn : target = .none
  · have hor := validRelayBackend_of_valid ho (htn ▸ hne.symm)
    refine ⟨.nativePendingRestart, by simp [pendingPhaseForBackends, htn, hor], ?_⟩
    intro s next hs hphase hd ha
    simp only [stableStateForBackend, Bool.and_eq_true, decide_eq_true_eq,
      if_neg (htn ▸ hne.symm : origin ≠ .none)] at hs
    simp [pendingRoutingState, State.phaseShape, validateTransition, validTransition, hphase, hd, ha,
      htn, hor, hs.1.1.1.1.2]
  · have htr := validRelayBackend_of_valid ht htn
    by_cases hon : origin = .none
    · refine ⟨.relayPendingRestart, by simp [pendingPhaseForBackends, htn, htr, hon], ?_⟩
      intro s next hs hphase hd ha
      simp only [stableStateForBackend, Bool.and_eq_true, decide_eq_true_eq, if_pos hon] at hs
      simp [pendingRoutingState, State.phaseShape, validateTransition, validTransition, hphase, hd,
        ha, hon, htr, hs.1.1.1.1.2]
    · have hor := validRelayBackend_of_valid ho hon
      refine ⟨.backendPendingRestart, by simp [pendingPhaseForBackends, htn, htr, hon, hor, hne], ?_⟩
      intro s next hs hphase hd ha
      simp only [stableStateForBackend, Bool.and_eq_true, decide_eq_true_eq, if_neg hon] at hs
      simp [pendingRoutingState, State.phaseShape, validateTransition, validTransition, hphase, hd,
        ha, hne, htr, hor, hs.1.1.1.1.2]

/-- **Staging a planned switch.** Only a state without the intent to migrate is staged for another
    backend. -/
theorem stage_goes (calm : ready → Calm E) {start : State} (h : Witnessed c strict d w s none)
    (hwell : start.WellFormed c.store.paths c.store.configPath)
    (hcodex : start.boundCodexConfigPath = c.codexConfigPath)
    (hstable : stableRoutingState start = true) (hne : target ≠ start.appliedBackend)
    (hphase : w.phase = .transitioning)
    (hgen : w.attemptRequestedGeneration ≠ w.attemptStartGeneration)
    (horigin : w.attemptOriginBackend = start.appliedBackend)
    (htarget : w.attemptTargetBackend = target) (ho : w.onRoute start.appliedBackend)
    (ht : w.onRoute target)
    (hready : ready → s = start ∧ d.marker ≠ .malformed ∧ start.generation < w.attemptRequestedGeneration ∧ start.knownLegacyBackupAndMigrate = false) :
    Keeps E c strict (c.stageRuntimeRouting w start target)
      (Ends c strict ready fun next d' => Witnessed c strict d' w next none ∧
        pendingRoutingState next = true ∧ next.generation = w.attemptRequestedGeneration ∧
        next.desiredBackend = target ∧ next.appliedBackend = start.appliedBackend ∧
        start.knownLegacyBackupAndMigrate = false ∧ (ready → d' = d.marked.withState next)) d := by
  have htv := valid_of_route h.valid ht
  simp only [stableRoutingState, Bool.and_eq_true, decide_eq_true_eq] at hstable
  obtain ⟨hsame, hs⟩ := hstable
  obtain ⟨phase, hpending, hedge⟩ := pendingPhase_of_ne (valid_of_route h.valid ho) htv hne
  have hrequest : requestBackendTransition start target = .ok ({ start with
      desiredBackend := target
      desiredMode := modeForBackend target
      appliedMode := modeForBackend start.appliedBackend
      phase := phase }, true) := by
    unfold requestBackendTransition
    have hactive := phase_of_stable hs
    rw [if_neg (by simp [htv]), if_neg (by rcases hactive with h' | h' <;> simp [h']),
      if_neg (by rcases hactive with h' | h' <;> simp [h']), if_neg (hsame ▸ hne), if_neg hne,
      hpending]
  unfold Controller.stageRuntimeRouting
  rw [hrequest]
  simp only
  obtain ⟨next, hnext⟩ : ∃ next : State, next = { start with
      desiredBackend := target
      desiredMode := modeForBackend target
      appliedMode := modeForBackend start.appliedBackend
      phase := phase
      generation := w.attemptRequestedGeneration } := ⟨_, rfl⟩
  rw [← hnext]
  obtain ⟨hpend, hshape, htransition⟩ :=
    hedge start next hs (hnext ▸ rfl) (hnext ▸ rfl) (hnext ▸ rfl)
  -- a state that carries the intent to migrate is one for External, on both sides
  have hplain : next.WellFormed c.store.paths c.store.configPath →
      start.knownLegacyBackupAndMigrate = false := by
    intro hn
    rw [← Bool.not_eq_true]
    intro hk
    have htarget' : target = .external := by
      subst hnext
      exact hn.legacy_imp hk
    have hstart' := hwell.legacy_imp hk
    rw [hsame] at hstart'
    exact hne (htarget'.trans hstart'.symm)
  have hfits : next.WellFormed c.store.paths c.store.configPath → Fits c strict w none next := by
    intro hn
    have hk := hplain hn
    subst hnext
    refine ⟨fun _ => matches_requested (validate_of_bound h.valid hn hcodex) hphase hgen
      hn.generation_ne rfl ?_, hcodex, ht, ho, fun _ => hne, fun hk' => ?_⟩
    · simp only [pendingStateForBackends, hpend, horigin, htarget, decide_true, Bool.and_self]
    · rw [hk] at hk'
      cases hk'
  have hrun : ready → run succeed (c.store.save next) d = (.ok (), d.marked.withState next) := by
    intro hr
    obtain ⟨rfl, hm, hlt, hk⟩ := hready hr
    refine run_save ?_ h.read (hnext ▸ hlt) htransition hm
    subst hnext
    refine ⟨hwell.schema_eq, ?_, hwell.config_eq, hwell.codex_eq, rfl, rfl, fun hk' => ?_, hshape⟩
    · show w.attemptRequestedGeneration ≠ 0
      grind
    · rw [hk] at hk'
      cases hk'
  refine safe_attempt_of (goes_to (save_keeps h hfits) calm hrun)
    (fun _ _ h' => ⟨h'.1.closed, h'.2⟩) ?_
  rintro - d1 ⟨h1, hd1⟩
  have hk := hplain h1.wellFormed
  subst hnext
  exact ⟨h1, hpend, rfl, rfl, rfl, hk, hd1⟩

/-- A preflight that passes has looked at everything the preflight of the request looks at. -/
theorem run_preflightRequested_of_preflight {p : BackendPreflight}
    (h : (run succeed (c.preflightBackendWithLegacyIntent selected false) d).1 = .ok p) :
    run succeed (c.preflightRequestedBackend selected) d = (.ok (), d) := by
  unfold Controller.preflightBackendWithLegacyIntent at h
  unfold Controller.preflightRequestedBackend
  simp only [run] at h ⊢
  cases hcfg : c.codec.loadFile d.relay with
  | none =>
    simp only [hcfg] at h
    cases h
  | some cfg =>
    simp only [hcfg] at h ⊢
    cases selected with
    | none | unknown => rfl
    | external =>
      dsimp only at h ⊢
      split at h
      · cases h
      · rename_i hmode
        rw [if_neg hmode]
        rfl
    | localOpenCodex =>
      dsimp only at h ⊢
      split at h
      · cases h
      split at h
      · rename_i hmode
        rw [if_pos hmode]
        rfl
      · rename_i hmode
        rw [if_neg hmode]
        split at h
        · cases h
        · rename_i hok
          rw [if_neg hok]
          cases hprofile : cfg.localOpenCodexRuntimeConfig c.codec with
          | none =>
            simp only [hprofile] at h
            cases h
          | some profile => rfl
    | localAppleContainer =>
      dsimp only at h ⊢
      split at h
      · cases h
      split at h
      · cases h
      · rename_i hok
        rw [if_neg hok]
        cases hprofile : cfg.localAppleContainerRuntimeConfig c.codec with
        | none =>
          simp only [hprofile] at h
          cases h
        | some profile => rfl

theorem preflightRequested_goes (calm : ready → Calm E) (h : CrashClosed c strict d)
    (hpre : ready → ∃ p, (run succeed (c.preflightBackendWithLegacyIntent target false) d).1 = .ok p) :
    Keeps E c strict (c.preflightRequestedBackend target)
      (Ends c strict ready fun _ d' => d' = d) d := by
  have hsafe : Keeps E c strict (c.preflightRequestedBackend target)
      (outcome (fun _ d' => d' = d) fun _ d' => CrashClosed c strict d') d := by
    refine safe_preflightRequested (fun _ _ => trivial) fun r => ?_
    cases r with
    | ok u => exact rfl
    | error e => exact h
  refine (hsafe.goes succeed calm fun hr => ?_).ok_mono fun _ _ h' => h'.1
  obtain ⟨p, hp⟩ := hpre hr
  exact ⟨_, _, run_preflightRequested_of_preflight hp⟩

/-- **A switch from a state at rest** needs three more. -/
theorem switchStable_goes (calm : ready → Calm E) (h : Witnessed c strict d w s none)
    (hstable : stableRoutingState s = true)
    (happlied : s.appliedBackend ≠ w.selectedBackend direction)
    (hready : ready → s.generation ≤ maxGeneration - 3 ∧ s.knownLegacyBackupAndMigrate = false ∧
      Switchable c d (w.selectedBackend direction)) :
    Keeps E c strict (c.switchStableRuntimeRouting w s direction
      (w.selectedBackend direction))
      (Ends c strict ready fun g d' => Concluded c w direction g d' ∧
        s.generation ≤ maxGeneration - 3 ∧ s.knownLegacyBackupAndMigrate = false) d := by
  have h0 := h.wellFormed.generation_ne
  unfold Controller.switchStableRuntimeRouting
  rw [if_neg happlied]
  refine safe_attempt_ok (preflightRequested_goes calm h.closed fun hr => (hready hr).2.2.preflight) ?_
  rintro - _ rfl
  refine safe_attempt_ok (planAttempt_goes direction calm h (fun _ => setAttempt_switch.mp)
    (fun hr => setAttempt_switch.mpr ⟨⟨h0, (hready hr).1, hstable⟩, rfl⟩) fun hG => ?_) ?_
  · have hroom := hG.2.1
    refine plans_of h (fun _ hj => by cases hj) h.applied_route (.inl happlied) ?_ ?_
    · unfold maxGeneration at hroom
      grind
    · simp [validAttemptGenerations, planned, startAttempt, hroom]
  rintro _ d1 ⟨rfl, ⟨-, hroom, -⟩, hplan, h1, hd1⟩
  have hsel : _ = w.selectedBackend direction := hplan.same.selectedBackend
  unfold maxGeneration at hroom
  have hlt : s.generation < s.generation + 1 := by grind
  refine safe_attempt_ok (stage_goes calm h1 h.wellFormed h.codex hstable happlied.symm rfl
    (UInt64.ne_of_lt hlt).symm rfl hplan.target h1.applied_route (hsel ▸ selected_route)
    fun hr => ⟨rfl, ?_, hlt, (hready hr).2.1⟩) ?_
  · rw [hd1 hr]
    exact (hready hr).2.2.marker
  rintro next d2 ⟨h2, hpending, hg, hd, ha, hk, hd2⟩
  rw [← hsel] at hd happlied ⊢
  refine (applyPending_goes calm h2 hpending hd (ha ▸ happlied) fun hr => ⟨?_, ?_⟩).ok_mono fun _ _ h' => ⟨h'.1.transfer hplan.same, hroom, hk⟩
  · rw [hg]
    show s.generation + 1 ≤ maxGeneration - 2
    unfold maxGeneration
    grind
  · rw [hd2 hr, hd1 hr, hsel]
    exact (hready hr).2.2.congr ⟨rfl, rfl, rfl⟩ nofun

end OpenCodexRelay.Routing

