/-
  Which witnessed positions can be resolved, and which way.

  A container operation that stopped midway is meant to be finished or taken back: reconciling in
  EITHER direction should return a generation, leave the selected backend stable at it, and leave a
  resolved witness for the lifecycle manager to acknowledge.  When nothing stands in the way, the
  call still depends on the position it starts from.  `Resolvable` is the exact condition:

  1. a state that already rests at the selected backend has to be where the attempt in the witness
     was meant to END.  Reconciling never plans an attempt from there, so the start of an attempt
     cannot be restored by staying put;
  2. a parked state without a journal has to face the operation's target.  One that a restore has
     parked faces the other way, and is refused in both directions;
  3. a stable state that still carries the intent to migrate cannot be staged for another backend;
  4. the generations the attempt needs have to exist.

  Two kinds of call do NOT keep the witness on the positions its plan foresees, and `Along` is the
  condition that leaves them out.  A call that turns round on a journal parks a state whose two
  backends are the other way about than its plan says.  A call that resumes an `applying` state
  writes a journal beside the very state it has recorded as its start, where only the journal it
  came from is foreseen.

  `reconcileFrom_goes` walks through every attempt once, for both: what each durable step keeps,
  and that a generation is returned exactly where the condition holds.
-/
import OpenCodexRelay.Routing.Resolving

namespace OpenCodexRelay.Routing

open Durable

/-! ## What is asked for -/

/-- The call returns `g`, leaves the selected backend stable at `g`, and leaves a resolved witness
    which the acknowledgement of `g` removes. -/
structure Resolves (c : Controller) (request : RuntimeRoutingRequest) (selected : Backend)
    (d d' : Disk) (g : UInt64) : Prop where
  returns : run succeed (c.reconcileRuntimeRouting request true) d = (.ok g, d')
  stable : ∃ s, c.store.read d' = .ok (s, false) ∧ s.generation = g ∧
    stableStateForBackend s selected = true
  resolved : ∃ w, d'.runtimeRouting = .record w ∧ w.phase = .resolved ∧ w.resolvedGeneration = g
  acknowledged : run succeed (c.acknowledgeRuntimeRouting request g) d' =
    (.ok (), { d' with runtimeRouting := .absent })

/-- The selected backend is reached: there is nothing to switch, and no journal but the one that
    led here. -/
def Arrived (s : State) (t : Option TransactionJournal) (selected : Backend) : Prop :=
  stableStateForBackend s selected = true ∧
    ∀ j ∈ t, TransactionJournal.targetBackend j = selected ∧ j.stage = .configMutated

/-- The call only has to confirm the backend that is applied. -/
def Confirms (s : State) (t : Option TransactionJournal) (selected : Backend) : Prop :=
  Arrived s t selected ∨ (t = none ∧ s.appliedBackend = selected)

/-- Nothing stands in the way of the call: the files carry the journal's fingerprints, the preflight
    of the selected backend passes, and the Codex artifacts show it (where the call only confirms
    it) or can be edited (where it switches). -/
structure Unhindered (c : Controller) (d : Disk) (s : State) (t : Option TransactionJournal)
    (selected : Backend) : Prop where
  marker : d.marker ≠ .malformed
  fingerprints : ∀ j ∈ t, c.journalMatchesCurrentFiles d j = true
  preflight : ∃ p, (run succeed (c.preflightBackendWithLegacyIntent selected false) d).1 = .ok p ∧
    (¬ Confirms s t selected → d.Regular ∧
      (run succeed (c.applyConfigWithLegacyIntent selected p.config false) d).1 = .ok ())
  confirmed : Confirms s t selected → ∀ final, stableStateForBackend final selected = true →
    c.appliedRoutingDriftCheck d final = true

/-- The generations an attempt from here goes through exist. -/
def Room (s : State) (t : Option TransactionJournal) (selected : Backend) : Prop :=
  match t with
  | some j =>
    s.generation ≤ maxGeneration - 2 ∧
      (if s.generation ≤ j.generation + 1 then j.generation + 1
        else if s.phase = .recoveryRequired then s.generation
        else s.generation + 1) ≤ maxGeneration - 2
  | none =>
    if s.appliedBackend = selected ∨ s.phase = .applying then s.generation ≠ maxGeneration
    else if stableRoutingState s then s.generation ≤ maxGeneration - 3
    else s.generation ≤ maxGeneration - 2

/-- **The condition** on the witness, the state and the journal a call starts from. -/
structure Resolvable (w : RuntimeRoutingJournal) (s : State) (t : Option TransactionJournal)
    (direction : RuntimeRoutingDirection) : Prop where
  arrived : Arrived s t (w.selectedBackend direction) → s.generation = w.attemptFinalGeneration
  facing : t = none → s.phase = .recoveryRequired → s.desiredBackend ≠ s.appliedBackend →
    s.desiredBackend = w.targetBackend
  unmigrated : t = none → stableRoutingState s = true →
    s.appliedBackend ≠ w.selectedBackend direction → s.knownLegacyBackupAndMigrate = false
  room : ¬ Arrived s t (w.selectedBackend direction) → Room s t (w.selectedBackend direction)

/-! ## Positions -/

variable {direction : RuntimeRoutingDirection} {strict : Prop} {w : RuntimeRoutingJournal} {d : Disk}
variable {t : Option TransactionJournal} {selected : Backend} {recovery s : State}
variable {j : TransactionJournal} {c : Controller}

section Positions

theorem ite_true_cases {p : Prop} [Decidable p] {a b : Bool} (h : (if p then a else b) = true) :
    (p ∧ a = true) ∨ (¬ p ∧ b = true) := by
  by_cases hp : p
  · rw [if_pos hp] at h
    exact .inl ⟨hp, h⟩
  · rw [if_neg hp] at h
    exact .inr ⟨hp, h⟩

variable {P : Paths}

/-- **What a matching witness can mean.** The operation is resolved, or the attempt is at its start,
    under way, or at its end. -/
theorem matches_cases (h : w.matchesState P s t = true) :
    (t = none ∧ w.phase = .resolved ∧ s.generation = w.resolvedGeneration ∧
      stableStateForBackend s (w.selectedBackend w.attemptDirection) = true) ∨
    (t.all w.sourceTransactionMatches = true ∧ s.generation = w.attemptStartGeneration) ∨
    (w.expects t = true ∧ (pendingRoutingState s = true ∨ s.phase = .applying ∨
      s.phase = .recoveryRequired)) ∨
    (t.all w.attemptTransactionMatches = true ∧ s.generation = w.attemptFinalGeneration ∧
      stableStateForBackend s w.attemptTargetBackend = true) := by
  have hall : ∀ {q : TransactionJournal → Bool}, t.isNone = true → t.all q = true := by
    intro q hn
    rw [Option.isNone_iff_eq_none.mp hn]
    rfl
  have hsource : t.all w.sourceTransactionMatches = true → w.expects t = true := by
    cases t with
    | none => exact fun _ => rfl
    | some j =>
      intro hj
      simp only [Option.all_some] at hj
      simp [RuntimeRoutingJournal.expects, hj]
  unfold RuntimeRoutingJournal.matchesState at h
  -- one condition after the other, in the order of the source
  rcases ite_true_cases h with ⟨-, h⟩ | ⟨-, h⟩
  · cases h
  rcases ite_true_cases h with ⟨hphase, h⟩ | ⟨-, h⟩
  · simp only [Bool.and_eq_true, decide_eq_true_eq] at h
    exact .inl ⟨Option.isNone_iff_eq_none.mp h.1.1, hphase, h.1.2, h.2⟩
  rcases ite_true_cases h with ⟨hstart, h⟩ | ⟨-, h⟩
  · simp only [exactRuntimeAttemptStart, Bool.and_eq_true, decide_eq_true_eq] at hstart
    exact .inr (.inl ⟨h, hstart.1.1.1⟩)
  rcases ite_true_cases h with ⟨-, h⟩ | ⟨-, h⟩
  · cases h
  rcases ite_true_cases h with ⟨⟨-, -, hs⟩, h⟩ | ⟨-, h⟩
  · simp only [pendingStateForBackends, Bool.and_eq_true] at hs
    exact .inr (.inr (.inl ⟨hall h, .inl hs.1.1⟩))
  rcases ite_true_cases h with ⟨⟨-, -, hs⟩, h⟩ | ⟨-, h⟩
  · simp only [applyingStateForBackends, Bool.and_eq_true, decide_eq_true_eq] at hs
    exact .inr (.inr (.inl ⟨h, .inr (.inl hs.1.1)⟩))
  rcases ite_true_cases h with ⟨⟨-, -, hs⟩, h⟩ | ⟨-, h⟩
  · exact .inr (.inr (.inl ⟨hsource h, .inr (.inr (parked_of_recovery hs))⟩))
  rcases ite_true_cases h with ⟨⟨-, -, -, hs⟩, h⟩ | ⟨-, h⟩
  · exact .inr (.inr (.inl ⟨h, .inr (.inr (parked_of_recovery hs))⟩))
  rcases ite_true_cases h with ⟨hs, h⟩ | ⟨-, h⟩
  · exact .inr (.inr (.inr ⟨h, hs.1, hs.2⟩))
  rcases ite_true_cases h with ⟨⟨-, -, hs, -⟩, h⟩ | ⟨-, h⟩
  · exact .inr (.inr (.inl ⟨hall h, .inr (.inr hs)⟩))
  · cases h

/-- A journal next to a matching witness is that of a switch. -/
theorem kind_of_matches (h : w.matchesState P s (some j) = true) : j.kind = .routingSwitch := by
  have hsource : w.sourceTransactionMatches j = true → j.kind = .routingSwitch := by
    simp only [RuntimeRoutingJournal.sourceTransactionMatches, Bool.and_eq_true, decide_eq_true_eq]
    exact fun hj => hj.1.1.1.2
  have hattempt : w.attemptTransactionMatches j = true → j.kind = .routingSwitch := by
    simp only [RuntimeRoutingJournal.attemptTransactionMatches, Bool.and_eq_true, decide_eq_true_eq]
    exact fun hj => hj.1.1.1
  rcases matches_cases h with ⟨hc, -⟩ | ⟨hj, -⟩ | ⟨hj, -⟩ | ⟨hj, -⟩
  · cases hc
  · exact hsource hj
  · exact ((Bool.or_eq_true _ _).mp hj).elim hattempt hsource
  · exact hattempt hj

/-- A state at rest under the final generation is at rest at the backend the attempt was for. -/
theorem attemptTarget_of_final (h : Witnessed c strict d w s t)
    (hm : w.matchesState c.store.paths s t = true)
    (hgen : s.generation = w.attemptFinalGeneration) {b : Backend}
    (hs : stableStateForBackend s b = true) : w.attemptTargetBackend = b := by
  have hb := applied_of_stable hs
  rcases matches_cases hm with ⟨-, -, -, hr⟩ | ⟨-, hstart⟩ | ⟨-, hmoving⟩ | ⟨-, -, hfinal⟩
  · have hvalid := (RuntimeRoutingJournal.valid_bound h.valid).2.2.2
    simp only [RuntimeRoutingJournal.validAttempt, Bool.and_eq_true, decide_eq_true_eq] at hvalid
    rw [hvalid.1.1.1.1.1.1.2, ← applied_of_stable hr, hb]
  · have hlt := h.start_lt
    rw [← hstart, ← hgen] at hlt
    exact absurd hlt (by grind)
  · rcases phase_of_stable hs with hp | hp <;>
    · simp [pendingRoutingState, hp] at hmoving
  · rw [← applied_of_stable hfinal, hb]

theorem phase_split (s : State) : (s.phase = .relayActive ∨ s.phase = .nativeActive) ∨
    pendingRoutingState s = true ∨ s.phase = .applying ∨ s.phase = .recoveryRequired := by
  unfold pendingRoutingState
  cases s.phase <;> simp

/-- A state in an active phase is at rest. -/
theorem stable_of_active {bound : String} (h : s.WellFormed P bound)
    (hp : s.phase = .relayActive ∨ s.phase = .nativeActive) : stableRoutingState s = true := by
  have hshape := h.shape
  have hd := h.desired_eq
  have ha := h.applied_eq
  have h0 := h.generation_ne
  unfold State.phaseShape at hshape
  rcases hp with hp | hp
  · simp only [hp, Bool.and_eq_true, decide_eq_true_eq] at hshape
    obtain ⟨⟨⟨-, -⟩, hrelay⟩, hsame⟩ := hshape
    have hne : s.appliedBackend ≠ .none := by
      rintro hc
      rw [hsame, hc] at hrelay
      cases hrelay
    simp [stableRoutingState, stableStateForBackend, hp, hsame, hd, ha, h0, hne]
  · simp only [hp, Bool.and_eq_true, decide_eq_true_eq] at hshape
    simp [stableRoutingState, stableStateForBackend, hp, hshape.1, hshape.2, hd, ha, h0]

/-- A pending state is between two different backends. -/
theorem ne_of_pending {bound : String} (h : s.WellFormed P bound)
    (hp : pendingRoutingState s = true) : s.desiredBackend ≠ s.appliedBackend := by
  have hshape := h.shape
  simp only [pendingRoutingState, Bool.or_eq_true, decide_eq_true_eq] at hp
  unfold State.phaseShape at hshape
  rcases hp with (hp | hp) | hp
  · simp only [hp, Bool.and_eq_true, decide_eq_true_eq] at hshape
    rintro hc
    rw [← hc, hshape.1] at hshape
    cases hshape.2
  · simp only [hp, Bool.and_eq_true, decide_eq_true_eq] at hshape
    rintro hc
    rw [hc, hshape.2] at hshape
    cases hshape.1
  · simp only [hp, Bool.and_eq_true, decide_eq_true_eq] at hshape
    exact hshape.2

/-- A state at rest is neither moving nor parked. -/
theorem settled_of_rest (h : stableRoutingState s = true) :
    s.phase ≠ .applying ∧ s.phase ≠ .recoveryRequired := by
  simp only [stableRoutingState, Bool.and_eq_true] at h
  exact settled_of_stable h.2

theorem room_stay (h : s.appliedBackend = selected) :
    Room s none selected ↔ s.generation ≠ maxGeneration := by
  simp only [Room, h, true_or, if_true]

theorem room_applying (h : s.phase = .applying) :
    Room s none selected ↔ s.generation ≠ maxGeneration := by
  simp only [Room, h, or_true, if_true]

theorem room_rest (h : s.appliedBackend ≠ selected) (hr : stableRoutingState s = true) :
    Room s none selected ↔ s.generation ≤ maxGeneration - 3 := by
  simp only [Room, h, (settled_of_rest hr).1, hr, or_self, if_false, if_true]

theorem room_move (h : s.appliedBackend ≠ selected) (hp : s.phase ≠ .applying)
    (hr : ¬ stableRoutingState s = true) :
    Room s none selected ↔ s.generation ≤ maxGeneration - 2 := by
  simp only [Room, h, hp, hr, or_self, if_false, Bool.false_eq_true]

/-- The parked state a journal stands for. -/
theorem recoveryStateBeyond_eq (h : c.recoveryStateBeyond j s = some recovery) :
    s.generation ≤ recovery.generation ∧ recovery.phase = .recoveryRequired ∧
      recovery.boundCodexConfigPath = c.codexConfigPath ∧
      recovery.knownLegacyBackupAndMigrate = j.knownLegacyBackupAndMigrate ∧
      recovery.desiredBackend = j.targetBackend ∧ recovery.appliedBackend = j.originBackend := by
  unfold Controller.recoveryStateBeyond at h
  simp only at h
  split_ifs at h with h1 h2 h3
  · cases h
    exact ⟨h1, rfl, rfl, rfl, rfl, rfl⟩
  · cases h
    exact ⟨UInt64.le_refl _, rfl, rfl, rfl, rfl, rfl⟩
  · cases h
    refine ⟨?_, rfl, rfl, rfl, rfl, rfl⟩
    show s.generation ≤ s.generation + 1
    unfold maxGeneration at h2
    grind

theorem recoveryStateBeyond_wellFormed (h : c.recoveryStateBeyond j s = some recovery)
    (hv : j.valid = true) (h0 : s.generation ≠ 0) :
    recovery.WellFormed c.store.paths c.store.configPath := by
  have hg : recovery.generation ≠ 0 := by
    have hle := (recoveryStateBeyond_eq h).1
    grind
  unfold Controller.recoveryStateBeyond at h
  simp only at h
  split_ifs at h <;>
  · cases h
    exact journalState_wellFormed hv hg

/-- There is room for a recovery from a journal exactly when the parked state it goes through
    exists and leaves two more generations. -/
theorem room_journal (c : Controller) : Room s (some j) selected ↔
    ∃ recovery, c.recoveryStateBeyond j s = some recovery ∧
      recovery.generation ≤ maxGeneration - 2 := by
  have hgen : (c.recoveryStateFromJournal j).generation = j.generation + 1 := rfl
  unfold Room Controller.recoveryStateBeyond
  simp only [hgen]
  by_cases hle : s.generation ≤ j.generation + 1
  · simp only [hle, if_true, Option.some.injEq, exists_eq_left', hgen]
    exact ⟨fun h => h.2, fun h => ⟨UInt64.le_trans hle h, h⟩⟩
  · simp only [hle, if_false]
    by_cases hs : s.generation ≤ maxGeneration - 2
    · simp only [hs, true_and, gt_iff_lt, UInt64.not_lt.mpr hs, if_false, Option.some.injEq,
        exists_eq_left']
    · simp only [hs, false_and, gt_iff_lt, UInt64.not_le.mp hs, if_true, reduceCtorEq, exists_false]

theorem Witnessed.journal_generation (h : Witnessed c strict d w s (some j)) :
    j.valid = true ∧ j.generation ≠ 0 := by
  rcases loadJournal_cases h.load with ⟨-, hc⟩ | ⟨j', hj', hv, -⟩
  · cases hc
  · cases hj'
    refine ⟨hv, ?_⟩
    simp only [TransactionJournal.valid, Bool.and_eq_true, decide_eq_true_eq] at hv
    exact hv.1.1.1.1.1.1.2

end Positions

/-! ## One call -/

/-- **The condition.** A call that finds a journal goes the journal's way, or starts from the very
    state that stands for it; a call that finds none does not resume an `applying` state. -/
def Along (c : Controller) (w : RuntimeRoutingJournal) (s : State)
    (t : Option TransactionJournal) (direction : RuntimeRoutingDirection) : Prop :=
  match t with
  | some j => j.targetBackend = w.selectedBackend direction ∨ c.recoveryStateBeyond j s = some s
  | none => ¬ (s.phase = .applying ∧ s.desiredBackend = w.selectedBackend direction)

theorem Unhindered.confirmable (h : Unhindered c d s t selected) (hc : Confirms s t selected) :
    Confirmable c d selected := by
  obtain ⟨p, hp, -⟩ := h.preflight
  exact ⟨⟨p, hp⟩, h.confirmed hc⟩

theorem Unhindered.switchable (h : Unhindered c d s t selected) (hna : ¬ Arrived s t selected)
    (hsel : t = none → s.appliedBackend ≠ selected) : Switchable c d selected := by
  obtain ⟨p, hp, hedit⟩ := h.preflight
  have hc : ¬ Confirms s t selected := not_or.mpr ⟨hna, fun ha => hsel ha.1 ha.2⟩
  refine ⟨h.marker, (hedit hc).1, ⟨p, hp⟩, fun p' hp' => ?_⟩
  rw [hp] at hp'
  cases hp'
  exact (hedit hc).2

section Calls

variable {E : Env Disk Query (fun _ => Bool)} {ready : Prop}

/-- The parked state of a journal is one to recover through, in either direction. -/
theorem recovers_of_journal (h : Witnessed c strict d w s (some j))
    (hrecovery : c.recoveryStateBeyond j s = some recovery)
    (halong : strict → Along c w s (some j) direction) :
    Recovers c strict w s recovery direction (s ≠ recovery) := by
  have hroutes := h.journal_route j rfl
  obtain ⟨hle, hphase, hcodex, hk, hd, ha⟩ := recoveryStateBeyond_eq hrecovery
  have hwell := recoveryStateBeyond_wellFormed hrecovery h.journal_generation.1
    h.wellFormed.generation_ne
  have hforward : j.targetBackend = w.selectedBackend direction →
      j.originBackend = w.selectedBackend (oppositeRuntimeDirection direction) := fun heq =>
    eq_opposite hroutes.origin_route (heq ▸ hroutes.origin_ne)
  refine ⟨hle, hwell, hcodex, hphase, hk.trans hroutes.no_migration, hd ▸ hroutes.target_route, ?_, ?_⟩
  · by_cases heq : j.targetBackend = w.selectedBackend direction
    · exact .inr (ha.trans (hforward heq))
    · have hback : j.originBackend = w.selectedBackend direction := by
        by_contra hne
        have h1 := eq_opposite hroutes.origin_route hne
        have h2 := eq_opposite hroutes.target_route heq
        exact hroutes.origin_ne (h1.trans h2.symm)
      exact .inl ⟨ha.trans hback, hd.trans (eq_opposite hroutes.target_route heq)⟩
  · intro hstrict hpark
    rcases halong hstrict with heq | hsame
    · exact ⟨hd.trans heq, ha.trans (hforward heq)⟩
    · -- the state on disk is the parked one, so nothing is replaced
      rw [hrecovery] at hsame
      simp only [Option.some.injEq] at hsame
      simp [hsame] at hpark

/-- How a call ends that starts from the state `s` and the journal `t`. -/
abbrev Resolved (c : Controller) (strict ready : Prop) (w : RuntimeRoutingJournal) (s : State)
    (t : Option TransactionJournal) (direction : RuntimeRoutingDirection) :
    Except Err UInt64 → Disk → Prop :=
  Ends c strict ready fun g d' => Concluded c w direction g d' ∧ Resolvable w s t direction

theorem transaction_goes (calm : ready → Calm E) (h : Witnessed c strict d w s (some j))
    (halong : strict → Along c w s (some j) direction)
    (hready : ready → Unhindered c d s (some j) (w.selectedBackend direction) ∧
      Resolvable w s (some j) direction ∧ w.matchesState c.store.paths s (some j) = true) :
    Keeps E c strict (c.reconcileRuntimeRoutingTransaction w s j direction
      (w.selectedBackend direction)) (Resolved c strict ready w s (some j) direction) d := by
  have hroutes := h.journal_route j rfl
  refine safe_if (fun hn => ⟨h.closed, fun hr => ?_⟩) fun hcheck => ?_
  · obtain ⟨hu, -, hm⟩ := hready hr
    rcases hn with hn | ⟨h1, h2⟩ | hn
    · exact hn (kind_of_matches hm)
    · have h3 := eq_opposite hroutes.target_route (Ne.symm h1)
      have h4 := eq_opposite hroutes.origin_route (Ne.symm h2)
      exact hroutes.origin_ne (h4.trans h3.symm)
    · rw [hu.fingerprints j rfl] at hn
      cases hn
  rw [not_or, not_not] at hcheck
  refine safe_if (fun harrived => ?_) fun hnot => ?_
  · have ha : Arrived s (some j) (w.selectedBackend direction) := by
      refine ⟨harrived.1, ?_⟩
      rintro j' hj'
      cases hj'
      exact harrived.2
    refine safe_attempt_of (removeJournal_goes calm h) (fun _ _ h' => ⟨h'.1.closed, h'.2⟩) ?_
    rintro - d1 ⟨h₁, hd1⟩
    refine safe_attempt_ok (verify_goes calm h₁.closed harrived.1 fun hr => ?_) ?_
    · rw [hd1 hr]
      exact ((hready hr).1.confirmable (.inl ha)).congr ⟨rfl, rfl, rfl⟩
    rintro - _ rfl
    refine (mark_goes calm h₁ fun hr => ?_).ok_mono
      fun _ _ h' => ⟨h'.1, fun _ => h'.2, nofun, nofun, fun hna => absurd ha hna⟩
    obtain ⟨-, hres, hm⟩ := hready hr
    have hgen := hres.arrived ha
    exact ⟨hgen, harrived.1, attemptTarget_of_final h hm hgen harrived.1⟩
  have hna : ¬ Arrived s (some j) (w.selectedBackend direction) := fun ha =>
    hnot ⟨ha.1, ha.2 j rfl⟩
  split
  · rename_i hbeyond
    refine ⟨h.closed, fun hr => ?_⟩
    obtain ⟨recovery, hsome, -⟩ := (room_journal c).mp ((hready hr).2.1.room hna)
    rw [hbeyond] at hsome
    cases hsome
  rename_i recovery hbeyond
  have hsource : ∀ j' ∈ some j, TransactionJournal.kind j' = .routingSwitch ∧ j'.generation ≠ 0 := by
    rintro j' hj'
    cases hj'
    exact ⟨hcheck.1, h.journal_generation.2⟩
  rw [hroutes.no_migration]
  refine (recoverRuntimeRouting_goes calm h hsource (recovers_of_journal h hbeyond halong)
    (fun hr => ⟨?_, (hready hr).1.switchable hna nofun⟩) _).ok_mono
    fun _ _ h' => ⟨h'.1, fun ha => absurd ha hna, nofun, nofun,
      fun _ => (room_journal c).mpr ⟨recovery, hbeyond, h'.2⟩⟩
  obtain ⟨recovery', hsome, hroom⟩ := (room_journal c).mp ((hready hr).2.1.room hna)
  rw [hbeyond] at hsome
  cases hsome
  exact hroom

/-- **Confirming the applied backend.** -/
theorem stay_goes (calm : ready → Calm E) (h : Witnessed c strict d w s none)
    (hsel : s.appliedBackend = w.selectedBackend direction)
    (hna : ¬ Arrived s none (w.selectedBackend direction))
    (hready : ready → Unhindered c d s none (w.selectedBackend direction) ∧
      Resolvable w s none direction)
    (hface : s.phase = .recoveryRequired → s.desiredBackend ≠ s.appliedBackend →
      s.desiredBackend = w.targetBackend) :
    Keeps E c strict (c.replaceRuntimeRoutingState w s direction
      (w.selectedBackend direction)) (Resolved c strict ready w s none direction) d := by
  refine (replaceRuntimeRouting_goes calm h fun hr => ?_).ok_mono
    fun _ _ h' => ⟨h'.1, fun ha => absurd ha hna, fun _ => hface, fun _ _ hne => absurd hsel hne,
      fun _ => (room_stay hsel).mpr h'.2⟩
  obtain ⟨hu, hres⟩ := hready hr
  exact ⟨hu.marker, (room_stay hsel).mp (hres.room hna), hu.confirmable (.inr ⟨rfl, hsel⟩)⟩

/-- **Recovering through a parked state** that no journal stands beside. -/
theorem park_goes (calm : ready → Calm E) (h : Witnessed c strict d w s none)
    (hrec : Recovers c strict w s recovery direction false)
    (hgen : recovery.generation = s.generation) (hparked : s.phase = .recoveryRequired)
    (hsel : s.appliedBackend ≠ w.selectedBackend direction)
    (hready : ready → Unhindered c d s none (w.selectedBackend direction) ∧
      Resolvable w s none direction)
    (hface : s.desiredBackend ≠ s.appliedBackend → s.desiredBackend = w.targetBackend) :
    Keeps E c strict (c.recoverRuntimeRouting w s recovery direction
      (w.selectedBackend direction) none false true false)
      (Resolved c strict ready w s none direction) d := by
  have hrest : ¬ stableRoutingState s = true := fun hr => (settled_of_rest hr).2 hparked
  have hroom := room_move hsel (by rw [hparked]; exact nofun) hrest
  have hna : ¬ Arrived s none (w.selectedBackend direction) := fun ha =>
    hsel (applied_of_stable ha.1)
  refine (recoverRuntimeRouting_goes calm h (fun _ hj => by cases hj) hrec (fun hr => ?_)
    true).ok_mono fun _ _ h' => ⟨h'.1, fun ha => absurd ha hna,
      fun _ _ => hface, fun _ hr => absurd hr hrest, fun _ => hroom.mpr (hgen ▸ h'.2)⟩
  obtain ⟨hu, hres⟩ := hready hr
  exact ⟨hgen ▸ hroom.mp (hres.room hna), hu.switchable hna fun _ => hsel⟩

theorem withoutTransaction_goes (calm : ready → Calm E) (h : Witnessed c strict d w s none)
    (hparked : s.phase = .recoveryRequired)
    (hna : ¬ Arrived s none (w.selectedBackend direction))
    (hready : ready → Unhindered c d s none (w.selectedBackend direction) ∧
      Resolvable w s none direction) :
    Keeps E c strict (c.reconcileRuntimeRoutingWithoutTransaction w s direction
      (w.selectedBackend direction)) (Resolved c strict ready w s none direction) d := by
  have hk : s.knownLegacyBackupAndMigrate = false := by
    refine h.migration_over ?_ ?_ <;>
    · rw [hparked]
      exact nofun
  refine safe_if (fun hsame => safe_if (fun hsel => ?_) fun hsel => ?_) fun hne => ?_
  · exact stay_goes calm h hsel hna hready fun _ hc => absurd hsame hc
  · have hopposite := eq_opposite h.applied_route hsel
    rw [if_neg (not_not.mpr hopposite)]
    refine park_goes calm h ?_ rfl hparked hsel hready fun hc => absurd hsame hc
    have hs := h.wellFormed
    have hroute : w.onRoute (w.selectedBackend direction) := selected_route
    refine ⟨UInt64.le_refl _, { hs with desired_eq := rfl, legacy_imp := fun hk' => ?_, shape := ?_ },
      h.codex, hparked, hk, hroute, .inr hopposite, nofun⟩
    · have hk'' : s.knownLegacyBackupAndMigrate = true := hk'
      rw [hk] at hk''
      cases hk''
    · have hmode : ∀ m, validRecoveryMode m = true := by
        intro m
        cases m <;> rfl
      simp [State.phaseShape, hparked, validRecoveryBackend, valid_of_route h.valid hroute,
        valid_of_route h.valid h.applied_route, hmode]
  refine safe_if (fun hn => ⟨h.closed, fun hr => ?_⟩) fun hside => ?_
  · have htarget := (hready hr).2.facing rfl hparked hne
    rcases hn with hn | hn
    · exact hn htarget
    · rcases h.applied_route with ha | ha
      · exact hn ha
      · exact hne (htarget.trans ha.symm)
  rw [not_or, not_not, not_not] at hside
  refine safe_if (fun hsel => ?_) fun hsel => ?_
  · exact stay_goes calm h hsel.symm hna hready fun _ _ => hside.1
  have hopposite := eq_opposite h.applied_route (Ne.symm hsel)
  have hdesired : s.desiredBackend = w.selectedBackend direction := by
    by_contra hc
    exact hne ((eq_opposite h.desired_route hc).trans hopposite.symm)
  rw [if_neg (not_not.mpr hdesired.symm), hk]
  exact park_goes calm h ⟨UInt64.le_refl _, h.wellFormed, h.codex, hparked, hk, h.desired_route,
    .inr hopposite, nofun⟩ rfl hparked (Ne.symm hsel) hready fun _ => hside.1

/-- **One call.** Every durable step keeps the crash invariant; a generation is returned only where
    the condition holds; and where it holds and nothing is in the way, a generation is returned. -/
theorem reconcileFrom_goes (calm : ready → Calm E) (h : Witnessed c strict d w s t)
    (halong : strict → Along c w s t direction)
    (hready : ready → Unhindered c d s t (w.selectedBackend direction) ∧
      Resolvable w s t direction ∧ w.matchesState c.store.paths s t = true) :
    Keeps E c strict (c.reconcileFrom w s t direction)
      (Resolved c strict ready w s t direction) d := by
  cases t with
  | some j => exact transaction_goes calm h halong hready
  | none =>
    refine safe_if (fun hstable => ?_) fun hstable => ?_
    · have ha : Arrived s none (w.selectedBackend direction) := ⟨hstable, fun _ hj => by cases hj⟩
      refine safe_attempt_ok (verify_goes calm h.closed hstable fun hr =>
        (hready hr).1.confirmable (.inl ha)) ?_
      rintro - _ rfl
      refine (mark_goes calm h fun hr => ?_).ok_mono fun _ _ h' =>
        ⟨h'.1, fun _ => h'.2, fun _ hp => absurd hp (settled_of_stable hstable).2,
          fun _ _ hne => absurd (applied_of_stable hstable) hne, fun hna => absurd ha hna⟩
      obtain ⟨-, hres, hm⟩ := hready hr
      have hgen := hres.arrived ha
      exact ⟨hgen, hstable, attemptTarget_of_final h hm hgen hstable⟩
    have hna : ¬ Arrived s none (w.selectedBackend direction) := fun ha => hstable ha.1
    have hready' : ready → Unhindered c d s none (w.selectedBackend direction) ∧
        Resolvable w s none direction := fun hr => ⟨(hready hr).1, (hready hr).2.1⟩
    refine safe_if (fun hparked => withoutTransaction_goes calm h hparked hna hready')
      fun hparked => ?_
    have hface : s.phase = .recoveryRequired → s.desiredBackend ≠ s.appliedBackend →
        s.desiredBackend = w.targetBackend := fun hp => absurd hp hparked
    have hswitch : s.appliedBackend ≠ w.selectedBackend direction → ready →
        Switchable c d (w.selectedBackend direction) :=
      fun hsel hr => (hready hr).1.switchable hna fun _ => hsel
    refine safe_if (fun hrest => ?_) fun hrest => ?_
    · have hsel : s.appliedBackend ≠ w.selectedBackend direction := by
        rintro hsel
        simp only [stableRoutingState, hsel, Bool.and_eq_true] at hrest
        exact hstable hrest.2
      have hroom := room_rest hsel hrest
      exact (switchStable_goes calm h hrest hsel fun hr => ⟨hroom.mp ((hready' hr).2.room hna),
        (hready' hr).2.unmigrated rfl hrest hsel, hswitch hsel hr⟩).ok_mono
        fun _ _ h' => ⟨h'.1, fun ha => absurd ha hna, fun _ => hface, fun _ _ _ => h'.2.2,
          fun _ => hroom.mpr h'.2.1⟩
    have hdone : Room s none (w.selectedBackend direction) → Resolvable w s none direction :=
      fun hroom => ⟨fun ha => absurd ha hna, fun _ => hface, fun _ hr => absurd hr hrest,
        fun _ => hroom⟩
    -- between two different backends, one of them is the selected one
    have hother : s.desiredBackend ≠ s.appliedBackend →
        s.desiredBackend ≠ w.selectedBackend direction →
        s.appliedBackend = w.selectedBackend direction := by
      intro hne hdesired
      by_contra hc
      exact hne ((eq_opposite h.desired_route hdesired).trans (eq_opposite h.applied_route hc).symm)
    refine safe_if (fun hpending => ?_) fun hpending => ?_
    · have hne := ne_of_pending h.wellFormed hpending
      refine safe_if (fun hdesired => ?_) fun hdesired => ?_
      · have hsel : s.appliedBackend ≠ w.selectedBackend direction := hdesired ▸ hne.symm
        have hroom := room_move hsel (fun hp => by simp [pendingRoutingState, hp] at hpending) hrest
        exact (applyPending_goes calm h hpending hdesired hsel fun hr =>
          ⟨hroom.mp ((hready' hr).2.room hna), hswitch hsel hr⟩).ok_mono
          fun _ _ h' => ⟨h'.1, hdone (hroom.mpr h'.2)⟩
      · rw [if_pos (hother hne hdesired)]
        exact stay_goes calm h (hother hne hdesired) hna hready' hface
    have happlying : s.phase = .applying := by
      rcases phase_split s with hp | hp | hp | hp
      · exact absurd (stable_of_active h.wellFormed hp) hrest
      · exact absurd hp hpending
      · exact hp
      · exact absurd hp hparked
    rw [if_pos happlying]
    have hne := h.moving happlying
    refine safe_if (fun hdesired => ?_) fun hdesired => ?_
    · have hroom : Room s none (w.selectedBackend direction) ↔ s.generation ≠ maxGeneration :=
        room_applying happlying
      exact (resume_goes calm (fun hstrict => halong hstrict ⟨happlying, hdesired⟩) h happlying
        hdesired fun hr => ⟨hroom.mp ((hready' hr).2.room hna),
          hswitch (hdesired ▸ hne.symm) hr⟩).ok_mono
        fun _ _ h' => ⟨h'.1, hdone (hroom.mpr h'.2)⟩
    · rw [if_pos (hother hne hdesired)]
      exact stay_goes calm h (hother hne hdesired) hna hready' hface

end Calls

end OpenCodexRelay.Routing
