/-
  The witness never loses the position it describes.

  Every call of a container operation plans an attempt, makes the plan durable, and then mutates.
  This module takes the calls the lifecycle manager makes and puts them together for whole
  histories, in which each call may stop anywhere and be answered anything.

  1. The entry points: beginning, reconciling and acknowledging an operation.
  2. `witness_matches_along_runs`: the witness describes the files at every stopping point of the
     histories whose calls keep their course.
  3. `reconcile_resolves_iff`: from which of the positions that ANY history reaches a call resolves
     the operation.
-/
import OpenCodexRelay.Routing.Advances
import OpenCodexRelay.Routing.Resolvable

namespace OpenCodexRelay.Routing

open Durable

/-! ## The entry points -/

variable {d : Disk} {t : Option TransactionJournal} {c : Controller} {s : State} {strict : Prop}
variable {w : RuntimeRoutingJournal}

section EntryPoints

variable {E : Env Disk Query (fun _ => Bool)}

theorem loadMaintenance_none (h : c.store.loadMaintenance d = .ok none) :
    d.maintenance = .absent := by
  unfold Store.loadMaintenance at h
  split at h
  · assumption
  · cases h
  · split at h <;> cases h

theorem loadRuntimeRouting_some
    (h : c.store.loadRuntimeRouting c.codexConfigPath d = .ok (some w)) :
    d.runtimeRouting = .record w := by
  unfold Store.loadRuntimeRouting at h
  rw [c.codex_canonical] at h
  split at h
  · cases h
  · cases h
  · rename_i j hj
    simp only at h
    split at h
    · cases h
      exact hj
    · cases h

theorem loadRuntimeRouting_none (h : c.store.loadRuntimeRouting c.codexConfigPath d = .ok none) :
    d.runtimeRouting = .absent := by
  unfold Store.loadRuntimeRouting at h
  rw [c.codex_canonical] at h
  split at h
  · assumption
  · cases h
  · simp only at h
    split at h
    · cases h
    · cases h

theorem Witnessed.loadRuntimeRouting (h : Witnessed c strict d w s t) :
    c.store.loadRuntimeRouting c.codexConfigPath d = .ok (some w) := by
  unfold Store.loadRuntimeRouting
  rw [h.witness, c.codex_canonical]
  simp only [h.valid, if_true]

theorem runtimeRoutingEvidence_eq (h : c.runtimeRoutingEvidence d w = some (s, t)) :
    c.store.read d = .ok (s, false) ∧ loadJournal d = .ok t ∧
      w.matchesState c.store.paths s t = true := by
  unfold Controller.runtimeRoutingEvidence at h
  split at h
  · rename_i s' t' hr hl
    split at h
    · rename_i hm
      cases h
      exact ⟨hr, hl, hm⟩
    · cases h
  · cases h

/-- The evidence is about the state and the journal on disk. -/
theorem Witnessed.evidence_eq {s' : State} {t' : Option TransactionJournal}
    (h : Witnessed c strict d w s t) (he : c.runtimeRoutingEvidence d w = some (s', t')) :
    s' = s ∧ t' = t := by
  obtain ⟨hr, hl, -⟩ := runtimeRoutingEvidence_eq he
  rw [h.read] at hr
  rw [h.load] at hl
  cases hr
  cases hl
  exact ⟨rfl, rfl⟩

theorem Witnessed.evidence (h : Witnessed c strict d w s t) (hstrict : strict) :
    c.runtimeRoutingEvidence d w = some (s, t) := by
  unfold Controller.runtimeRoutingEvidence
  rw [h.read, h.load]
  simp only [h.matches_state hstrict, if_true]

/-- The crash invariant at a witness. -/
theorem CrashClosed.witnessed (h : CrashClosed c strict d) (hw : d.runtimeRouting = .record w) :
    ∃ s t, Witnessed c strict d w s t := by
  rcases h with habs | ⟨w', s, t, h⟩
  · rw [habs] at hw
    cases hw
  · have hsame := h.witness
    rw [hw] at hsame
    cases hsame
    exact ⟨s, t, h⟩

/-- The condition on a call, read off the disk it starts from. -/
def Controller.KeepsCourse (c : Controller) (d : Disk) (direction : RuntimeRoutingDirection) :
    Prop :=
  ∀ w s t, c.store.loadRuntimeRouting c.codexConfigPath d = .ok (some w) →
    c.runtimeRoutingEvidence d w = some (s, t) → Along c w s t direction

/-- How a call may end that settles on no particular state. -/
abbrev StaysClosed (c : Controller) (strict : Prop) {α : Type} : α → Disk → Prop :=
  fun _ d' => CrashClosed c strict d'

variable {request : RuntimeRoutingRequest}

theorem reconcile_keeps (exited : Bool) (h : CrashClosed c strict d)
    (hcourse : strict → c.KeepsCourse d request.direction) :
    Keeps E c strict (c.reconcileRuntimeRouting request exited) (StaysClosed c strict) d := by
  unfold Controller.reconcileRuntimeRouting
  rw [Keeps, safe_ite, safe_ite]
  refine ⟨fun _ => h, fun _ => ⟨fun _ => h, fun _ => ?_⟩⟩
  rw [safe_bind]
  refine safe_recoveryGateActive trivial fun gated => ?_
  refine safe_if (fun _ => h) fun _ => ?_
  refine safe_read.mpr ?_
  split
  · rename_i w' hm hload
    refine safe_if (fun _ => h) fun _ => ?_
    split
    · exact h
    · rename_i s t hevidence
      obtain ⟨s0, t0, hw⟩ := h.witnessed (loadRuntimeRouting_some hload)
      obtain ⟨rfl, rfl⟩ := hw.evidence_eq hevidence
      exact (reconcileFrom_goes False.elim hw (fun hstrict => hcourse hstrict _ _ _ hload hevidence)
        False.elim).except_mono (fun _ _ h' => h'.1) fun _ _ h' => h'.1.closed
  · exact h

/-- After a fresh beginning the state is pending, so the call that follows keeps its course. -/
theorem keepsCourse_of_pending (h : Witnessed c strict d w s none) (hs : pendingRoutingState s = true)
    (direction : RuntimeRoutingDirection) : c.KeepsCourse d direction := by
  intro w' s' t' hload hevidence
  have hsame := h.loadRuntimeRouting
  rw [hload] at hsame
  cases hsame
  obtain ⟨rfl, rfl⟩ := h.evidence_eq hevidence
  rintro ⟨happlying, -⟩
  simp [pendingRoutingState, happlying] at hs

theorem start_keeps (habs : d.runtimeRouting = .absent) (hread : c.store.read d = .ok (s, false))
    (hload : loadJournal d = .ok none) (hmaint : d.maintenance = .absent)
    (hcodex : s.boundCodexConfigPath = c.codexConfigPath) (hstable : stableRoutingState s = true)
    (hdir : request.direction = .completeTarget) :
    Keeps E c strict (c.startRuntimeRouting request s)
      (outcome (fun _ d' => CrashClosed c strict d' ∧ ∀ direction, c.KeepsCourse d' direction)
        fun _ d' => CrashClosed c strict d') d := by
  have hclosed : CrashClosed c strict d := .inl habs
  have hsame : s.desiredBackend = s.appliedBackend := by
    simp only [stableRoutingState, Bool.and_eq_true, decide_eq_true_eq] at hstable
    exact hstable.1
  have calm : False → Calm E := False.elim
  unfold Controller.startRuntimeRouting
  simp only
  refine safe_if (fun _ => hclosed) fun hne => ?_
  rw [not_or] at hne
  refine safe_attempt_of (preflightRequested_goes calm hclosed False.elim)
    (fun _ _ h' => h'.1) ?_
  rintro - _ rfl
  unfold Controller.planAttempt
  split
  · exact hclosed
  rename_i w hw
  obtain ⟨⟨h0, hgen, -⟩, rfl⟩ := setAttempt_switch.mp hw
  refine safe_attempt.mpr (safe_guarded_of (writeRuntimeRouting_records (P := CrashClosed c strict)
    hread hload hmaint (fun hv => ?_) ?_ (fun _ hj => by cases hj) hclosed) (fun _ _ h' => h') ?_)
  · refine ⟨fun _ => matches_start (validate_of_bound hv (Store.read_wellFormed hread) hcodex) rfl ?_
      rfl, hcodex, .inl hsame, .inl rfl, fun hc => absurd hc (settled_of_rest hstable).1, fun _ => hstable⟩
    simp [exactRuntimeAttemptStart, RuntimeRoutingJournal.planned,
      RuntimeRoutingJournal.startAttempt]
  · show s.generation < s.generation + 3
    unfold maxGeneration at hgen
    grind
  intro _ d1 h1
  have hwell : State.WellFormed c.store.paths c.store.configPath
      { s with knownLegacyBackupAndMigrate := false } := by
    have hs := Store.read_wellFormed hread
    exact { hs with legacy_imp := by rintro ⟨⟩ }
  have hgen' : s.generation + 1 ≠ s.generation := by grind
  refine safe_attempt_of (stage_goes calm h1 hwell hcodex hstable (Ne.symm hne.1) rfl hgen'
    rfl ?_ (.inl rfl) (.inr rfl) False.elim) (fun _ _ h' => h'.1) ?_
  · simp [RuntimeRoutingJournal.planned, RuntimeRoutingJournal.startAttempt,
      RuntimeRoutingJournal.selectedBackend, hdir, Controller.newRuntimeRoutingJournal]
  rintro next d2 ⟨h2, hpending, -⟩
  exact ⟨h2.closed, keepsCourse_of_pending h2 hpending⟩

theorem begin_keeps (h : CrashClosed c strict d)
    (hcourse : strict → c.KeepsCourse d request.direction)
    (hdir : request.direction = .completeTarget) :
    Keeps E c strict (c.beginRuntimeRouting request)
      (outcome (fun _ d' => CrashClosed c strict d' ∧
          (strict → c.KeepsCourse d' request.direction))
        fun _ d' => CrashClosed c strict d') d := by
  unfold Controller.beginRuntimeRouting
  rw [Keeps, safe_bind]
  refine safe_recoveryGateActive trivial fun gated => ?_
  refine safe_if (fun _ => h) fun _ => ?_
  refine safe_read.mpr ?_
  split
  · exact safe_if (fun _ => ⟨h, hcourse⟩) fun _ => h
  · rename_i hm hload
    split
    · rename_i s hj hbound
      refine safe_if (fun hs => ?_) fun _ => h
      exact (start_keeps (loadRuntimeRouting_none hload) (boundState_durable hbound) hj
        (loadMaintenance_none hm) (boundState_eq hbound).2 hs.2 hdir).ok_mono
        fun _ _ hr => ⟨hr.1, fun _ => hr.2 _⟩
    · exact h
  · exact h

theorem switch_keeps (exited : Bool) (h : CrashClosed c strict d)
    (hcourse : strict → c.KeepsCourse d request.direction) :
    Keeps E c strict (c.switchRuntimeRouting request exited) (StaysClosed c strict) d := by
  unfold Controller.switchRuntimeRouting
  rw [Keeps, safe_ite, safe_ite]
  refine ⟨fun _ => h, fun _ => ⟨fun _ => h, fun hreq => ?_⟩⟩
  rw [not_or, not_not] at hreq
  refine safe_attempt_ok (begin_keeps h hcourse hreq.2) ?_
  rintro - d1 ⟨h1, hcourse1⟩
  exact reconcile_keeps exited h1 hcourse1

theorem acknowledge_keeps (generation : UInt64) (h : CrashClosed c strict d) :
    Keeps E c strict (c.acknowledgeRuntimeRouting request generation) (StaysClosed c strict) d := by
  have hremove : Keeps E c strict removeRuntimeRouting (StaysClosed c strict) d := by
    refine safe_read.mpr ?_
    split
    · exact h
    · exact safe_store trivial (.inl rfl) (.inl rfl) h
  unfold Controller.acknowledgeRuntimeRouting
  refine safe_if (fun _ => h) fun _ => ?_
  refine safe_read.mpr ?_
  split
  · refine safe_if (fun _ => ?_) fun _ => h
    split
    · exact safe_if (fun _ => hremove) fun _ => h
    · exact h
  · exact h

end EntryPoints

/-! ## Histories -/

/-- The calls the lifecycle manager makes. -/
inductive RuntimeRoutingCall where
  | switch (request : RuntimeRoutingRequest) (desktopExited : Bool)
  | reconcile (request : RuntimeRoutingRequest) (desktopExited : Bool)
  | acknowledge (request : RuntimeRoutingRequest) (resolvedGeneration : UInt64)

def RuntimeRoutingCall.Result : RuntimeRoutingCall → Type
  | .switch _ _ | .reconcile _ _ => Except Err UInt64
  | .acknowledge _ _ => Except Err Unit

def RuntimeRoutingCall.prog (c : Controller) : (call : RuntimeRoutingCall) → Op call.Result
  | .switch request desktopExited => c.switchRuntimeRouting request desktopExited
  | .reconcile request desktopExited => c.reconcileRuntimeRouting request desktopExited
  | .acknowledge request generation => c.acknowledgeRuntimeRouting request generation

/-- Any sequence of `allowed` calls, each of which may stop anywhere and be answered anything. -/
def Controller.runtimeRoutingSystem (c : Controller)
    (allowed : RuntimeRoutingCall → Disk → Prop) :
    System Disk Query (fun _ => Bool) RuntimeRoutingCall where
  Result := RuntimeRoutingCall.Result
  prog := RuntimeRoutingCall.prog c
  env := anyReply
  allowed := allowed
  other := fun _ _ => False

/-- The calls that keep the course of the witness they find. -/
def Controller.keepsCourse (c : Controller) : RuntimeRoutingCall → Disk → Prop
  | .switch request _, d | .reconcile request _, d => c.KeepsCourse d request.direction
  | .acknowledge _ _, _ => True

theorem call_keeps {d' : Disk} (call : RuntimeRoutingCall) (ha : strict → c.keepsCourse call d)
    (h : CrashClosed c strict d) (hstop : Stops anyReply (call.prog c) d d') :
    CrashClosed c strict d' := by
  have hsafe : Keeps anyReply c strict (call.prog c) (StaysClosed c strict) d := by
    cases call with
    | switch request exited => exact switch_keeps exited h ha
    | reconcile request exited => exact reconcile_keeps exited h ha
    | acknowledge request generation => exact acknowledge_keeps generation h
  exact stops_of_safe hsafe (fun _ _ h' _ => h') h hstop

/-- **The crash invariant along every run** of calls that keep their course, if that is demanded. -/
theorem reachable_closed {allowed : RuntimeRoutingCall → Disk → Prop} {d' : Disk}
    (ha : strict → ∀ call d, allowed call d → c.keepsCourse call d) (h0 : d.runtimeRouting = .absent)
    (hrun : (c.runtimeRoutingSystem allowed).Reachable d d') : CrashClosed c strict d' :=
  (c.runtimeRoutingSystem allowed).reachable_inv (.inl h0)
    (fun call s _ hcall h hstop => call_keeps call (fun hs => ha hs call s hcall) h hstop)
    (fun _ _ _ ho => ho.elim) hrun

/-- **The witness describes the files at every stopping point** of every history of calls that keep
    their course: it matches the state and the journal, and the next call is not refused for it. -/
theorem witness_matches_along_runs (c : Controller) (d d' : Disk)
    (h0 : d.runtimeRouting = .absent)
    (hrun : (c.runtimeRoutingSystem c.keepsCourse).Reachable d d') (w : RuntimeRoutingJournal)
    (hw : d'.runtimeRouting = .record w) :
    (∃ s t, c.store.read d' = .ok (s, false) ∧ loadJournal d' = .ok t ∧
      w.matchesState c.store.paths s t = true) ∧ c.runtimeRoutingPending d' = .ok true := by
  have hclosed : CrashClosed c True d' := reachable_closed (fun _ _ _ ha => ha) h0 hrun
  obtain ⟨s, t, h⟩ := hclosed.witnessed hw
  refine ⟨⟨s, t, h.read, h.load, h.matches_state trivial⟩, ?_⟩
  unfold Controller.runtimeRoutingPending
  rw [h.loadRuntimeRouting]
  simp [h.evidence trivial]

/-- A call that dies after `n` writes and answers. -/
theorem sample_step {allowed : RuntimeRoutingCall → Disk → Prop} (env : Query → Disk → Bool)
    (call : RuntimeRoutingCall) (n : Nat) (d : Disk) (h : allowed call d) :
    (Sample.controller.runtimeRoutingSystem allowed).Step d
      (halt env (call.prog Sample.controller) n d) :=
  .op call h (stops_halt env (fun _ _ => trivial) _ n d)

/-- An activation that dies right after it has written its journal. -/
theorem witness_matches_after_crash :
    ∃ d w, d.runtimeRouting = .record w ∧
      (∃ s t, Sample.store.read d = .ok (s, false) ∧ loadJournal d = .ok t ∧
        w.matchesState Sample.paths s t = true) ∧
      Sample.controller.runtimeRoutingPending d = .ok true := by
  have hcourse : Sample.controller.keepsCourse (.switch (Sample.request .completeTarget) true)
      Sample.externalActive := by
    intro w s t hload _
    cases hload
  have hrun := Relation.ReflTransGen.single (sample_step succeed _ 12 _ hcourse)
  exact ⟨_, _, rfl, witness_matches_along_runs Sample.controller _ _ rfl hrun _ rfl⟩

/-- **Two histories that lose their witness.** In the first, a restore turns round on the journal
    of an interrupted activation and stops once it has parked the state.  In the second, an
    activation that stopped before its journal is resumed and stops once it has written it. -/
theorem runtimeRouting_loses_witness :
    (∃ d w s t, (Sample.controller.runtimeRoutingSystem fun _ _ => True).Reachable
        Sample.externalActive d ∧ d.runtimeRouting = .record w ∧
      Sample.store.read d = .ok (s, false) ∧ loadJournal d = .ok t ∧
      w.matchesState Sample.paths s t = false ∧
      Sample.controller.runtimeRoutingPending d = .error .runtimeRoutingConflict) ∧
    ∃ d w s t, (Sample.controller.runtimeRoutingSystem fun _ _ => True).Reachable
        Sample.externalActive d ∧ d.runtimeRouting = .record w ∧
      Sample.store.read d = .ok (s, false) ∧ loadJournal d = .ok t ∧
      w.matchesState Sample.paths s t = false ∧
      Sample.controller.runtimeRoutingPending d = .error .runtimeRoutingConflict := by
  have start (n : Nat) : (Sample.controller.runtimeRoutingSystem fun _ _ => True).Reachable _ _ :=
    Relation.ReflTransGen.single (sample_step succeed
      (.switch (Sample.request .completeTarget) true) n Sample.externalActive trivial)
  constructor
  · exact ⟨_, _, _, _,
      (start 12).tail
        (sample_step succeed (.reconcile (Sample.request .restoreOrigin) true) 4 _ trivial),
      rfl, rfl, rfl, rfl, rfl⟩
  · exact ⟨_, _, _, _,
      (start 10).tail
        (sample_step succeed (.reconcile (Sample.request .completeTarget) true) 5 _ trivial),
      rfl, rfl, rfl, rfl, rfl⟩

/-! ## Which positions a call resolves -/

section Calls

variable {request : RuntimeRoutingRequest}

theorem valid_of_matchesRequest (h : w.matchesRequest request = true) : request.valid = true := by
  simp only [RuntimeRoutingJournal.matchesRequest, Bool.and_eq_true] at h
  exact h.1.1.1

theorem Witnessed.loadMaintenance (h : Witnessed c strict d w s t) :
    c.store.loadMaintenance d = .ok none := by
  unfold Store.loadMaintenance
  rw [h.maintenance]

/-- With the evidence on disk, a call is what it does from there. -/
theorem run_reconcile (h : Witnessed c strict d w s t)
    (he : c.runtimeRoutingEvidence d w = some (s, t)) (hreq : w.matchesRequest request = true) :
    run succeed (c.reconcileRuntimeRouting request true) d =
      run succeed (c.reconcileFrom w s t request.direction) d := by
  have hvalid := valid_of_matchesRequest hreq
  have hgate : run succeed c.recoveryGateActive d = (false, d) := by
    unfold Controller.recoveryGateActive
    split <;> rfl
  unfold Controller.reconcileRuntimeRouting
  rw [if_neg (by simp), if_neg (by simp [hvalid]), run_bind, hgate]
  simp only [run, h.loadMaintenance, h.loadRuntimeRouting, hreq, he, Bool.false_eq_true, if_false, Bool.not_true]

/-- A resolved operation is acknowledged. -/
theorem run_acknowledge {g : UInt64} (hreq : w.matchesRequest request = true)
    (h : Concluded c w request.direction g d) :
    run succeed (c.acknowledgeRuntimeRouting request g) d =
      (.ok (), { d with runtimeRouting := .absent }) := by
  obtain ⟨w', s', hop, hw, rfl, hs⟩ := h
  have hvalid := valid_of_matchesRequest hreq
  have hreq' : (Controller.resolvedJournal w' request.direction s').matchesRequest request = true := by
    rw [← hop.matchesRequest] at hreq
    exact hreq
  have happle : (Controller.resolvedJournal w' request.direction s').resolvedAppleActive =
      decide ((Controller.resolvedJournal w' request.direction s').selectedBackend
        request.direction = .localAppleContainer) := by
    have hsel : (Controller.resolvedJournal w' request.direction s').selectedBackend
        request.direction = w.selectedBackend request.direction := by
      rw [← hop.selectedBackend]
      cases request.direction <;> rfl
    rw [hsel, ← applied_of_stable hs]
    rfl
  unfold Controller.acknowledgeRuntimeRouting
  rw [if_neg (by simp [hvalid, hw.wellFormed.generation_ne])]
  simp only [run, hw.loadRuntimeRouting, hw.loadMaintenance]
  rw [if_pos ⟨hreq', rfl, rfl, happle⟩, hw.evidence trivial]
  simp only [if_true]
  unfold removeRuntimeRouting
  simp only [run, hw.witness]
  rfl

end Calls

/-- **A witnessed position is resolved by a call exactly where the condition holds.** The position
    is any that calls in either direction reach, with crashes and refusals anywhere; nothing stands
    in the way of the call. -/
theorem reconcile_resolves_iff (c : Controller) (d₀ d : Disk) (h0 : d₀.runtimeRouting = .absent)
    (hrun : (c.runtimeRoutingSystem fun _ _ => True).Reachable d₀ d) (w : RuntimeRoutingJournal)
    (s : State) (t : Option TransactionJournal) (hw : d.runtimeRouting = .record w)
    (he : c.runtimeRoutingEvidence d w = some (s, t)) (request : RuntimeRoutingRequest)
    (hreq : w.matchesRequest request = true)
    (hu : Unhindered c d s t (w.selectedBackend request.direction)) :
    (∃ g d', Resolves c request (w.selectedBackend request.direction) d d' g) ↔
      Resolvable w s t request.direction := by
  have hclosed : CrashClosed c False d := reachable_closed False.elim h0 hrun
  obtain ⟨s', t', hwit⟩ := hclosed.witnessed hw
  obtain ⟨rfl, rfl⟩ := hwit.evidence_eq he
  have hcall := run_reconcile hwit he hreq
  -- the answers are all yes, and readiness is the condition itself
  have hgoes : Keeps everythingSucceeds c False
      (c.reconcileFrom w s t request.direction)
      (Resolved c False (Resolvable w s t request.direction) w s t request.direction) d :=
    reconcileFrom_goes (fun _ _ _ _ ha => ha) hwit False.elim
      fun hr => ⟨hu, hr, (runtimeRoutingEvidence_eq he).2.2⟩
  have hpost := run_of_safe succeed everythingSucceeds_succeed hgoes
  rw [← hcall] at hpost
  constructor
  · rintro ⟨g, d', hres⟩
    rw [hres.returns] at hpost
    exact hpost.2
  · intro hr
    obtain ⟨⟨r, d'⟩, hrun⟩ : ∃ p, run succeed (c.reconcileRuntimeRouting request true) d = p := ⟨_, rfl⟩
    rw [hrun] at hpost
    cases r with
    | error e => exact absurd hr hpost.2
    | ok g =>
      have hack := run_acknowledge hreq hpost.1
      obtain ⟨w', s', -, hw', hg, hs⟩ := hpost.1
      exact ⟨g, d', hrun, ⟨s', hw'.read, hg, hs⟩, ⟨_, hw'.witness, rfl, hg⟩, hack⟩

namespace Sample

/-- An activation that stops as soon as its witness is written: nothing has moved. -/
def begun : Disk :=
  halt succeed (RuntimeRoutingCall.prog controller (.switch (request .completeTarget) true)) 3
    externalActive

/-- An activation whose final state the relay never acknowledges, and a restore whose journal is
    not written. -/
def reversed : Disk :=
  halt (fun q _ => match q with | .store (.journal _) => false | _ => true)
    (RuntimeRoutingCall.prog controller (.reconcile (request .restoreOrigin) true)) 100
    (halt (fun q _ => match q with | .awaitFinalized _ => false | _ => true)
      (RuntimeRoutingCall.prog controller (.switch (request .completeTarget) true)) 100
      externalActive)

end Sample

section Positions

open Sample

theorem begun_reachable :
    (controller.runtimeRoutingSystem fun _ _ => True).Reachable externalActive begun :=
  Relation.ReflTransGen.single (sample_step succeed _ 3 externalActive trivial)

theorem reversed_reachable :
    (controller.runtimeRoutingSystem fun _ _ => True).Reachable externalActive reversed :=
  (Relation.ReflTransGen.single (sample_step _ _ 100 externalActive trivial)).tail
    (sample_step _ _ 100 _ trivial)

/-- The drift check looks at the applied backend only. -/
theorem drift_of_applied {shown final : State} (h : c.appliedRoutingDriftCheck d shown = true)
    (hphase : shown.phase = .relayActive) (hbound : shown.boundCodexConfigPath ≠ "")
    (ha : final.appliedBackend = shown.appliedBackend) :
    c.appliedRoutingDriftCheck d final = true := by
  unfold Controller.appliedRoutingDriftCheck at h ⊢
  rw [if_neg (by simp [hphase, hbound])] at h
  split
  · rfl
  · rw [ha]
    exact h

/-- Nothing stands in the way of confirming a backend that the artifacts show. -/
theorem unhindered_of_applied {shown : State} {selected : Backend} (hm : d.marker ≠ .malformed)
    (ha : s.appliedBackend = selected)
    (hpre : ∃ p, (run succeed (c.preflightBackendWithLegacyIntent selected false) d).1 = .ok p)
    (h : c.appliedRoutingDriftCheck d shown = true) (hphase : shown.phase = .relayActive)
    (hbound : shown.boundCodexConfigPath ≠ "") (hs : shown.appliedBackend = selected) :
    Unhindered c d s none selected := by
  obtain ⟨p, hp⟩ := hpre
  exact ⟨hm, fun _ hj => (by cases hj), ⟨p, hp, fun hn => absurd (.inr ⟨rfl, ha⟩) hn⟩,
    fun _ final hfinal => drift_of_applied h hphase hbound ((applied_of_stable hfinal).trans hs.symm)⟩

/-- From the begun activation, completing goes through. -/
theorem begun_completes : ∃ g d', Resolves controller (request .completeTarget) .localAppleContainer
    begun d' g := by
  refine (reconcile_resolves_iff controller externalActive begun rfl begun_reachable _ _ _ rfl rfl
    (request .completeTarget) rfl ?_).mpr ?_
  · exact ⟨nofun, fun _ hj => (by cases hj), ⟨_, rfl, fun _ => ⟨⟨nofun, nofun, nofun⟩, rfl⟩⟩,
      fun hc => hc.elim (fun ha => (by cases ha.1)) fun ha => (by cases ha.2)⟩
  · exact ⟨fun ha => (by cases ha.1), nofun, fun _ _ _ => rfl, fun _ => (by decide :
      (5 : UInt64) ≤ maxGeneration - 3)⟩

/-- **Two witnessed positions that are not resolved**, although nothing stands in the way: restoring
    the origin of an activation that has moved nothing, and either direction from a state that a
    restore has parked. -/
theorem reconcile_refuses_witnessed :
    ((controller.runtimeRoutingSystem fun _ _ => True).Reachable externalActive begun ∧
      ∃ w s t, begun.runtimeRouting = .record w ∧
        controller.runtimeRoutingEvidence begun w = some (s, t) ∧
        w.matchesRequest (request .restoreOrigin) = true ∧
        Unhindered controller begun s t (w.selectedBackend .restoreOrigin) ∧
        (run succeed (controller.reconcileRuntimeRouting (request .restoreOrigin) true) begun).1 =
          .error .runtimeRoutingConflict) ∧
    (controller.runtimeRoutingSystem fun _ _ => True).Reachable externalActive reversed ∧
      ∃ w s t, reversed.runtimeRouting = .record w ∧
        controller.runtimeRoutingEvidence reversed w = some (s, t) ∧
        ∀ direction, w.matchesRequest (request direction) = true ∧
          Unhindered controller reversed s t (w.selectedBackend direction) ∧
          (run succeed (controller.reconcileRuntimeRouting (request direction) true) reversed).1 =
            .error .runtimeRoutingConflict := by
  refine ⟨⟨begun_reachable, _, state 5 .external .external .relayActive, none, rfl, rfl, rfl, ?_,
    rfl⟩, reversed_reachable, _, state 11 .external .localAppleContainer .recoveryRequired, none, rfl,
    rfl, fun direction => ?_⟩
  · have hshown : controller.appliedRoutingDriftCheck begun
        (state 5 .external .external .relayActive) = true := rfl
    exact unhindered_of_applied nofun rfl ⟨_, rfl⟩ hshown rfl (by decide) rfl
  · cases direction with
    | completeTarget =>
      have hshown : controller.appliedRoutingDriftCheck reversed
          (state 5 .localAppleContainer .localAppleContainer .relayActive) = true := rfl
      exact ⟨rfl, unhindered_of_applied nofun rfl ⟨_, rfl⟩ hshown rfl (by decide) rfl, rfl⟩
    | restoreOrigin =>
      have hno : ¬ Confirms (state 11 .external .localAppleContainer .recoveryRequired) none
          .external := not_or.mpr ⟨fun ha => (by cases ha.1), fun ha => (by cases ha.2)⟩
      exact ⟨rfl, ⟨nofun, fun _ hj => (by cases hj),
        ⟨_, rfl, fun _ => ⟨⟨nofun, nofun, nofun⟩, rfl⟩⟩, fun hc => absurd hc hno⟩, rfl⟩

end Positions

end OpenCodexRelay.Routing
