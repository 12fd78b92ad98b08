/-
  What an `Apply` that fails early leaves behind.

  `Apply` builds and checks its candidate first, and a local profile is probed before the old runtime
  is paused; the source promises that a backend which is not there "leaves the current runtime
  untouched".

  1. `beforeTransition` is that first part, `transition` the rest; `apply_eq` says that the two are
     all of `Apply`.
  2. `beforeTransition_fails`: a failure of the first part leaves the manager exactly as it was —
     except that the answer of a probe has been OBSERVED.
  3. An observation keeps the slot and the generation.  It replaces the record, and it may do more:
     the answer is about the backend that was ASKED FOR, but it is held against the local runtime
     that happens to be current, which is parked and loses its catalog.  `Spares` says when it does
     not.
-/
import OpenCodexRelay.Proxy.Readiness

namespace OpenCodexRelay.Proxy

open Durable RuntimeManager

/-! ## The two parts of `Apply` -/

/-- Up to the moment at which the old slot is paused. -/
def beforeTransition (spec : RuntimeSpec) :
    Op (Except Err (RuntimeSpec × Runtime × LocalAvailability)) :=
  match spec.normalized with
  | .error e => refuse e
  | .ok spec =>
    if spec.startParked then refuse .invalidRuntimeProfile else
    attempt (buildCandidate spec) fun candidate =>
    .read fun m => if m.maintenancePrepared then refuse .runtimeMaintenanceState else
    if m.admission = .closed then refuse .runtimeManagerClosed else
    attempt (preflight spec) fun availability => pure (.ok (spec, candidate, availability))

/-- From that moment on. -/
def transition (spec : RuntimeSpec) (candidate : Runtime) (availability : LocalAvailability) :
    Op (Except Err Unit) :=
  .read fun m => do
  modify beginTransition
  modify (cancelWorkers m.current)
  attempt (drain m.current) fun _ => do
  replaceSlot m.current spec candidate availability
  modify unlockGate
  pure (.ok ())

theorem apply_eq (spec : RuntimeSpec) :
    apply spec = attempt (beforeTransition spec) fun c => transition c.1 c.2.1 c.2.2 := by
  unfold apply beforeTransition
  cases spec.normalized with
  | error e => rfl
  | ok spec =>
    simp only
    split_ifs with hparked
    · rfl
    rw [attempt_attempt]
    refine congrArg (attempt _) (funext fun candidate => congrArg Prog.read (funext fun m => ?_))
    show ite _ _ (ite _ _ _) = Prog.bind (ite _ _ (ite _ _ _)) _
    split_ifs with hprepared hclosed
    · rfl
    · rfl
    · exact (attempt_attempt (preflight spec)
        (fun availability => pure (.ok (spec, candidate, availability)))
        fun c => transition c.1 c.2.1 c.2.2).symm

/-! ## Early failures -/

/-- The worker with this handle is running, and nobody has told it to end. -/
def RuntimeManager.atWork (m : RuntimeManager) (i : Nat) : Bool :=
  m.workers[i]?.any fun w => w.running && !w.cancelled

variable {spec : RuntimeSpec}

theorem normalized_error {e : Err} (h : spec.normalized = .error e) (a : LocalAvailability) :
    e ≠ .localOpenCodexUnavailable a := by
  rintro rfl
  unfold RuntimeSpec.normalized at h
  by_cases hparked : (spec.startParked && spec.profile ≠ .localAppleContainer) = true
  · rw [if_pos hparked] at h
    cases h
  · rw [if_neg hparked] at h
    cases hp : spec.profile with
    | external | none =>
      rw [hp] at h
      cases h
    | localOpenCodex | localAppleContainer =>
      rw [hp] at h
      simp only at h
      split_ifs at h <;> cases h

variable {m m' : RuntimeManager}

theorem buildCandidate_fails {r : Except Err Runtime}
    (h : machine.Ends (buildCandidate spec) m r m') :
    m' = m ∧ ∀ a, r ≠ .error (.localOpenCodexUnavailable a) := by
  unfold buildCandidate at h
  split_ifs at h with hnone
  · obtain ⟨rfl, rfl⟩ := h
    exact ⟨rfl, by simp⟩
  obtain ⟨built, _, h⟩ := h
  cases built with
  | none =>
    obtain ⟨rfl, rfl⟩ := h
    exact ⟨rfl, by simp⟩
  | some runtime =>
    simp only [Prog.bind, Runtime.validate] at h
    split_ifs at h
    · obtain ⟨rfl, rfl⟩ := h
      exact ⟨rfl, by simp⟩
    · obtain ⟨rfl, rfl⟩ := h
      exact ⟨rfl, by simp⟩

theorem preflight_fails {e : Err} (h : machine.Ends (preflight spec) m (.error e) m') :
    ∃ a, a ≠ .ready ∧ e = .localOpenCodexUnavailable a ∧ m' = m.observeLocalAvailability a := by
  unfold preflight at h
  split_ifs at h with hlocal
  · obtain ⟨(availability : LocalAvailability), _, h⟩ := h
    change machine.Ends (if availability ≠ .ready then _ else _) _ _ _ at h
    split_ifs at h with hready
    · obtain ⟨he, rfl⟩ := h
      cases he
      exact ⟨availability, hready, rfl, rfl⟩
    · cases h.1
  · cases h.1

/-- **What an early failure leaves**: everything, unless a probe has been observed. -/
theorem beforeTransition_fails {e : Err} (h : machine.Ends (beforeTransition spec) m (.error e) m') :
    ((∀ a, e ≠ .localOpenCodexUnavailable a) ∧ m' = m) ∨
      ∃ a, a ≠ .ready ∧ e = .localOpenCodexUnavailable a ∧ m' = m.observeLocalAvailability a := by
  unfold beforeTransition at h
  cases hspec : spec.normalized with
  | error e' =>
    rw [hspec] at h
    obtain ⟨he, rfl⟩ := h
    cases he
    exact .inl ⟨normalized_error hspec, rfl⟩
  | ok spec =>
    rw [hspec] at h
    simp only at h
    split_ifs at h with hparked
    · obtain ⟨he, rfl⟩ := h
      cases he
      exact .inl ⟨nofun, rfl⟩
    rcases Machine.ends_attempt_error.mp h with hbuild | ⟨candidate, u, hbuild, hrest⟩
    · obtain ⟨rfl, hkind⟩ := buildCandidate_fails hbuild
      exact .inl ⟨fun a ha => hkind a (by rw [ha]), rfl⟩
    obtain ⟨rfl, -⟩ := buildCandidate_fails hbuild
    change machine.Ends (if _ then _ else _) u _ m' at hrest
    split_ifs at hrest with hprepared hclosed
    · obtain ⟨he, rfl⟩ := hrest
      cases he
      exact .inl ⟨nofun, rfl⟩
    · obtain ⟨he, rfl⟩ := hrest
      cases he
      exact .inl ⟨nofun, rfl⟩
    · rcases Machine.ends_attempt_error.mp hrest with hprobe | ⟨_, _, _, hdone⟩
      · exact .inr (preflight_fails hprobe)
      · cases hdone.1

/-! ## What an observation touches -/

/-- No loss can touch the current runtime: it is not a local one, or it is neither admitted nor has a
    catalog at work. -/
def RuntimeManager.Spares (m : RuntimeManager) : Prop :=
  m.current.any Slot.local = true → m.admission ≠ .active ∧
    ∀ i, (m.current.bind fun slot => m.lifecycle slot.id) = some i → m.atWork i = false

section Observation

variable {m : RuntimeManager} {a : LocalAvailability} {handle : Option Nat}

theorem cancelHandle_admission : (cancelHandle handle m).admission = m.admission := by
  cases handle with
  | none => rfl
  | some i => rfl

/-- Only the worker behind the handle may stop working. -/
theorem atWork_cancelHandle (i : Nat) :
    (cancelHandle handle m).atWork i = (m.atWork i && handle ≠ some i) := by
  cases handle with
  | none => simp [cancelHandle]
  | some j =>
    by_cases hij : j = i
    · subst hij
      cases hw : m.workers[j]? with
      | none => simp [atWork, cancelHandle, hw]
      | some w => simp [atWork, cancelHandle, hw]
    · simp [atWork, cancelHandle, hij]

theorem observe_kept : (m.observeLocalAvailability a).current = m.current ∧
    (m.observeLocalAvailability a).generation = m.generation ∧
    (m.observeLocalAvailability a).localAvailability = a := by
  unfold observeLocalAvailability
  cases (m.current.bind fun slot => m.lifecycle slot.id) with
  | none => split_ifs <;> exact ⟨rfl, rfl, rfl⟩
  | some i => split_ifs <;> exact ⟨rfl, rfl, rfl⟩

/-- A loss leaves the admission and the workers alone exactly if nothing of the current runtime is in
    its way. -/
theorem observe_spares (ha : a ≠ .ready) :
    (m.observeLocalAvailability a).admission = m.admission ∧
      (m.observeLocalAvailability a).atWork = m.atWork ↔ m.Spares := by
  unfold observeLocalAvailability
  by_cases hlocal : m.current.any Slot.local = true
  · rw [if_pos (by simp [hlocal, ha])]
    rw [cancelHandle_admission]
    constructor
    · rintro ⟨hadmission, hwork⟩ _
      constructor
      · intro hactive
        rw [if_pos hactive, hactive] at hadmission
        cases hadmission
      · intro i hi
        rw [← congrFun hwork i, atWork_cancelHandle]
        simp [hi]
    · intro h
      obtain ⟨hactive, hcatalog⟩ := h hlocal
      rw [if_neg hactive]
      refine ⟨rfl, funext fun i => ?_⟩
      rw [atWork_cancelHandle]
      show (m.atWork i && _) = m.atWork i
      by_cases hi : (m.current.bind fun slot => m.lifecycle slot.id) = some i
      · rw [hcatalog i hi, Bool.false_and]
      · rw [decide_eq_true hi, Bool.and_true]
  · rw [if_neg (by simp [hlocal])]
    exact ⟨fun _ h => absurd h hlocal, fun _ => ⟨rfl, rfl⟩⟩

end Observation

namespace Sample

/-- The local backend is not there. -/
theorem preflight_unavailable {m : RuntimeManager} (hprepared : m.maintenancePrepared = false)
    (hclosed : m.admission ≠ .closed) :
    machine.Ends (beforeTransition localOpenCodex) m (.error (.localOpenCodexUnavailable .unavailable))
      (m.observeLocalAvailability .unavailable) := by
  refine Machine.ends_attempt_error.mpr (.inr ⟨runtime, m, ⟨some runtime, trivial, rfl, rfl⟩, ?_⟩)
  show machine.Ends (if _ then _ else if _ then _ else _) _ _ _
  rw [if_neg (by simp [hprepared]), if_neg hclosed]
  exact Machine.ends_attempt_error.mpr (.inl ⟨LocalAvailability.unavailable, trivial, rfl, rfl⟩)

end Sample

open Sample

end OpenCodexRelay.Proxy
