/-
  What the operations of the runtime manager are about.

  Most of the object is machinery: the gate, the requests, the handles and the workers.  What an
  operation DECIDES on, and what it changes for good, is small: the current slot and the admission,
  the maintenance it has prepared, whether shutdown has begun, how many slots and workers there have
  been, and the two history fields.

  1. `View` is that part; `RuntimeManager.view` forgets the rest.
  2. A step of `Elsewhere` leaves the view as it is, or is the recording of an observation, which on
     views is `View.observe`.
  3. An assertion about the view is stable if it survives the observations the others may make.
-/
import OpenCodexRelay.Proxy.Exclusive

namespace OpenCodexRelay.Proxy

open Durable

structure View where
  current : Option Slot
  admission : RuntimeAdmission
  parentCancelled : Bool
  prepared : Bool
  maintenanceSlot : Option Slot
  slots : Nat
  /-- How many workers have been started. -/
  started : Nat
  lastObservation : LocalAvailability
  relying : Bool

def RuntimeManager.view (m : RuntimeManager) : View where
  current := m.current
  admission := m.admission
  parentCancelled := m.parentCancelled
  prepared := m.maintenancePrepared
  maintenanceSlot := m.maintenanceSlot
  slots := m.slots
  started := m.workers.length
  lastObservation := m.lastObservation
  relying := m.relying

open RuntimeManager (view record)

namespace View

/-- An observation: a loss parks an active local slot. -/
def observe (availability : LocalAvailability) (v : View) : View :=
  { v with
    lastObservation := availability
    admission := if v.current.any Slot.local && availability ≠ .ready && v.admission = .active
      then .localUnavailable else v.admission }

def settle (admission : RuntimeAdmission) (v : View) : View :=
  { v with admission := admission, relying := false }

def park (old : Option Slot) (v : View) : View := if v.current = old then v.settle .paused else v

def activate (slot : Option Slot) (v : View) : View :=
  if v.current = slot ∧ v.admission = .transitioning then v.settle .active else v

def reactivate (slot : Slot) (v : View) : View :=
  if v.current = some slot then v.settle .active else v

def start (v : View) : View := { v with started := v.started + 1 }

theorem observe_admission {availability : LocalAvailability} {v : View}
    (h : v.admission ≠ .active) : (v.observe availability).admission = v.admission := by
  unfold observe
  simp [h]

theorem observe_transitioning {availability : LocalAvailability} {v : View}
    (h : v.admission = .transitioning) :
    (v.observe availability).admission = .transitioning := by
  rw [observe_admission (by rw [h]; nofun)]
  exact h

end View

/-! ## The view of each step -/

section Steps

variable {m m' : RuntimeManager}

@[simp] theorem view_cancelHandle (handle : Option Nat) (m : RuntimeManager) :
    (m.cancelHandle handle).view = m.view := by
  cases handle with
  | none => rfl
  | some i => simp [RuntimeManager.cancelHandle, view]

@[simp] theorem view_cancelWorkers (slot : Option Slot) (m : RuntimeManager) :
    (m.cancelWorkers slot).view = m.view := by
  cases slot with
  | none => rfl
  | some s => simp [RuntimeManager.cancelWorkers]

theorem view_observe (availability : LocalAvailability) (m : RuntimeManager) :
    (m.observeLocalAvailability availability).view = m.view.observe availability := by
  unfold RuntimeManager.observeLocalAvailability View.observe
  cases hlocal : m.current.any Slot.local with
  | false => simp [view, record, hlocal]
  | true =>
    by_cases hready : availability = .ready
    · simp [view, record, hready]
    · by_cases hactive : m.admission = .active
      · simp only [Bool.true_and, decide_not, hready, decide_false, Bool.not_false, if_true, hactive,
          view_cancelHandle]
        simp [view, record, hlocal, hactive]
      · simp only [Bool.true_and, decide_not, hready, decide_false, Bool.not_false, if_true, hactive,
          if_false, view_cancelHandle]
        simp [view, record, hactive]

theorem view_park (old : Option Slot) (m : RuntimeManager) :
    (m.parkAfterFailedDrain old).view = m.view.park old := by
  unfold RuntimeManager.parkAfterFailedDrain View.park
  rw [apply_ite view, view_cancelWorkers]
  rfl

theorem view_activate (slot : Option Slot) (m : RuntimeManager) :
    (m.activate slot).view = m.view.activate slot := by
  unfold RuntimeManager.activate View.activate
  rw [apply_ite view]
  rfl

theorem view_reactivate (slot : Slot) (m : RuntimeManager) :
    (m.reactivate slot).view = m.view.reactivate slot := by
  unfold RuntimeManager.reactivate View.reactivate
  rw [apply_ite view]
  rfl

theorem view_startWorker (kind : WorkerKind) (slot : Slot) (m : RuntimeManager) :
    (m.startWorker kind slot).view = m.view.start := by
  simp [RuntimeManager.startWorker, view, View.start]

theorem view_startLifecycle (slot : Slot) (m : RuntimeManager) :
    (m.startLifecycle slot).view = m.view ∨ (m.startLifecycle slot).view = m.view.start := by
  unfold RuntimeManager.startLifecycle
  split_ifs
  · exact .inr (view_startWorker .catalog slot m)
  · exact .inl rfl

theorem view_startLocalMonitor (slot : Slot) (m : RuntimeManager) :
    (m.startLocalMonitor slot).view = m.view.start :=
  view_startWorker .monitor slot m

/-- **Everybody else** only observes. -/
theorem Elsewhere.view (h : Elsewhere m m') : m'.view = m.view ∨
    ∃ availability, m' = m.observeLocalAvailability availability := by
  cases h with
  | choose r slot _ _ _ => exact .inl rfl
  | enter r slot _ _ => exact .inl rfl
  | proceed r slot _ _ _ => exact .inl rfl
  | retry r slot _ _ => exact .inl rfl
  | track r slot _ => exact .inl rfl
  | leave r => exact .inl rfl
  | observe availability => exact .inr ⟨availability, rfl⟩
  | monitor i w availability _ _ _ =>
    unfold RuntimeManager.observeLocalAvailabilityForSlot
    split_ifs
    · exact .inl rfl
    · exact .inr ⟨availability, rfl⟩
  | finish i => exact .inl (by simp [view])
  | cancel i => exact .inl (view_cancelHandle (some i) m)

end Steps

/-! ## Assertions about the view -/

/-- The own steps are in `D`, as far as the view shows. -/
abbrev Moves (D : View → View → Prop) (m m' : RuntimeManager) : Prop := D m.view m'.view

/-- An assertion about the view. -/
abbrev Shown (P : View → Prop) (m : RuntimeManager) : Prop := P m.view

section Stability

variable {env : Env RuntimeManager Query Query.Answer} {P : View → Prop}

/-- **Everybody else only observes**: an assertion is stable if every observation they may make, seen
    from where it holds, keeps it. -/
theorem stable_of_observations {other : RuntimeManager → RuntimeManager → Prop}
    (may : View → LocalAvailability → Prop)
    (hother : ∀ m m', other m m' → m'.view = m.view ∨
      ∃ availability, may m.view availability ∧ m' = m.observeLocalAvailability availability)
    (hobserve : ∀ v availability, P v → may v availability → P (v.observe availability)) :
    (machineFor env other).Stable (Shown P) := by
  intro m m' hm hstep
  rcases hother m m' hstep with hsame | ⟨availability, hmay, rfl⟩
  · show P m'.view
    rw [hsame]
    exact hm
  · show P (m.observeLocalAvailability availability).view
    rw [view_observe]
    exact hobserve _ _ hm hmay

theorem stable_elsewhere (hobserve : ∀ v availability, P v → P (v.observe availability)) :
    (machineFor env Elsewhere).Stable (Shown P) := by
  refine stable_of_observations (fun _ _ => True) (fun m m' h => ?_) fun v a hv _ => hobserve v a hv
  rcases h.view with hsame | ⟨availability, rfl⟩
  · exact .inl hsame
  · exact .inr ⟨availability, trivial, rfl⟩

end Stability

end OpenCodexRelay.Proxy
