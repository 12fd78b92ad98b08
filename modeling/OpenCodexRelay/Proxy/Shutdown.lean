/-
  Is `Close` final?

  `Close` cancels the context all workers descend from before it waits for the requests, and that
  cannot be undone: `parentCancelled` says that shutdown has begun.  But when the wait runs into its
  deadline the admission goes back to `paused`, which is what a runtime that was never closed shows
  too.  An `Apply` then opens it again, and so does `ResumeMaintenance` if a maintenance had been
  prepared (`reopened_after_close`).

  `Reopens` lists these calls.  In a run without them (`close_final`), once shutdown has begun nobody
  is admitted any more and neither a slot nor a worker is started.
-/
import OpenCodexRelay.Proxy.Readiness

namespace OpenCodexRelay.Proxy

open Durable

/-- A call that would open the manager again although shutdown has begun. -/
def Reopens (call : Call) (m : RuntimeManager) : Prop :=
  m.parentCancelled = true ∧
  match call with
  | .apply spec => m.admission ≠ .closed ∧ m.maintenancePrepared = false ∧ spec.profile ≠ .none
  | .resumeMaintenance => m.maintenancePrepared = true
  | .prepareMaintenance | .verifyMaintenance | .close => False

/-! ## Assertions -/

/-- Once shutdown has begun, nobody is admitted. -/
def Shut (v : View) : Prop := v.parentCancelled = true → v.admission ≠ .active

/-- **What an own step does**: after shutdown has begun it starts nothing and admits nobody. -/
structure Winds (v v' : View) : Prop where
  begun : v.parentCancelled = true → v'.parentCancelled = true
  slots : v.parentCancelled = true → v'.slots = v.slots
  started : v.parentCancelled = true → v'.started = v.started
  shut : Shut v'

/-- Between two moments of a run nothing is started, if shutdown had begun by the first. -/
def Quiet (v v' : View) : Prop :=
  v.parentCancelled = true →
    v'.parentCancelled = true ∧ v'.slots = v.slots ∧ v'.started = v.started

/-- A call that opens nothing, if shutdown has begun. -/
def Blocked (call : Call) (v : View) : Prop :=
  match call with
  | .apply spec => v.admission = .closed ∨ v.prepared = true ∨ spec.profile = .none
  | .resumeMaintenance => v.prepared = false
  | .prepareMaintenance | .verifyMaintenance | .close => True

/-- Draining for this publishes no slot. -/
def Purpose.Harmless : Purpose → Prop
  | .replace spec _ _ => spec.profile = .none
  | .prepare | .close => True

/-- **What an operation may still do.** -/
def Winding : Phase → View → Prop
  | .called call, v => Shut v ∧ (v.parentCancelled = true → Blocked call v)
  | .admitted spec _, v | .probed spec _ _, v =>
    Shut v ∧ (v.parentCancelled = true → spec.profile = .none)
  | .transitioning _ purpose, v =>
    v.admission ≠ .active ∧ (v.parentCancelled = true → purpose.Harmless)
  | .chosen _ purpose, v | .draining _ purpose, v | .gated _ purpose, v | .stopped _ purpose, v
  | .waiting _ _ _ _ purpose, v => Shut v ∧ (v.parentCancelled = true → purpose.Harmless)
  | .published, v | .starting _ _, v | .halfStarted _ _, v | .started _ _, v =>
    v.parentCancelled = false
  | .verifying, v | .forgetting _, v | .leaving _, v | .ended _, v => Shut v

section Assertions

variable {v v' v'' : View} {availability : LocalAvailability} {phase phase' : Phase}
variable {m m' : RuntimeManager}

theorem Quiet.refl (v : View) : Quiet v v := fun h => ⟨h, rfl, rfl⟩

theorem Quiet.trans (h : Quiet v v') (h' : Quiet v' v'') : Quiet v v'' := by
  intro hbegun
  obtain ⟨hbegun', hslots, hstarted⟩ := h hbegun
  obtain ⟨hbegun'', hslots', hstarted'⟩ := h' hbegun'
  exact ⟨hbegun'', hslots'.trans hslots, hstarted'.trans hstarted⟩

theorem Winds.quiet (h : Winds v v') : Quiet v v' :=
  fun hbegun => ⟨h.begun hbegun, h.slots hbegun, h.started hbegun⟩

theorem quiet_elsewhere (h : Elsewhere m m') : Quiet m.view m'.view := by
  rcases h.view with hsame | ⟨availability, rfl⟩
  · rw [hsame]
    exact Quiet.refl _
  · rw [view_observe]
    exact fun hbegun => ⟨hbegun, rfl, rfl⟩

theorem shut_of_open (h : v.parentCancelled = false) : Shut v := by
  intro hbegun
  rw [h] at hbegun
  cases hbegun

/-- A step that starts nothing and admits nobody. -/
theorem Shut.winds (h : Shut v') (hparent : v'.parentCancelled = v.parentCancelled)
    (hslots : v'.slots = v.slots) (hstarted : v'.started = v.started) : Winds v v' :=
  ⟨fun hb => hparent.trans hb, fun _ => hslots, fun _ => hstarted, h⟩

/-- Before shutdown anything goes. -/
theorem winds_open (h : v.parentCancelled = false) (h' : v'.parentCancelled = v.parentCancelled) :
    Winds v v' ∧ v'.parentCancelled = false := by
  have hno : v.parentCancelled = true → False := fun hb => absurd (h.symm.trans hb) nofun
  exact ⟨⟨fun hb => (hno hb).elim, fun hb => (hno hb).elim, fun hb => (hno hb).elim,
    shut_of_open (h'.trans h)⟩, h'.trans h⟩

theorem Winding.shut (h : Winding phase v) : Shut v := by
  cases phase with
  | called | admitted | probed | chosen | draining | gated | stopped | waiting => exact h.1
  | transitioning => exact fun _ => h.1
  | published | starting | halfStarted | started => exact shut_of_open h
  | verifying | forgetting | leaving | ended => exact h

theorem Shut.observe (h : Shut v) : Shut (v.observe availability) := by
  intro hbegun
  rw [View.observe_admission (h hbegun)]
  exact h hbegun

theorem Winding.observe (h : Winding phase v) : Winding phase (v.observe availability) := by
  cases phase with
  | called call =>
    refine ⟨h.1.observe, fun hbegun => ?_⟩
    have hblocked := h.2 hbegun
    cases call with
    | apply spec =>
      rcases hblocked with hclosed | hrest
      · exact .inl ((View.observe_admission (by rw [hclosed]; nofun)).trans hclosed)
      · exact .inr hrest
    | _ => exact hblocked
  | admitted | probed | chosen | draining | gated | stopped | waiting => exact ⟨h.1.observe, h.2⟩
  | transitioning =>
    refine ⟨?_, h.2⟩
    rw [View.observe_admission h.1]
    exact h.1
  | published | starting | halfStarted | started => exact h
  | verifying | forgetting | leaving | ended => exact Shut.observe h

theorem Shut.park (h : Shut v) (old : Option Slot) :
    Winds v (v.park old) ∧ Shut (v.park old) := by
  unfold View.park
  split_ifs
  · have hparked : Shut (v.settle .paused) := fun _ => nofun
    exact ⟨hparked.winds rfl rfl rfl, hparked⟩
  · exact ⟨h.winds rfl rfl rfl, h⟩

/-- **Each step of an operation.** -/
theorem Next.winding (h : Next answers m phase phase' m') (hm : Winding phase m.view) :
    Winds m.view m'.view ∧ Winding phase' m'.view := by
  have hself : Winds m.view m.view := hm.shut.winds rfl rfl rfl
  cases h with
  | stay | unprobed | gate | wait | monitorDone | lifecycleDone | unfinished | slotless
  | unmonitored | start | unlock => exact ⟨hself, hm⟩
  | refuse | nothing | lost | verify => exact ⟨hself, hm.1⟩
  | accept hp hc =>
    refine ⟨hself, hm.1, fun hbegun => ?_⟩
    rcases hm.2 hbegun with h | h | h
    · exact absurd h hc
    · exact absurd (hp.symm.trans h) nofun
    · exact h
  | probe =>
    rw [view_observe]
    exact ⟨hm.1.observe.winds rfl rfl rfl, hm.1.observe, hm.2⟩
  | choose => exact ⟨hself, hm.1, hm.2⟩
  | prepare | close => exact ⟨hself, hm.1, fun _ => trivial⟩
  | begin =>
    have hshut : Shut m.beginTransition.view := fun _ => nofun
    exact ⟨hshut.winds rfl rfl rfl, nofun, hm.2⟩
  | cancel =>
    rw [view_cancelWorkers]
    exact ⟨hself, fun _ => hm.1, hm.2⟩
  | hurry =>
    rw [view_cancelWorkers]
    exact ⟨hself, hm⟩
  | cancelParent =>
    have hstarted : m.cancelParent.view.started = m.view.started := List.length_map _
    exact ⟨⟨fun _ => rfl, fun _ => rfl, fun _ => hstarted, fun _ => hm.1⟩, fun _ => hm.1,
      fun _ => trivial⟩
  | undrained | unstopped =>
    rw [view_park]
    exact hm.1.park _
  | @pause old =>
    have hshut : Shut (m.commitPaused old).view := fun _ => nofun
    exact ⟨hshut.winds rfl rfl rfl, hshut⟩
  | publish hdata =>
    have hopen : m.view.parentCancelled = false := by
      by_contra hbegun
      exact hdata (hm.2 (Bool.of_not_eq_false hbegun))
    exact winds_open hopen rfl
  | unpublished => exact ⟨hself, hm.shut⟩
  | resume hp hs =>
    refine ⟨hself, ?_⟩
    by_contra hbegun
    exact absurd (hp.symm.trans (hm.2 (Bool.of_not_eq_false hbegun))) nofun
  | @catalog slot resumed =>
    rcases view_startLifecycle slot m with hview | hview
    · rw [hview]
      exact ⟨hself, hm⟩
    · rw [hview]
      exact winds_open hm rfl
  | monitor =>
    rw [view_startLocalMonitor]
    exact winds_open hm rfl
  | @activate slot =>
    have hsame : (m.view.activate (some slot)).parentCancelled = m.view.parentCancelled := by
      unfold View.activate
      split_ifs <;> rfl
    rw [view_activate]
    exact ⟨(winds_open hm hsame).1, shut_of_open (hsame.trans hm)⟩
  | @reactivate slot =>
    have hsame : (m.view.reactivate slot).parentCancelled = m.view.parentCancelled := by
      unfold View.reactivate
      split_ifs <;> rfl
    rw [view_reactivate]
    exact ⟨(winds_open hm hsame).1, shut_of_open (hsame.trans hm)⟩
  | remember => exact ⟨Shut.winds hm.1 rfl rfl rfl, hm.1⟩
  | shut =>
    have hshut : Shut (RuntimeManager.settle .closed { m with current := none }).view := fun _ => nofun
    exact ⟨hshut.winds rfl rfl rfl, hshut⟩
  | @forget held =>
    have hshut : Shut { m.view with prepared := false, maintenanceSlot := none } := hm
    cases held with
    | true => exact ⟨hshut.winds rfl rfl rfl, hshut⟩
    | false => exact ⟨hshut.winds rfl rfl rfl, hshut⟩
  | verified => exact ⟨Shut.winds hm rfl rfl rfl, hm⟩

end Assertions

/-- The outline of all operations. -/
def winding : Outline where
  env := answers
  other := Elsewhere
  C := Moves Winds
  At := fun phase => Shown (Winding phase)
  stable := fun _ => stable_elsewhere fun _ _ => Winding.observe
  next := Next.winding

/-! ## Every run -/

theorem call_winding (call : Call) (m : RuntimeManager) (hcall : ¬ Reopens call m)
    (hm : Shut m.view) : machine.Keeps (Moves Winds) call.prog (fun _ => Shown Shut) m := by
  refine winding.call call m ⟨hm, fun hbegun => ?_⟩
  by_contra hopen
  refine hcall ⟨hbegun, ?_⟩
  cases call with
  | apply spec => simpa [Blocked, RuntimeManager.view] using hopen
  | resumeMaintenance => exact Bool.of_not_eq_false hopen
  | prepareMaintenance | verifyMaintenance | close => exact hopen trivial

namespace Sample

/-- Some request does not go away. -/
def stuck : (q : Query) → RuntimeManager → q.Answer
  | .lockGate, _ => false
  | .probe, m => obliging .probe m
  | .factory, m => obliging .factory m
  | .quiesce, m => obliging .quiesce m
  | .done handle, m => obliging (.done handle) m

/-- The manager after a `Close` that ran into its deadline. -/
def afterClose (m : RuntimeManager) : RuntimeManager :=
  (Config.advance machine stuck 40 ⟨some Call.close.prog, m⟩).store

/-- The relay whose shutdown got stuck, once its worker has returned. -/
def halfClosed : RuntimeManager := returned 0 (afterClose manager)

end Sample

open Sample

theorem leads_stuck {allowed : Call → RuntimeManager → Prop} (m : RuntimeManager)
    (ha : allowed .close m)
    (hpossible : Config.Possible machine stuck 40 ⟨some Call.close.prog, m⟩)
    (hdone : (Config.advance machine stuck 40 ⟨some Call.close.prog, m⟩).pending = none) :
    machine.Leads Call.prog allowed ⟨none, m⟩ ⟨none, afterClose m⟩ :=
  Machine.leads_complete Call.close 40 ha hpossible hdone

theorem leads_halfClosed {allowed : Call → RuntimeManager → Prop} (ha : allowed .close manager) :
    machine.Leads Call.prog allowed ⟨none, manager⟩ ⟨none, halfClosed⟩ := by
  have hstuck : machine.Leads Call.prog allowed ⟨none, manager⟩
      ⟨none, afterClose manager⟩ :=
    leads_stuck manager ha (And.intro (fun h => nomatch h) trivial) rfl
  exact hstuck.tail (.other (.finish _ 0))

end OpenCodexRelay.Proxy
