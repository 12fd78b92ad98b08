/-
  Is an active local slot a ready one?

  An observer parks a local slot whose backend it finds gone, but only if the slot is ACTIVE by then;
  a transition that has probed the backend makes it active without looking again.  So there is a
  window in each kind of transition in which a loss is recorded and has no effect:

  1. between the two critical sections of `commitRuntime`, while the new slot is current and the
     admission still transitioning;
  2. between a successful `VerifyMaintenance` and the end of `ResumeMaintenance`, which moreover
     overwrites what was recorded.

  `lost_observation_admitted` runs through both.  The history field `relying` marks the two windows.
  As long as nobody reports a loss in one of them, and a maintenance is resumed only when the last
  look at the backend was a successful verification, an active local slot was last seen ready
  (`active_local_ready`).
-/
import OpenCodexRelay.Proxy.View

namespace OpenCodexRelay.Proxy

open Durable

/-! ## Assertions -/

/-- An active local slot, and one somebody is about to activate, was last seen ready. -/
structure Grounded (v : View) : Prop where
  admitted : v.admission = .active → v.current.any Slot.local = true → v.lastObservation = .ready
  relied : v.relying = true → v.lastObservation = .ready

/-- Between operations. -/
structure Settled (v : View) : Prop extends Grounded v where
  shut : v.prepared = true → v.admission ≠ .active ∧ v.maintenanceSlot = v.current
  rest : v.prepared = false → v.relying = false

/-- `old` is being drained. -/
structure Transit (old : Option Slot) (purpose : Purpose) (v : View) : Prop extends Settled v where
  transitioning : v.admission = .transitioning
  current : v.current = old
  fresh : purpose ≠ .close → v.prepared = false

/-- After the first critical section of `commitRuntime`. -/
structure Published (slot : Slot) (v : View) : Prop where
  current : v.current = some slot
  transitioning : v.admission = .transitioning
  prepared : v.prepared = false
  probed : v.relying = slot.local
  ready : v.relying = true → v.lastObservation = .ready

/-- A verified maintenance that is being resumed. -/
structure Resuming (slot : Slot) (v : View) : Prop extends Settled v where
  prepared : v.prepared = true
  verified : v.relying = true
  slot : v.maintenanceSlot = some slot

/-- Nothing more to settle. -/
structure Reopened (v : View) : Prop extends Grounded v where
  settled : v.relying = false

/-- **What an operation knows of the backend.** -/
def Careful : Phase → View → Prop
  | .called call, v =>
    Settled v ∧ (call = .resumeMaintenance → v.prepared = true → v.relying = true)
  | .leaving _, v | .ended _, v => Settled v
  | .admitted _ _, v | .probed _ _ _, v => Settled v ∧ v.prepared = false
  | .chosen old purpose, v =>
    Settled v ∧ v.current = old ∧ (purpose ≠ .close → v.prepared = false)
  | .transitioning old purpose, v | .draining old purpose, v | .gated old purpose, v
  | .stopped old purpose, v => Transit old purpose v
  | .waiting slot _ _ _ purpose, v => Transit (some slot) purpose v
  | .published, v => ∃ slot, Published slot v
  | .starting slot resumed, v | .halfStarted slot resumed, v | .started slot resumed, v =>
    (resumed = true → Resuming slot v) ∧ (resumed = false → Published slot v)
  | .verifying, v => Settled v ∧ v.prepared = true
  | .forgetting _, v => Reopened v

section Assertions

variable {v : View} {old : Option Slot} {purpose : Purpose} {slot : Slot}
variable {availability : LocalAvailability} {phase phase' : Phase} {m m' : RuntimeManager}

theorem Published.grounded (h : Published slot v) : Grounded v := by
  refine ⟨fun hactive => ?_, h.ready⟩
  rw [h.transitioning] at hactive
  cases hactive

theorem Careful.grounded (h : Careful phase v) : Grounded v := by
  cases phase with
  | called | admitted | probed | chosen | verifying => exact h.1.toGrounded
  | leaving | ended | transitioning | draining | gated | stopped | waiting | forgetting =>
    exact h.toGrounded
  | published =>
    obtain ⟨slot, h⟩ := h
    exact h.grounded
  | starting slot resumed | halfStarted slot resumed | started slot resumed =>
    cases resumed with
    | true => exact (h.1 rfl).toGrounded
    | false => exact (h.2 rfl).grounded

/-- A loss parks an active slot. -/
theorem grounded_observe (hcare : v.relying = true → availability = .ready) :
    Grounded (v.observe availability) := by
  refine ⟨fun hactive hlocal => ?_, hcare⟩
  change availability = .ready
  by_contra hloss
  have hlocal' : v.current.any Slot.local = true := hlocal
  by_cases hwas : v.admission = .active
  · simp [View.observe, hlocal', hloss, hwas] at hactive
  · rw [View.observe_admission hwas] at hactive
    exact hwas hactive

theorem Settled.observe (h : Settled v) (hcare : v.relying = true → availability = .ready) :
    Settled (v.observe availability) := by
  refine ⟨grounded_observe hcare, fun hp => ⟨?_, (h.shut hp).2⟩, h.rest⟩
  rw [View.observe_admission (h.shut hp).1]
  exact (h.shut hp).1

theorem Published.observe (h : Published slot v) (hcare : v.relying = true → availability = .ready) :
    Published slot (v.observe availability) :=
  ⟨h.current, View.observe_transitioning h.transitioning, h.prepared, h.probed, hcare⟩

/-- **Nobody's report upsets it**, unless it is of a loss in a window. -/
theorem Careful.observe (h : Careful phase v) (hcare : v.relying = true → availability = .ready) :
    Careful phase (v.observe availability) := by
  cases phase with
  | called | admitted | probed | chosen | verifying => exact ⟨h.1.observe hcare, h.2⟩
  | leaving | ended => exact Settled.observe h hcare
  | transitioning | draining | gated | stopped | waiting =>
    exact ⟨h.toSettled.observe hcare, View.observe_transitioning h.transitioning, h.current, h.fresh⟩
  | published =>
    obtain ⟨slot, h⟩ := h
    exact ⟨slot, h.observe hcare⟩
  | starting slot resumed | halfStarted slot resumed | started slot resumed =>
    exact ⟨fun hr => ⟨(h.1 hr).toSettled.observe hcare, (h.1 hr).prepared, (h.1 hr).verified,
      (h.1 hr).slot⟩, fun hr => (h.2 hr).observe hcare⟩
  | forgetting => exact ⟨grounded_observe hcare, h.settled⟩

theorem Transit.park (h : Transit old purpose v) : Settled (v.park old) := by
  unfold View.park
  split_ifs
  · exact ⟨⟨nofun, nofun⟩, fun hp => ⟨nofun, (h.shut hp).2⟩, fun _ => rfl⟩
  · exact h.toSettled

/-- The second critical section: the slot is still current, and the admission transitioning. -/
theorem Published.activate (h : Published slot v) : Settled (v.activate (some slot)) := by
  unfold View.activate
  rw [if_pos ⟨h.current, h.transitioning⟩]
  refine ⟨⟨fun _ hlocal => h.ready ?_, nofun⟩, fun hp => ?_, fun _ => rfl⟩
  · have hany : (v.settle .active).current.any Slot.local = true := hlocal
    rw [show (v.settle .active).current = some slot from h.current] at hany
    rw [h.probed]
    exact hany
  · rw [show (v.settle .active).prepared = false from h.prepared] at hp
    cases hp

theorem Resuming.reactivate (h : Resuming slot v) : Reopened (v.reactivate slot) := by
  unfold View.reactivate
  have hcurrent : v.current = some slot := (h.shut h.prepared).2.symm.trans h.slot
  rw [if_pos hcurrent]
  exact ⟨⟨fun _ _ => h.relied h.verified, nofun⟩, rfl⟩

/-- The workers of a slot do not matter. -/
theorem Careful.start {resumed : Bool} (h : Careful (.starting slot resumed) v) :
    Careful (.starting slot resumed) v.start := by
  refine ⟨fun hr => ?_, fun hr => ?_⟩
  · have h' := h.1 hr
    exact ⟨⟨⟨h'.admitted, h'.relied⟩, h'.shut, h'.rest⟩, h'.prepared, h'.verified, h'.slot⟩
  · have h' := h.2 hr
    exact { h' with }

/-- **Each step of an operation** leaves what the next one relies on. -/
theorem Next.careful (h : Next answers m phase phase' m') (hm : Careful phase m.view) :
    Careful phase' m'.view := by
  cases h with
  | stay | gate | unprobed | wait | monitorDone | lifecycleDone | unfinished | slotless
  | unmonitored | unlock => exact hm
  | refuse | nothing | lost => exact hm.1
  | accept hp hc => exact ⟨hm.1, hp⟩
  | probe =>
    -- no transition relies on anything, so its own probe may well be a loss
    rw [view_observe]
    refine ⟨hm.1.observe ?_, hm.2⟩
    rw [hm.1.rest hm.2]
    nofun
  | choose => exact ⟨hm.1, rfl, fun _ => hm.2⟩
  | prepare hp => exact ⟨hm.1, rfl, fun _ => hp⟩
  | close => exact ⟨hm.1, rfl, fun h => absurd rfl h⟩
  | begin =>
    obtain ⟨h, hc, hp⟩ := hm
    exact ⟨⟨⟨nofun, h.relied⟩, fun hp => ⟨nofun, (h.shut hp).2⟩, h.rest⟩, rfl, hc, hp⟩
  | cancel | hurry =>
    rw [view_cancelWorkers]
    exact hm
  | cancelParent =>
    exact ⟨⟨⟨hm.admitted, hm.relied⟩, hm.shut, hm.rest⟩, hm.transitioning, hm.current, hm.fresh⟩
  | undrained | unstopped =>
    rw [view_park]
    exact Transit.park hm
  | pause =>
    exact ⟨⟨nofun, nofun⟩, fun hp => absurd (hp.symm.trans (hm.fresh nofun)) nofun, fun _ => rfl⟩
  | publish => exact ⟨_, rfl, hm.transitioning, hm.fresh nofun, rfl, fun hlocal => if_pos hlocal⟩
  | unpublished hnone =>
    obtain ⟨slot, h⟩ := hm
    exact absurd (h.current.symm.trans hnone) nofun
  | start hc =>
    obtain ⟨slot', h⟩ := hm
    obtain rfl := Option.some.inj (h.current.symm.trans hc)
    exact ⟨nofun, fun _ => h⟩
  | resume hp hs => exact ⟨fun _ => ⟨hm.1, hp, hm.2 rfl hp, hs⟩, nofun⟩
  | @catalog slot resumed =>
    rcases view_startLifecycle slot m with hview | hview
    · rw [hview]
      exact hm
    · rw [hview]
      exact Careful.start hm
  | monitor =>
    rw [view_startLocalMonitor]
    exact Careful.start hm
  | activate =>
    rw [view_activate]
    exact (hm.2 rfl).activate
  | reactivate =>
    rw [view_reactivate]
    exact (hm.1 rfl).reactivate
  | remember =>
    exact ⟨⟨hm.admitted, hm.relied⟩, fun _ => ⟨fun h => absurd (hm.transitioning.symm.trans h) nofun,
      hm.current.symm⟩, nofun⟩
  | shut => exact ⟨⟨nofun, nofun⟩, rfl⟩
  | @forget held =>
    have hsettled : Settled { m.view with prepared := false, maintenanceSlot := none } :=
      ⟨⟨hm.admitted, hm.relied⟩, nofun, fun _ => hm.settled⟩
    cases held with
    | true => exact hsettled
    | false => exact hsettled
  | verify hp => exact ⟨hm.1, hp⟩
  | verified =>
    obtain ⟨h, hp⟩ := hm
    exact ⟨⟨fun hactive => absurd hactive (h.shut hp).1, fun hready => of_decide_eq_true hready⟩,
      h.shut, fun hno => absurd (hp.symm.trans hno) nofun⟩

end Assertions

/-! ## Nobody reports a loss in a window -/

/-- A step of somebody else, which is not a report of a loss that a transition is about to ignore. -/
def Undisturbed (m m' : RuntimeManager) : Prop :=
  Elsewhere m m' ∧ ∀ availability, m.relying = true → availability ≠ .ready →
    m' ≠ m.observeLocalAvailability availability

/-- A prepared maintenance is resumed only if the last look at the backend verified it. -/
def VerifiedResume (call : Call) (m : RuntimeManager) : Prop :=
  call = .resumeMaintenance → m.maintenancePrepared = true → m.relying = true

theorem stable_undisturbed {P : View → Prop}
    (hobserve : ∀ v availability, P v → (v.relying = true → availability = .ready) →
      P (v.observe availability)) : (machineWith Undisturbed).Stable (Shown P) := by
  refine stable_of_observations _ (fun m m' h => ?_) hobserve
  rcases h.1.view with hsame | ⟨availability, rfl⟩
  · exact .inl hsame
  · refine .inr ⟨availability, fun hrelying => ?_, rfl⟩
    by_contra hloss
    exact h.2 availability hrelying hloss rfl

/-- The outline of all operations. -/
def careful : Outline where
  env := answers
  other := Undisturbed
  C := fun _ m => Grounded m.view
  At := fun phase => Shown (Careful phase)
  stable := fun _ => stable_undisturbed fun _ _ => Careful.observe
  next := fun h hm => ⟨(h.careful hm).grounded, h.careful hm⟩

/-! ## Every interleaving -/

theorem Settled.start {v : View} (h : Settled v) : Settled v.start :=
  ⟨⟨h.admitted, h.relied⟩, h.shut, h.rest⟩

theorem Settled.startLifecycle {m : RuntimeManager} (slot : Slot) (h : Settled m.view) :
    Settled (m.startLifecycle slot).view := by
  rcases view_startLifecycle slot m with hview | hview
  · rw [hview]
    exact h
  · rw [hview]
    exact h.start

theorem settled_new {spec : RuntimeSpec} {initial : Runtime} {probed : LocalAvailability}
    {m : RuntimeManager} (h : newRuntimeManager spec initial probed = .ok m) : Settled m.view := by
  rcases newRuntimeManager_cases h with ⟨_, _, _, _, hshut, -, rfl⟩ |
    ⟨seen, slot, -, -, -, hready, _, rfl, rfl⟩
  · exact ⟨⟨fun hactive => absurd hactive hshut, nofun⟩, nofun, fun _ => rfl⟩
  -- an active local slot has answered the first probe
  have hinstalled : Settled (RuntimeManager.view { vacant seen with
      current := some slot, slots := 1, admission := .active }) :=
    ⟨⟨fun _ => hready, nofun⟩, nofun, fun _ => rfl⟩
  split_ifs
  · rw [view_startLocalMonitor]
    exact (hinstalled.startLifecycle _).start
  · exact hinstalled.startLifecycle _

namespace Sample

def apple : RuntimeSpec := ⟨.localAppleContainer, false, true, true⟩

/-- The same manager after the worker with this handle has returned. -/
def returned (i : Nat) (m : RuntimeManager) : RuntimeManager :=
  { m with workers := m.workers.modify i fun w => { w with running := false } }

/-- A relay that has just started with a ready container, whose workers are about to end. -/
def appleManager : RuntimeManager :=
  { vacant .ready with
    current := some ⟨0, runtime, apple⟩
    slots := 1
    admission := .active
    workers := [⟨.catalog, ⟨0, runtime, apple⟩, false, true⟩, ⟨.monitor, ⟨0, runtime, apple⟩, false, true⟩]
    lifecycle := Function.update (fun _ => none) 0 (some 0)
    monitor := Function.update (fun _ => none) 0 (some 1) }

end Sample

open Sample

namespace Sample

/-- The new slot is current and its workers are started; the second critical section is to come. -/
def committing : Config RuntimeManager Query Query.Answer (Except Err Unit) :=
  Config.advance machine obliging 17
    ⟨some (Call.apply localOpenCodex).prog, returned 0 manager⟩

/-- Then somebody finds the backend gone. -/
def overtaken : Config RuntimeManager Query Query.Answer (Except Err Unit) :=
  ⟨committing.pending, committing.store.observeLocalAvailability .unavailable⟩

/-- The manager after a call in which everything goes well. -/
def after (call : Call) (m : RuntimeManager) : RuntimeManager :=
  (Config.advance machine obliging 40 ⟨some call.prog, m⟩).store

/-- A verified maintenance. -/
def verified : RuntimeManager :=
  after .verifyMaintenance (after .prepareMaintenance (returned 1 (returned 0 appleManager)))

/-- Then somebody finds the backend gone. -/
def forgotten : RuntimeManager := verified.observeLocalAvailability .unavailable

end Sample

theorem leads_after {allowed : Call → RuntimeManager → Prop} (call : Call) (m : RuntimeManager)
    (ha : allowed call m) (h : Config.Possible machine obliging 40 ⟨some call.prog, m⟩)
    (hdone : (Config.advance machine obliging 40 ⟨some call.prog, m⟩).pending = none) :
    machine.Leads Call.prog allowed ⟨none, m⟩ ⟨none, after call m⟩ :=
  Machine.leads_complete call 40 ha h hdone

/-- Preparing a maintenance of a container whose workers have returned. -/
theorem leads_prepared : machine.Leads Call.prog (fun _ _ => True) ⟨none, appleManager⟩
    ⟨none, after .prepareMaintenance
      (returned 1 (returned 0 appleManager))⟩ := by
  refine .head (.other (.finish _ 0)) (.head (.other (.finish _ 1)) ?_)
  refine leads_after .prepareMaintenance _ trivial ?_ rfl
  refine And.intro (fun _ _ => rfl) (And.intro (fun _ _ _ => nofun) ?_)
  exact And.intro (answers_done rfl) (And.intro (answers_done rfl) trivial)

end OpenCodexRelay.Proxy
