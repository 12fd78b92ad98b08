/-
  Where an operation of the runtime manager is.

  The five operations share most of their steps: three of them pause the manager and drain its slot,
  two start a slot.  Whatever is to hold in EVERY interleaving is therefore said once for each place
  an operation can be at, and not once for each operation.

  1. `Phase`: the places, each with what the operation knows by then.
  2. `Next`: what it may do to the manager on the way from one place to the next, with what it has
     learnt from the answer or from its look at the manager.
  3. `Outline`: an assertion for each place which the others cannot invalidate and which every `Next`
     carries along.  `Outline.call` walks through the programs, the only time this is done: the
     assertions of an outline hold wherever an operation is.
-/
import OpenCodexRelay.Proxy.RuntimeManager

namespace OpenCodexRelay.Proxy

open Durable

/-! ## The places -/

/-- What a slot is drained for. -/
inductive Purpose where
  | replace (spec : RuntimeSpec) (candidate : Runtime) (availability : LocalAvailability)
  | prepare
  | close

inductive Phase where
  /-- It has yet to look at the manager. -/
  | called (call : Call)
  /-- An `Apply` that was not refused; its probe is to come. -/
  | admitted (spec : RuntimeSpec) (candidate : Runtime)
  | probed (spec : RuntimeSpec) (candidate : Runtime) (availability : LocalAvailability)
  /-- It knows the slot to drain. -/
  | chosen (old : Option Slot) (purpose : Purpose)
  | transitioning (old : Option Slot) (purpose : Purpose)
  /-- The workers have been told to end. -/
  | draining (old : Option Slot) (purpose : Purpose)
  /-- It holds the gate. -/
  | gated (old : Option Slot) (purpose : Purpose)
  /-- It waits for the workers with these two handles, and whether the first has `ended`. -/
  | waiting (slot : Slot) (monitor lifecycle : Option Nat) (ended : Bool) (purpose : Purpose)
  /-- Neither a request nor a worker is left. -/
  | stopped (old : Option Slot) (purpose : Purpose)
  /-- Between the critical sections of `commitRuntime`. -/
  | published
  /-- The slot's workers are to be started, after an exchange or to resume a maintenance. -/
  | starting (slot : Slot) (resumed : Bool)
  | halfStarted (slot : Slot) (resumed : Bool)
  | started (slot : Slot) (resumed : Bool)
  | verifying
  /-- The maintenance is to be forgotten, with the gate held or not. -/
  | forgetting (held : Bool)
  /-- The gate is to be opened. -/
  | leaving (r : Except Err Unit)
  | ended (r : Except Err Unit)

open RuntimeManager in
/-- **What an operation may do.** -/
inductive Next (env : Env RuntimeManager Query Query.Answer) (m : RuntimeManager) :
    Phase → Phase → RuntimeManager → Prop where
  /-- An answer from which it learns nothing. -/
  | stay {phase} : Next env m phase phase m
  | refuse {call} (e) : Next env m (.called call) (.ended (.error e)) m
  | nothing {call} (h : ∀ spec, call ≠ .apply spec) :
      Next env m (.called call) (.ended (.ok ())) m
  | accept {spec candidate} (hp : m.maintenancePrepared = false) (hc : m.admission ≠ .closed) :
      Next env m (.called (.apply spec)) (.admitted spec candidate) m
  | probe {spec candidate availability} : Next env m (.admitted spec candidate)
      (.probed spec candidate availability) (m.observeLocalAvailability availability)
  | unprobed {spec candidate} : Next env m (.admitted spec candidate)
      (.probed spec candidate m.localAvailability) m
  | lost {spec candidate availability} (e) :
      Next env m (.probed spec candidate availability) (.ended (.error e)) m
  | choose {spec candidate availability} : Next env m (.probed spec candidate availability)
      (.chosen m.current (.replace spec candidate availability)) m
  | prepare (hp : m.maintenancePrepared = false) :
      Next env m (.called .prepareMaintenance) (.chosen m.current .prepare) m
  | close : Next env m (.called .close) (.chosen m.current .close) m
  | begin {old purpose} :
      Next env m (.chosen old purpose) (.transitioning old purpose) m.beginTransition
  | cancel {old purpose} (h : purpose ≠ .close) :
      Next env m (.transitioning old purpose) (.draining old purpose) (m.cancelWorkers old)
  | cancelParent {old} :
      Next env m (.transitioning old .close) (.draining old .close) m.cancelParent
  | undrained {old purpose} (e) :
      Next env m (.draining old purpose) (.ended (.error e)) (m.parkAfterFailedDrain old)
  | gate {old purpose} (h : env .lockGate m true) :
      Next env m (.draining old purpose) (.gated old purpose) (m.takeGate true)
  | hurry {slot purpose} : Next env m (.gated (some slot) purpose) (.gated (some slot) purpose)
      (m.cancelWorkers (some slot))
  | wait {slot purpose} : Next env m (.gated (some slot) purpose)
      (.waiting slot (m.monitor slot.id) (m.lifecycle slot.id) false purpose) m
  | monitorDone {slot monitor lifecycle purpose} (h : env (.done monitor) m true) :
      Next env m (.waiting slot monitor lifecycle false purpose)
        (.waiting slot monitor lifecycle true purpose) m
  | lifecycleDone {slot monitor lifecycle purpose} (h : env (.done lifecycle) m true) :
      Next env m (.waiting slot monitor lifecycle true purpose) (.stopped (some slot) purpose) m
  | unfinished {slot monitor lifecycle ended purpose} :
      Next env m (.waiting slot monitor lifecycle ended purpose) (.gated (some slot) purpose) m
  | slotless {purpose} : Next env m (.gated none purpose) (.stopped none purpose) m
  | unstopped {old purpose} (e) :
      Next env m (.gated old purpose) (.leaving (.error e)) (m.parkAfterFailedDrain old)
  | pause {old spec candidate availability} (h : spec.profile = .none) :
      Next env m (.stopped old (.replace spec candidate availability)) (.leaving (.ok ()))
        (m.commitPaused old)
  | publish {old spec candidate availability} (h : spec.profile ≠ .none) :
      Next env m (.stopped old (.replace spec candidate availability)) .published
        (m.publish candidate spec availability)
  | unpublished (h : m.current = none) : Next env m .published (.leaving (.ok ())) m
  | start {slot} (h : m.current = some slot) : Next env m .published (.starting slot false) m
  | resume {slot} (hp : m.maintenancePrepared = true) (hs : m.maintenanceSlot = some slot) :
      Next env m (.called .resumeMaintenance) (.starting slot true) m
  | catalog {slot resumed} :
      Next env m (.starting slot resumed) (.halfStarted slot resumed) (m.startLifecycle slot)
  | monitor {slot resumed} :
      Next env m (.halfStarted slot resumed) (.started slot resumed) (m.startLocalMonitor slot)
  | unmonitored {slot resumed} :
      Next env m (.halfStarted slot resumed) (.started slot resumed) m
  | activate {slot} :
      Next env m (.started slot false) (.leaving (.ok ())) (m.activate (some slot))
  | reactivate {slot} : Next env m (.started slot true) (.forgetting false) (m.reactivate slot)
  | remember {old} : Next env m (.stopped old .prepare) (.leaving (.ok ()))
      { m with maintenancePrepared := true, maintenanceSlot := old }
  | shut {old} : Next env m (.stopped old .close) (.forgetting true)
      (settle .closed { m with current := none })
  | forget {held} : Next env m (.forgetting held)
      (if held then .leaving (.ok ()) else .ended (.ok ()))
      { m with maintenancePrepared := false, maintenanceSlot := none }
  | verify (hp : m.maintenancePrepared = true) :
      Next env m (.called .verifyMaintenance) .verifying m
  | verified {availability} : Next env m .verifying
      (.ended (if availability ≠ .ready then .error (.localOpenCodexUnavailable availability) else .ok ()))
      (m.verified availability)
  | unlock {r} : Next env m (.leaving r) (.ended r) m.unlockGate

/-! ## Assertions for each place -/

/-- **A proof outline**: an assertion for each place, which the others keep and every step of an
    operation, being in `C`, carries along. -/
structure Outline where
  env : Env RuntimeManager Query Query.Answer
  other : RuntimeManager → RuntimeManager → Prop
  C : RuntimeManager → RuntimeManager → Prop
  At : Phase → RuntimeManager → Prop
  stable : ∀ phase, (machineFor env other).Stable (At phase)
  next : ∀ {m phase phase' m'}, Next env m phase phase' m' → At phase m → C m m' ∧ At phase' m'

theorem RuntimeSpec.normalized_eq {spec spec' : RuntimeSpec} (h : spec.normalized = .ok spec') :
    spec' = spec := by
  unfold normalized at h
  grind

/-- An error ends the operation. -/
def unlessFailed {α : Type} (t : α → Phase) : Except Err α → Phase
  | .ok a => t a
  | .error e => .ended (.error e)

namespace Outline

open RuntimeManager

variable (o : Outline) {α β : Type} {phase phase' : Phase} {p : Op α} {t : α → Phase}

/-- From the place the part `p` of an operation leads to the one its result says. -/
def Leads (phase : Phase) (p : Op α) (t : α → Phase) : Prop :=
  (machineFor o.env o.other).Triple o.C (o.At phase) p fun a => o.At (t a)

variable {o}

theorem bind {k : α → Op β} {u : β → Phase} (hp : o.Leads phase p t)
    (hk : ∀ a, o.Leads (t a) (k a) u) : o.Leads phase (p >>= k) u :=
  Machine.triple_bind hp hk

theorem ite {q : Op α} {c : Prop} [Decidable c] (hp : c → o.Leads phase p t)
    (hq : ¬ c → o.Leads phase q t) : o.Leads phase (if c then p else q) t :=
  Machine.triple_ite hp hq

theorem attempt {p : Op (Except Err α)} {k : α → Op (Except Err Unit)}
    (hp : o.Leads phase p (unlessFailed t)) (hk : ∀ a, o.Leads (t a) (k a) .ended) :
    o.Leads phase (Durable.attempt p k) .ended := by
  refine o.bind hp fun r => ?_
  cases r with
  | error e => exact Machine.triple_ret (o.stable (.ended (.error e))) fun _ hm => hm
  | ok a => exact hk a

theorem ret {a : α} : o.Leads (t a) (pure a) t :=
  Machine.triple_ret (o.stable (t a)) fun _ hm => hm

/-- The operation is further than the program shows. -/
theorem further (hnext : ∀ m, Next o.env m phase phase' m) (hp : o.Leads phase' p t) :
    o.Leads phase p t :=
  fun m hm => hp m (o.next (hnext m) hm).2

/-- A look at the manager. -/
theorem read {k : RuntimeManager → Op α}
    (hk : ∀ m, ∃ phase', Next o.env m phase phase' m ∧ o.Leads phase' (k m) t) :
    o.Leads phase (.read k) t := by
  refine Machine.triple_read (o.stable phase) fun m hm => ?_
  obtain ⟨phase', hnext, hp⟩ := hk m
  exact hp m (o.next hnext hm).2

theorem modify {f : RuntimeManager → RuntimeManager} (hnext : ∀ m, Next o.env m phase phase' (f m)) :
    o.Leads phase (Durable.modify f) (fun _ => phase') :=
  Machine.triple_modify (o.stable phase) (o.stable phase') fun m hm => o.next (hnext m) hm

theorem ask {q : Query} {t : q.Answer → Phase}
    (hnext : ∀ a m, o.env q m a → Next o.env m phase (t a) (answered q a m)) :
    o.Leads phase (Durable.ask q : Op q.Answer) t :=
  Machine.triple_ask (o.stable phase) (fun a => o.stable (t a)) fun m a hm ha =>
    o.next (hnext a m ha) hm

/-! ### Draining -/

theorem stop (slot : Slot) (purpose : Purpose) : o.Leads (.gated (some slot) purpose) (stop slot)
    (fun ended => if ended then .stopped (some slot) purpose else .gated (some slot) purpose) := by
  refine o.bind (o.modify fun _ => .hurry) fun _ => o.read fun seen => ?_
  refine ⟨_, .wait, o.bind (o.ask (q := .done (seen.monitor slot.id))
    (t := fun ended => .waiting slot (seen.monitor slot.id) (seen.lifecycle slot.id) ended purpose)
    ?_) fun ended => ?_⟩
  · intro ended m ha
    cases ended with
    | false => exact .stay
    | true => exact .monitorDone ha
  cases ended with
  | false => exact o.further (fun _ => .unfinished) o.ret
  | true =>
    refine o.ask (q := .done (seen.lifecycle slot.id)) fun ended m ha => ?_
    cases ended with
    | false => exact .unfinished
    | true => exact .lifecycleDone ha

theorem quiesceAndStop (old : Option Slot) (purpose : Purpose) :
    o.Leads (.gated old purpose) (quiesceAndStop old)
      (fun ended => if ended then .stopped old purpose else .gated old purpose) := by
  refine o.bind (o.ask (t := fun _ => .gated old purpose) fun _ _ _ => .stay) fun quiet => ?_
  cases quiet with
  | false => exact o.ret
  | true =>
    cases old with
    | none => exact o.further (fun _ => .slotless) o.ret
    | some slot => exact o.stop slot purpose

/-- **Draining** ends with the gate held and nobody left, or with the operation. -/
theorem drain (old : Option Slot) (purpose : Purpose) :
    o.Leads (.draining old purpose) (drain old) (unlessFailed fun _ => .stopped old purpose) := by
  refine o.bind (o.ask (q := .lockGate) (t := fun acquired : Bool =>
    if acquired then .gated old purpose else .draining old purpose) ?_) fun acquired => ?_
  · intro acquired m ha
    cases acquired with
    | false => exact .stay
    | true => exact .gate ha
  cases acquired with
  | false => exact o.bind (o.modify fun _ => .undrained .runtimeDrainTimeout) fun _ => o.ret
  | true =>
    refine o.bind (o.quiesceAndStop old purpose) fun ended => ?_
    cases ended with
    | true => exact o.ret
    | false =>
      refine o.bind (o.modify fun _ => .unstopped .runtimeDrainTimeout) fun _ => ?_
      exact o.bind (o.modify fun _ => .unlock) fun _ => o.ret

theorem unlock (r : Except Err Unit) :
    o.Leads (.leaving r) (Durable.modify unlockGate >>= fun _ => pure r) .ended :=
  o.bind (o.modify fun _ => .unlock) fun _ => o.ret

/-- From the choice of a slot to the end of the operation. -/
theorem drained {old : Option Slot} {purpose : Purpose} {f : RuntimeManager → RuntimeManager}
    {k : Unit → Op (Except Err Unit)}
    (hcancel : ∀ m, Next o.env m (.transitioning old purpose) (.draining old purpose) (f m))
    (hk : ∀ u, o.Leads (.stopped old purpose) (k u) .ended) :
    o.Leads (.chosen old purpose) (do Durable.modify beginTransition; Durable.modify f; Durable.attempt (Proxy.drain old) k)
      .ended := by
  refine o.bind (o.modify fun _ => .begin) fun _ => ?_
  exact o.bind (o.modify hcancel) fun _ => o.attempt (o.drain old purpose) hk

/-! ### The operations -/

theorem startSlot (slot : Slot) (resumed : Bool) :
    o.Leads (.starting slot resumed) (startSlot slot) (fun _ => .started slot resumed) := by
  refine o.bind (o.modify fun _ => .catalog) fun _ => ?_
  refine o.ite (fun _ => o.modify fun _ => .monitor) fun _ => ?_
  exact o.further (fun _ => .unmonitored) o.ret

theorem replaceSlot (old : Option Slot) (spec : RuntimeSpec) (candidate : Runtime)
    (availability : LocalAvailability) :
    o.Leads (.stopped old (.replace spec candidate availability))
      (replaceSlot old spec candidate availability) (fun _ => .leaving (.ok ())) := by
  refine o.ite (fun hnone => o.modify fun _ => .pause hnone) fun hdata => ?_
  refine o.bind (o.modify fun _ => .publish hdata) fun _ => o.read fun seen => ?_
  cases hc : seen.current with
  | none => exact ⟨_, .unpublished hc, o.ret⟩
  | some slot =>
    exact ⟨_, .start hc, o.bind (o.startSlot slot false) fun _ => o.modify fun _ => .activate⟩

theorem buildCandidate (spec : RuntimeSpec) : o.Leads (.called (.apply spec)) (buildCandidate spec)
    (unlessFailed fun _ => .called (.apply spec)) := by
  have hrefuse : ∀ e, o.Leads (.called (.apply spec)) (refuse e : Op (Except Err Runtime))
      (unlessFailed fun _ => .called (.apply spec)) := fun e => o.further (fun _ => .refuse e) o.ret
  refine o.ite (fun _ => o.ret) fun _ => ?_
  refine o.bind (o.ask (t := fun _ => _) fun _ _ _ => .stay) fun built => ?_
  cases built with
  | none => exact hrefuse _
  | some runtime =>
    simp only
    split
    · exact hrefuse _
    · exact o.ret

theorem preflight (spec : RuntimeSpec) (candidate : Runtime) :
    o.Leads (.admitted spec candidate) (preflight spec)
      (unlessFailed fun a => .probed spec candidate a) := by
  refine o.ite (fun _ => ?_) fun _ => ?_
  · refine o.bind (o.ask (t := fun _ => _) fun _ _ _ => .stay) fun a => ?_
    refine o.bind (o.modify fun _ => .probe) fun _ => ?_
    exact o.ite (fun _ => o.further (fun _ => .lost _) o.ret) fun _ => o.ret
  · exact o.read fun seen => ⟨_, .unprobed, o.ret⟩

theorem apply (spec : RuntimeSpec) : o.Leads (.called (.apply spec)) (apply spec) .ended := by
  have hrefuse : ∀ e, o.Leads (.called (.apply spec)) (refuse e) .ended :=
    fun e => o.further (fun _ => .refuse e) o.ret
  unfold Proxy.apply
  split
  · exact hrefuse _
  rename_i spec' hnormal
  obtain rfl := RuntimeSpec.normalized_eq hnormal
  refine o.ite (fun _ => hrefuse _) fun _ => ?_
  refine o.attempt (o.buildCandidate spec') fun candidate => o.read fun seen => ?_
  cases hp : seen.maintenancePrepared with
  | true => exact ⟨_, .stay, hrefuse _⟩
  | false =>
    simp only [Bool.false_eq_true, if_false]
    split_ifs with hclosed
    · exact ⟨_, .stay, hrefuse _⟩
    refine ⟨_, .accept hp hclosed, o.attempt (o.preflight spec' candidate) fun a =>
      o.read fun seen' => ⟨_, .choose, ?_⟩⟩
    refine o.drained (fun _ => .cancel nofun) fun _ => ?_
    exact o.bind (o.replaceSlot _ spec' candidate a) fun _ => o.unlock _

/-- **Every operation**, from its call to its end. -/
theorem call (call : Call) : o.Leads (.called call) call.prog .ended := by
  have hrefuse : ∀ e m, ∃ phase, Next o.env m (.called call) phase m ∧ o.Leads phase (refuse e) .ended :=
    fun e m => ⟨_, .refuse e, o.ret⟩
  cases call with
  | apply spec => exact o.apply spec
  | prepareMaintenance =>
    refine o.read fun seen => ?_
    cases hp : seen.maintenancePrepared with
    | true => exact ⟨_, .nothing nofun, o.ret⟩
    | false =>
      simp only [Bool.false_eq_true, if_false]
      split_ifs
      · exact hrefuse _ seen
      refine ⟨_, .prepare hp, o.drained (fun _ => .cancel nofun) fun _ => ?_⟩
      exact o.bind (o.modify fun _ => .remember) fun _ => o.unlock _
  | verifyMaintenance =>
    refine o.read fun seen => ?_
    split_ifs with hnot
    · exact hrefuse _ seen
    have hp : seen.maintenancePrepared = true := by
      by_contra hp
      simp [hp] at hnot
    refine ⟨_, .verify hp, o.bind (o.ask (t := fun _ => _) fun _ _ _ => .stay) fun a => ?_⟩
    refine o.bind (o.modify fun _ => .verified) fun _ => ?_
    split_ifs
    · exact o.ret
    · exact o.ret
  | resumeMaintenance =>
    refine o.read fun seen => ?_
    split
    · rename_i slot hp hs
      refine ⟨_, .resume hp hs, o.bind (o.startSlot slot true) fun _ => ?_⟩
      refine o.bind (o.modify fun _ => .reactivate) fun _ => ?_
      exact o.bind (o.modify fun _ => .forget) fun _ => o.ret
    · exact ⟨_, .nothing nofun, o.ret⟩
  | close =>
    refine o.read fun seen => ?_
    split_ifs
    · exact ⟨_, .nothing nofun, o.ret⟩
    refine ⟨_, .close, o.drained (fun _ => .cancelParent) fun _ => ?_⟩
    refine o.bind (o.modify fun _ => .shut) fun _ => ?_
    exact o.bind (o.modify fun _ => .forget) fun _ => o.unlock _

end Outline

end OpenCodexRelay.Proxy
