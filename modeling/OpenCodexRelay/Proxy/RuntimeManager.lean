/-
  The runtime manager of the resident relay.

  The relay keeps its two listeners open for ever and swaps what is behind them.  `RuntimeManager`
  is the object that does it: it owns the current runtime slot, the admission every request asks
  for, and the two background workers of the slot — the catalog lifecycle and, for a local profile,
  the monitor that keeps probing the backend.

      apply    · probe · transitioning · cancel workers · LOCK GATE · drain · stop · commit
                 (publish the slot · start its workers · active)
      prepare  · transitioning · cancel workers · LOCK GATE · drain · stop · remember the slot
      verify   · probe
      resume   · start the workers again · active · forget the slot
      close    · transitioning · cancel everything · LOCK GATE · drain · stop · closed

  These five hold `maintenanceMu` from their first look at the object to their last, so at most one
  of them is under way: they are the operations of a `Machine`.  Everything else happens at any
  moment in between and is a step of `Elsewhere`: requests that pass the gate, observers that record
  an availability, workers that end.

  The fields `lastObservation` and `relying` are history: no code reads them.
-/
import OpenCodexRelay.Interleaved
import Mathlib.Data.List.Basic

namespace OpenCodexRelay.Proxy

open Durable

/-! ## Data -/

inductive RuntimeProfile where
  | external | localOpenCodex | localAppleContainer | none
  deriving DecidableEq, Repr

def isLocalRuntimeProfile : RuntimeProfile → Bool
  | .localOpenCodex | .localAppleContainer => true
  | .external | .none => false

inductive LocalAvailability where
  | ready | unavailable | foreign | invalid | unknown
  deriving DecidableEq, Repr

inductive RuntimeAdmission where
  | active | transitioning | localUnavailable | paused | closed
  deriving DecidableEq, Repr

inductive Err where
  | runtimeManagerClosed
  | runtimeDrainTimeout
  | localOpenCodexUnavailable (availability : LocalAvailability)
  | runtimeMaintenanceState
  | invalidRuntime
  | invalidRuntimeProfile
  | missingLocalOpenCodexProbe
  | buildRuntime
  deriving DecidableEq, Repr

/-- What a factory builds: which of its parts are there. -/
structure Runtime where
  generalHandler : Bool
  interactiveHandler : Bool
  catalogLifecycle : Bool
  deriving DecidableEq, Repr

def Runtime.validate (r : Runtime) : Except Err Unit :=
  if !r.generalHandler || !r.interactiveHandler then .error .invalidRuntime else .ok ()

structure RuntimeSpec where
  profile : RuntimeProfile
  startParked : Bool
  /-- A probe, and a connection lease, were supplied. -/
  localProbe : Bool
  connectionLease : Bool
  deriving DecidableEq, Repr

def RuntimeSpec.normalized (s : RuntimeSpec) : Except Err RuntimeSpec :=
  if s.startParked && s.profile ≠ .localAppleContainer then .error .invalidRuntimeProfile else
  match s.profile with
  | .external | .none => .ok s
  | .localOpenCodex =>
    if !s.localProbe then .error .missingLocalOpenCodexProbe else .ok s
  | .localAppleContainer =>
    if !s.localProbe then .error .missingLocalOpenCodexProbe
    else if !s.connectionLease then .error .invalidRuntimeProfile else .ok s

/-- One immutable runtime behind the listeners; `id` is the identity of the pointer. -/
structure Slot where
  id : Nat
  runtime : Runtime
  spec : RuntimeSpec
  deriving DecidableEq, Repr

def Slot.local (s : Slot) : Bool := isLocalRuntimeProfile s.spec.profile

inductive WorkerKind where
  | catalog | monitor
  deriving DecidableEq, Repr

/-- A goroutine that works for a slot. -/
structure Worker where
  kind : WorkerKind
  slot : Slot
  cancelled : Bool
  running : Bool
  deriving DecidableEq, Repr

/-- Where a request is in `serveHTTP`. -/
inductive Request where
  | idle
  /-- It saw an active admission with this slot (and, for the container, has its lease). -/
  | chosen (slot : Slot)
  /-- It holds the read side of the gate and has yet to look again. -/
  | entered (slot : Slot)
  /-- The slot's handler is running. -/
  | serving (slot : Slot)
  /-- The same, and the tracker counts it. -/
  | tracked (slot : Slot)
  deriving DecidableEq, Repr

def Request.holdsGate : Request → Bool
  | .entered _ | .serving _ | .tracked _ => true
  | .idle | .chosen _ => false

/-- The slot whose handler the request runs on. -/
def Request.runsOn : Request → Option Slot
  | .serving slot | .tracked slot => some slot
  | _ => none

structure RuntimeManager where
  current : Option Slot
  generation : Nat
  admission : RuntimeAdmission
  localAvailability : LocalAvailability
  /-- `m.cancel()` has been called. -/
  parentCancelled : Bool
  maintenancePrepared : Bool
  maintenanceSlot : Option Slot
  /-- The write side of the gate is held. -/
  gateHeld : Bool
  /-- Every worker that was ever started, in the order of their starts. -/
  workers : List Worker
  /-- `slot.lifecycle` and `slot.monitor`, by the slot's identity. -/
  lifecycle : Nat → Option Nat
  monitor : Nat → Option Nat
  /-- How many slots there have been. -/
  slots : Nat
  requests : Nat → Request
  /-- History: the latest availability recorded for the current slot. -/
  lastObservation : LocalAvailability
  /-- History: a transition has recorded `ready` for the current slot, and has yet to settle the
      admission. -/
  relying : Bool

namespace RuntimeManager

/-! ## The critical sections -/

def cancelHandle (handle : Option Nat) (m : RuntimeManager) : RuntimeManager :=
  match handle with
  | some i => { m with workers := m.workers.modify i fun w => { w with cancelled := true } }
  | none => m

/-- `slot.cancelWorkers()`. -/
def cancelWorkers (slot : Option Slot) (m : RuntimeManager) : RuntimeManager :=
  match slot with
  | some s => cancelHandle (m.lifecycle s.id) (cancelHandle (m.monitor s.id) m)
  | none => m

/-- Set an admission that ends a transition. -/
def settle (admission : RuntimeAdmission) (m : RuntimeManager) : RuntimeManager :=
  { m with admission := admission, relying := false }

/-- Somebody has seen a local backend in this condition. -/
def record (availability : LocalAvailability) (m : RuntimeManager) : RuntimeManager :=
  { m with localAvailability := availability, lastObservation := availability }

/-- `ObserveLocalAvailability`: a loss parks an active local slot and cancels its catalog; a recovery
    is only recorded. -/
def observeLocalAvailability (availability : LocalAvailability) (m : RuntimeManager) :
    RuntimeManager :=
  if m.current.any Slot.local && availability ≠ .ready then
    cancelHandle (m.current.bind fun slot => m.lifecycle slot.id)
      (if m.admission = .active then { m.record availability with admission := .localUnavailable }
        else m.record availability)
  else m.record availability

/-- `observeLocalAvailabilityForSlot`, called by a monitor. -/
def observeLocalAvailabilityForSlot (slot : Slot) (availability : LocalAvailability)
    (m : RuntimeManager) : RuntimeManager :=
  if m.current ≠ some slot || !slot.local then m else m.observeLocalAvailability availability

def beginTransition (m : RuntimeManager) : RuntimeManager := { m with admission := .transitioning }

def parkAfterFailedDrain (old : Option Slot) (m : RuntimeManager) : RuntimeManager :=
  if m.current = old then cancelWorkers old (m.settle .paused) else m

def commitPaused (old : Option Slot) (m : RuntimeManager) : RuntimeManager :=
  settle .paused { m with current := old, generation := m.generation + 1 }

/-- The first critical section of `commitRuntime`. -/
def publish (runtime : Runtime) (spec : RuntimeSpec) (availability : LocalAvailability)
    (m : RuntimeManager) : RuntimeManager :=
  { m with
    generation := m.generation + 1
    current := some ⟨m.slots, runtime, spec⟩
    slots := m.slots + 1
    localAvailability := if isLocalRuntimeProfile spec.profile then .ready else availability
    lastObservation := if isLocalRuntimeProfile spec.profile then .ready else availability
    relying := isLocalRuntimeProfile spec.profile }

/-- The second. -/
def activate (slot : Option Slot) (m : RuntimeManager) : RuntimeManager :=
  if m.current = slot ∧ m.admission = .transitioning then m.settle .active else m

/-- A goroutine for `slot`; its context is a child of the manager's. -/
def startWorker (kind : WorkerKind) (slot : Slot) (m : RuntimeManager) : RuntimeManager :=
  { m with workers := m.workers ++ [⟨kind, slot, m.parentCancelled, true⟩] }

def startLifecycle (slot : Slot) (m : RuntimeManager) : RuntimeManager :=
  if slot.runtime.catalogLifecycle then
    { m.startWorker .catalog slot with
      lifecycle := Function.update m.lifecycle slot.id (some m.workers.length) }
  else { m with lifecycle := Function.update m.lifecycle slot.id none }

def startLocalMonitor (slot : Slot) (m : RuntimeManager) : RuntimeManager :=
  { m.startWorker .monitor slot with
    monitor := Function.update m.monitor slot.id (some m.workers.length) }

/-- What `VerifyMaintenance` records of its probe. -/
def verified (availability : LocalAvailability) (m : RuntimeManager) : RuntimeManager :=
  { m.record availability with relying := availability = .ready }

/-- The last step of `ResumeMaintenance` on the admission. -/
def reactivate (slot : Slot) (m : RuntimeManager) : RuntimeManager :=
  if m.current = some slot then settle .active { m with localAvailability := .ready } else m

/-- `m.cancel()`: every worker's context is a child of the manager's. -/
def cancelParent (m : RuntimeManager) : RuntimeManager :=
  { m with
    parentCancelled := true
    workers := m.workers.map fun w => { w with cancelled := true } }

def unlockGate (m : RuntimeManager) : RuntimeManager := { m with gateHeld := false }

end RuntimeManager

/-! ## Everybody else -/

open RuntimeManager in
/-- **A step of somebody who does not hold `maintenanceMu`.** -/
inductive Elsewhere : RuntimeManager → RuntimeManager → Prop where
  /-- A request sees an active admission. -/
  | choose (m) (r : Nat) (slot : Slot) (h : m.requests r = .idle) (ha : m.admission = .active)
      (hc : m.current = some slot) :
      Elsewhere m { m with requests := Function.update m.requests r (.chosen slot) }
  /-- It takes the read side of the gate. -/
  | enter (m) (r : Nat) (slot : Slot) (h : m.requests r = .chosen slot) (hg : m.gateHeld = false) :
      Elsewhere m { m with requests := Function.update m.requests r (.entered slot) }
  /-- It looks again, and what it saw still holds. -/
  | proceed (m) (r : Nat) (slot : Slot) (h : m.requests r = .entered slot)
      (ha : m.admission = .active) (hc : m.current = some slot) :
      Elsewhere m { m with requests := Function.update m.requests r (.serving slot) }
  /-- It looks again, and has to start over. -/
  | retry (m) (r : Nat) (slot : Slot) (h : m.requests r = .entered slot)
      (hne : m.admission ≠ .active ∨ m.current ≠ some slot) :
      Elsewhere m { m with requests := Function.update m.requests r .idle }
  /-- The handler enters the tracker. -/
  | track (m) (r : Nat) (slot : Slot) (h : m.requests r = .serving slot) :
      Elsewhere m { m with requests := Function.update m.requests r (.tracked slot) }
  /-- It is over, or it has given up. -/
  | leave (m) (r : Nat) :
      Elsewhere m { m with requests := Function.update m.requests r .idle }
  /-- Somebody reports an availability. -/
  | observe (m) (availability : LocalAvailability) :
      Elsewhere m (m.observeLocalAvailability availability)
  /-- A monitor reports one for its slot. -/
  | monitor (m) (i : Nat) (w : Worker) (availability : LocalAvailability)
      (hw : m.workers[i]? = some w) (hk : w.kind = .monitor) (hr : w.running = true) :
      Elsewhere m (m.observeLocalAvailabilityForSlot w.slot availability)
  /-- A worker returns. -/
  | finish (m) (i : Nat) :
      Elsewhere m { m with workers := m.workers.modify i fun w => { w with running := false } }
  /-- An observer gets round to cancelling the catalog of a slot. -/
  | cancel (m) (i : Nat) : Elsewhere m (cancelHandle (some i) m)

/-! ## Questions -/

inductive Query where
  /-- `spec.LocalProbe`. -/
  | probe
  /-- The runtime factory. -/
  | factory
  /-- `lockGate`: the write side, or the deadline. -/
  | lockGate
  /-- `TryQuiesce`: no request is counted, or the deadline. -/
  | quiesce
  /-- A worker's `done` channel, or the deadline. -/
  | done (handle : Option Nat)
  deriving DecidableEq, Repr

def Query.Answer : Query → Type
  | .probe => LocalAvailability
  | .factory => Option Runtime
  | .lockGate | .quiesce | .done _ => Bool

abbrev Op := Prog RuntimeManager Query Query.Answer

/-- What the answers depend on. -/
def answers : Env RuntimeManager Query Query.Answer
  | .probe, _, _ => True
  | .factory, _, _ => True
  | .lockGate, m, a => a = true → ∀ r, (m.requests r).holdsGate = false
  | .quiesce, m, a => a = true → ∀ r slot, m.requests r ≠ .tracked slot
  | .done handle, m, a =>
    a = true → ∀ i w, handle = some i → m.workers[i]? = some w → w.running = false

def RuntimeManager.takeGate (acquired : Bool) (m : RuntimeManager) : RuntimeManager :=
  if acquired then { m with gateHeld := true } else m

def answered : (q : Query) → q.Answer → RuntimeManager → RuntimeManager
  | .lockGate, a, m => m.takeGate a
  | .probe, _, m => m
  | .factory, _, m => m
  | .quiesce, _, m => m
  | .done _, _, m => m

/-- The manager, with the answers and the steps of everybody else given. -/
def machineFor (env : Env RuntimeManager Query Query.Answer)
    (other : RuntimeManager → RuntimeManager → Prop) : Machine RuntimeManager Query Query.Answer :=
  ⟨env, answered, other⟩

/-- The manager, with the steps of everybody else given. -/
def machineWith (other : RuntimeManager → RuntimeManager → Prop) :
    Machine RuntimeManager Query Query.Answer := machineFor answers other

/-- The manager among everybody else. -/
def machine : Machine RuntimeManager Query Query.Answer := machineWith Elsewhere

/-! ## Operations -/

section Operations

open RuntimeManager

def refuse {α : Type} (e : Err) : Op (Except Err α) := pure (.error e)

def probeLocal : Op LocalAvailability := ask Query.probe

def factory : Op (Option Runtime) := ask Query.factory

def lockGate : Op Bool := ask Query.lockGate

def tryQuiesce : Op Bool := ask Query.quiesce

def waitDone (handle : Option Nat) : Op Bool := ask (Query.done handle)

/-- `slot.stop`: both workers are told to end and waited for, the monitor first. -/
def stop (slot : Slot) : Op Bool := do
  modify (cancelWorkers (some slot))
  .read fun m => do
  if !(← waitDone (m.monitor slot.id)) then pure false else
  waitDone (m.lifecycle slot.id)

def quiesceAndStop (old : Option Slot) : Op Bool := do
  if !(← tryQuiesce) then pure false else
  match old with
  | some slot => stop slot
  | none => pure true

/-- Take the gate, wait for the requests and stop the workers.  On success the gate is held; on
    failure the old slot is parked behind it. -/
def drain (old : Option Slot) : Op (Except Err Unit) := do
  if !(← lockGate) then
    modify (parkAfterFailedDrain old)
    refuse .runtimeDrainTimeout
  else if !(← quiesceAndStop old) then
    modify (parkAfterFailedDrain old)
    modify unlockGate
    refuse .runtimeDrainTimeout
  else pure (.ok ())

def startSlot (slot : Slot) : Op Unit := do
  modify (RuntimeManager.startLifecycle slot)
  if slot.local then modify (RuntimeManager.startLocalMonitor slot)

def commitRuntime (runtime : Runtime) (spec : RuntimeSpec) (availability : LocalAvailability) :
    Op Unit := do
  modify (publish runtime spec availability)
  .read fun m => match m.current with
  | some slot => do
    startSlot slot
    modify (activate (some slot))
  | none => pure ()

/-- The candidate is built before anything is paused; the profile `none` needs none. -/
def buildCandidate (spec : RuntimeSpec) : Op (Except Err Runtime) :=
  if spec.profile = .none then pure (.ok ⟨false, false, false⟩) else do
  match ← factory with
  | none => refuse .buildRuntime
  | some runtime => match runtime.validate with
    | .error e => refuse e
    | .ok _ => pure (.ok runtime)

/-- A local profile is probed, and the result is recorded whatever it is. -/
def preflight (spec : RuntimeSpec) : Op (Except Err LocalAvailability) :=
  if isLocalRuntimeProfile spec.profile then do
    let availability ← probeLocal
    modify (observeLocalAvailability availability)
    if availability ≠ .ready then refuse (.localOpenCodexUnavailable availability)
    else pure (.ok availability)
  else .read fun m => pure (.ok m.localAvailability)

/-- What takes the place of the drained slot: itself, parked, or the candidate. -/
def replaceSlot (old : Option Slot) (spec : RuntimeSpec) (candidate : Runtime)
    (availability : LocalAvailability) : Op Unit :=
  if spec.profile = .none then modify (commitPaused old)
  else commitRuntime candidate spec availability

/-- The part of `Apply` under the locks. -/
def applyLocked (spec : RuntimeSpec) (candidate : Runtime) : Op (Except Err Unit) :=
  .read fun m => if m.maintenancePrepared then refuse .runtimeMaintenanceState else
  if m.admission = .closed then refuse .runtimeManagerClosed else
  attempt (preflight spec) fun availability => .read fun m => do
  modify beginTransition
  modify (cancelWorkers m.current)
  attempt (drain m.current) fun _ => do
  replaceSlot m.current spec candidate availability
  modify unlockGate
  pure (.ok ())

def apply (spec : RuntimeSpec) : Op (Except Err Unit) :=
  match spec.normalized with
  | .error e => refuse e
  | .ok spec =>
    if spec.startParked then refuse .invalidRuntimeProfile else
    attempt (buildCandidate spec) (applyLocked spec)

/-- A maintenance starts from an Apple slot that is active or parked. -/
def eligible (m : RuntimeManager) : Bool :=
  m.current.any (fun slot => slot.spec.profile = .localAppleContainer) &&
    (m.admission = .active || m.admission = .paused)

def prepareMaintenance : Op (Except Err Unit) :=
  .read fun m => if m.maintenancePrepared then pure (.ok ()) else
  if !eligible m then refuse .runtimeMaintenanceState else do
  modify beginTransition
  modify (cancelWorkers m.current)
  attempt (drain m.current) fun _ => do
  modify fun m' => { m' with maintenancePrepared := true, maintenanceSlot := m.current }
  modify unlockGate
  pure (.ok ())

def verifyMaintenance : Op (Except Err Unit) :=
  .read fun m =>
  if !m.maintenancePrepared ||
      !m.maintenanceSlot.any (fun slot => slot.spec.profile = .localAppleContainer) then
    refuse .runtimeMaintenanceState
  else do
  let availability ← probeLocal
  modify (verified availability)
  if availability ≠ .ready then refuse (.localOpenCodexUnavailable availability)
  else pure (.ok ())

/-- `ResumeMaintenance` cannot fail; without a prepared maintenance it does nothing. -/
def resumeMaintenance : Op (Except Err Unit) :=
  .read fun m => match m.maintenancePrepared, m.maintenanceSlot with
  | true, some slot => do
    startSlot slot
    modify (reactivate slot)
    modify fun m => { m with maintenancePrepared := false, maintenanceSlot := none }
    pure (.ok ())
  | _, _ => pure (.ok ())

def close : Op (Except Err Unit) :=
  .read fun m => if m.admission = .closed then pure (.ok ()) else do
  modify beginTransition
  modify cancelParent
  attempt (drain m.current) fun _ => do
  modify fun m => settle .closed { m with current := none }
  modify fun m => { m with maintenancePrepared := false, maintenanceSlot := none }
  modify unlockGate
  pure (.ok ())

end Operations

inductive Call where
  | apply (spec : RuntimeSpec)
  | prepareMaintenance
  | verifyMaintenance
  | resumeMaintenance
  | close
  deriving DecidableEq, Repr

def Call.prog : Call → Op (Except Err Unit)
  | .apply spec => Proxy.apply spec
  | .prepareMaintenance => Proxy.prepareMaintenance
  | .verifyMaintenance => Proxy.verifyMaintenance
  | .resumeMaintenance => Proxy.resumeMaintenance
  | .close => Proxy.close

/-! ## The constructor -/

/-- An object with no slot and no worker. -/
def vacant (availability : LocalAvailability) : RuntimeManager where
  current := none
  generation := 1
  admission := .paused
  localAvailability := availability
  parentCancelled := false
  maintenancePrepared := false
  maintenanceSlot := none
  gateHeld := false
  workers := []
  lifecycle := fun _ => none
  monitor := fun _ => none
  slots := 0
  requests := fun _ => .idle
  lastObservation := availability
  relying := false

/-- `NewRuntimeManager`: `probed` is what the probe of a local profile says at startup. -/
def newRuntimeManager (spec : RuntimeSpec) (initial : Runtime) (probed : LocalAvailability) :
    Except Err RuntimeManager :=
  match spec.normalized with
  | .error e => .error e
  | .ok spec =>
    let handled := initial.generalHandler && initial.interactiveHandler
    if (spec.profile ≠ .none || initial.generalHandler || initial.interactiveHandler) && !handled then
      .error .invalidRuntime
    else
    let isLocal := isLocalRuntimeProfile spec.profile && !spec.startParked
    let base := vacant (if isLocal then probed else .unknown)
    let slot : Slot := ⟨0, initial, spec⟩
    if spec.profile = .none then
      -- only a health surface, if there is a handler for it
      .ok (if handled then { base with current := some slot, slots := 1 } else base)
    else
    let installed := { base with current := some slot, slots := 1 }
    if spec.startParked then .ok installed
    else if isLocalRuntimeProfile spec.profile && probed ≠ .ready then
      .ok { installed with admission := .localUnavailable }
    else
      let started := { installed with admission := .active }.startLifecycle slot
      .ok (if slot.local then started.startLocalMonitor slot else started)

end OpenCodexRelay.Proxy
