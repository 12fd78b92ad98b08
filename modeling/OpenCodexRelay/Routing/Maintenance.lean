/-
  Replacing the image of a running container.

  While the container lifecycle swaps the image behind a live Apple route, the resident relay keeps
  its own half of the transaction: a third journal next to the routing state, and two state writes.

      Prepare          · write the journal · save applying (g+1) · block and drain
      Commit, Rollback · (save applying) · drain again · VERIFY · save final (g+2)
                       · remove the journal · resume

  Every request may be repeated from any of the three positions the journal names (g, g+1, g+2), so
  each of them first brings the state to the position it needs: `enterMaintenance` is that first
  part, shared by both halves.  `Refresh`, which the source calls between the writes, looks at the
  files and changes none of them; `Watcher.refresh` is what it computes.
-/
import OpenCodexRelay.Routing.RuntimeRouting

namespace OpenCodexRelay.Routing

open Durable

def stableAppleState (s : State) : Bool :=
  s.phase = .relayActive && s.desiredMode = .relay && s.appliedMode = .relay &&
    s.desiredBackend = .localAppleContainer && s.appliedBackend = .localAppleContainer

/-- The coordinator of one resident relay: it shares its store with the relay's watcher. -/
structure MaintenanceCoordinator where
  store : Store
  watcher : Watcher
  watcher_store : watcher.store = store

namespace MaintenanceCoordinator

variable (m : MaintenanceCoordinator)

/-- The state between the origin and the final generation: nothing is admitted. -/
def applyingState (w : MaintenanceWitness) (s : State) : State :=
  { s with generation := w.preparedRoutingGeneration, phase := .applying }

/-- The state a finished maintenance leaves. -/
def finalState (w : MaintenanceWitness) (s : State) : State :=
  { s with generation := w.finalRoutingGeneration, phase := .relayActive }

/-- Move a state that is still at the origin to `applying`; any later position is kept. -/
def enterMaintenance (w : MaintenanceWitness) (s : State) : Op (Except Err State) :=
  if s.generation = w.originRoutingGeneration then
    attempt (m.store.save (applyingState w s)) fun _ => pure (.ok (applyingState w s))
  else pure (.ok s)

/-- Block the listeners and drain what they have admitted. -/
def drain (w : MaintenanceWitness) : Op (Except Err MaintenanceWitness) :=
  attempt (require .runtimePrepare .maintenanceRecoveryRequired) fun _ => pure (.ok w)

/-- `Prepare` when a journal is already there: only a request that repeats it is answered. -/
def repeatPrepare (existing : MaintenanceJournal) (s : State) (generation : UInt64)
    (intent : Intent) : Op (Except Err MaintenanceWitness) :=
  let w := existing.witness
  if w.originRoutingGeneration ≠ generation ∨ w.intent ≠ intent ∨ !existing.matchesState s then
    refuse .maintenanceConflict
  else
  guarded (m.enterMaintenance w s) (fun _ => refuse .maintenanceRecoveryRequired) fun _ => drain w

/-- `Prepare` when there is none. -/
def beginPrepare (s : State) (generation : UInt64) (intent : Intent) :
    Op (Except Err MaintenanceWitness) :=
  if !stableAppleState s ∨ s.generation ≠ generation then refuse .maintenanceConflict else
  match newMaintenanceWitness generation intent with
  | none => refuse .maintenanceWitness
  | some w =>
    -- the journal is durable before routing is parked: its mere presence fails closed
    attempt (m.store.writeMaintenance ⟨maintenanceSchemaVersion, m.store.configPath, w⟩) fun _ =>
    guarded (m.store.save (applyingState w s)) (fun _ => refuse .maintenanceRecoveryRequired)
      fun _ => drain w

def prepare (generation : UInt64) (intent : Intent) : Op (Except Err MaintenanceWitness) :=
  if generation = 0 ∨ !intent.validMaintenance then refuse .maintenanceWitness else
  .read fun d => match loadJournal d with
  | .ok none => match m.store.loadMaintenance d with
    | .error _ => refuse .maintenanceRecoveryRequired
    | .ok existing => match m.store.read d with
      | .ok (s, false) => match m.store.loadRuntimeRouting s.boundCodexConfigPath d with
        | .ok none => match existing with
          | some j => m.repeatPrepare j s generation intent
          | none => m.beginPrepare s generation intent
        | _ => refuse .maintenanceConflict
      | _ => refuse .maintenanceRecoveryRequired
  | _ => refuse .maintenanceConflict

/-- Make the final state durable, unless a previous request already has. -/
def saveFinal (w : MaintenanceWitness) (s : State) : Op (Except Err Unit) :=
  if s.generation = w.preparedRoutingGeneration then m.store.save (finalState w s)
  else pure (.ok ())

/-- What `finish` does once the witness has been found to be the recorded one. -/
def finishFrom (operation : ControlOperation) (w : MaintenanceWitness) (s : State) :
    Op (Except Err Unit) :=
  let fail := fun _ => refuse .maintenanceRecoveryRequired
  guarded (m.enterMaintenance w s) fail fun s =>
  -- draining is idempotent; it has to be over before either endpoint is accepted
  guarded (require .runtimePrepare .maintenanceRecoveryRequired) fail fun _ =>
  guarded (require (.runtimeVerify operation) .maintenanceRecoveryRequired) fail fun _ =>
  guarded (m.saveFinal w s) fail fun _ =>
  guarded removeMaintenance fail fun _ => do
  let _ ← ask Query.runtimeResume
  pure (.ok ())

def finish (operation : ControlOperation) (w : MaintenanceWitness) : Op (Except Err Unit) :=
  if !w.valid then refuse .maintenanceWitness else
  .read fun d => match m.store.loadMaintenance d with
  | .ok (some j) =>
    if j.witness ≠ w then refuse .maintenanceWitness else
    match m.store.read d with
    | .ok (s, false) =>
      if !j.matchesState s then refuse .maintenanceRecoveryRequired
      else m.finishFrom operation w s
    | _ => refuse .maintenanceRecoveryRequired
  | _ => refuse .maintenanceRecoveryRequired

def commit (w : MaintenanceWitness) : Op (Except Err Unit) := m.finish .maintenanceCommit w

def rollback (w : MaintenanceWitness) : Op (Except Err Unit) := m.finish .maintenanceRollback w

end MaintenanceCoordinator

end OpenCodexRelay.Routing
