/-
  The routing half of a container operation.

  Starting, restarting or stopping the container moves Codex to or from the Apple backend.  The
  lifecycle manager owns that move; the controller carries it out under a WITNESS, a third file
  that is written before anything else and outlives every controller transaction made for it:

      begin · write the witness · save the request
      reconcile · rewrite the witness (plan an attempt) · mutate · … · mark it resolved
      acknowledge · remove the witness

  `reconcileRuntimeRouting` is the whole of crash recovery: it may be called with either direction,
  from any position a previous call stopped at, and dispatches on the durable state and journal.
  What every branch has in common is the order "plan, make the plan durable, mutate", and that it
  starts from evidence only: the witness has to match the state and the journal.
-/
import OpenCodexRelay.Routing.Footprint

namespace OpenCodexRelay.Routing

open Durable

namespace Controller

variable (c : Controller)

/-! ## Evidence -/

/-- `AppliedRoutingDriftCheck`: are the Codex artifacts those of the applied backend? -/
def appliedRoutingDriftCheck (d : Disk) (s : State) : Bool :=
  if s.phase = .applying ∨ s.phase = .recoveryRequired ∨ s.boundCodexConfigPath = "" then true else
  match c.codec.loadFile d.relay with
  | none => false
  | some cfg => match s.appliedBackend with
    | .none => c.validateNative d
    | .external => c.validateManaged d cfg
    | .localOpenCodex => (cfg.localOpenCodexRuntimeConfig c.codec).any (c.validateManaged d)
    | .localAppleContainer => (cfg.localAppleContainerRuntimeConfig c.codec).any (c.validateManaged d)
    | .unknown => false

/-- The witness on disk together with the durable state and journal it matches. -/
def runtimeRoutingEvidence (d : Disk) (w : RuntimeRoutingJournal) :
    Option (State × Option TransactionJournal) :=
  match c.store.read d, loadJournal d with
  | .ok (s, false), .ok transaction =>
    if w.matchesState c.store.paths s transaction then some (s, transaction) else none
  | _, _ => none

/-- `RuntimeRoutingPending`. -/
def runtimeRoutingPending (d : Disk) : Except Err Bool :=
  match c.store.loadRuntimeRouting c.codexConfigPath d with
  | .error e => .error e
  | .ok none => .ok false
  | .ok (some w) =>
    if (c.runtimeRoutingEvidence d w).isSome then .ok true else .error .runtimeRoutingConflict

/-! ## Beginning -/

/-- The witness of a fresh operation, before its first attempt is planned. -/
def newRuntimeRoutingJournal (s : State) (request : RuntimeRoutingRequest) (target : Backend) :
    RuntimeRoutingJournal where
  schema := runtimeRoutingSchemaVersion
  boundConfigPath := c.store.configPath
  boundCodexConfigPath := c.codexConfigPath
  intent := request.intent
  originBackend := s.appliedBackend
  targetBackend := target
  originGeneration := s.generation
  targetAppleActive := request.targetAppleActive
  phase := .transitioning
  attemptKind := .switch
  attemptDirection := request.direction
  attemptStartGeneration := 0
  attemptStartDesiredBackend := .unknown
  attemptStartAppliedBackend := .unknown
  attemptStartPhase := .recoveryRequired
  attemptOriginBackend := .unknown
  attemptTargetBackend := .unknown
  attemptRequestedGeneration := 0
  attemptRecoveryGeneration := 0
  attemptApplyingGeneration := 0
  attemptFinalGeneration := 0
  sourceJournalGeneration := 0
  sourceJournalOriginBackend := none
  sourceJournalTargetBackend := none
  resolvedGeneration := 0
  resolvedAppleActive := false

/-- The backend an operation moves Codex to. -/
def runtimeRoutingTarget (request : RuntimeRoutingRequest) : Backend :=
  if request.targetAppleActive then .localAppleContainer else .none

/-- Make a planned attempt durable; `report` is what a failed write is reported as. -/
def planAttempt (report : Err → Err) (planned : Option RuntimeRoutingJournal) :
    Op (Except Err RuntimeRoutingJournal) :=
  match planned with
  | none => refuse .runtimeRoutingWitness
  | some w =>
    guarded (c.store.writeRuntimeRouting c.codexConfigPath w) (fun e => refuse (report e))
      fun _ => pure (.ok w)

/-- Every later attempt reports a plan it could not write in the same words. -/
def witnessUnwritten (_ : Err) : Err := .runtimeRoutingWitness

/-- Stage the switch that the attempt `w` has planned. -/
def stageRuntimeRouting (w : RuntimeRoutingJournal) (s : State) (target : Backend) :
    Op (Except Err State) :=
  match requestBackendTransition s target with
  | .ok (staged, true) =>
    let next := { staged with generation := w.attemptRequestedGeneration }
    attempt (c.store.save next) fun _ => pure (.ok next)
  | _ => refuse .runtimeRoutingConflict

/-- The first attempt of an operation, from the stable state `s`. -/
def startRuntimeRouting (request : RuntimeRoutingRequest) (s : State) : Op (Except Err Unit) :=
  let target := runtimeRoutingTarget request
  if s.appliedBackend = target ∨
      (request.targetAppleActive = false ∧ s.appliedBackend ≠ .localAppleContainer) then
    refuse .runtimeRoutingConflict
  else
  attempt (c.preflightRequestedBackend target) fun _ =>
  -- the cross-journal authority: nothing else has changed when it is made durable
  attempt (c.planAttempt id ((c.newRuntimeRoutingJournal s request target).setAttempt .switch
    request.direction s none)) fun w =>
  attempt (c.stageRuntimeRouting w { s with knownLegacyBackupAndMigrate := false } target) fun _ =>
  pure (.ok ())

def beginRuntimeRouting (request : RuntimeRoutingRequest) : Op (Except Err Unit) :=
  c.recoveryGateActive >>= fun gated =>
  if gated then refuse .runtimeRoutingConflict else
  .read fun d =>
  match c.store.loadMaintenance d, c.store.loadRuntimeRouting c.codexConfigPath d with
  | .ok none, .ok (some existing) =>
    if existing.matchesRequest request ∧ (c.runtimeRoutingEvidence d existing).isSome then
      pure (.ok ())
    else refuse .runtimeRoutingConflict
  | .ok none, .ok none =>
    match loadJournal d, c.boundState d with
    | .ok none, .ok (s, false) =>
      if s.generation = request.expectedOriginRoutingGeneration ∧ stableRoutingState s then
        c.startRuntimeRouting request s
      else refuse .runtimeRoutingConflict
    | _, _ => refuse .runtimeRoutingConflict
  | _, _ => refuse .runtimeRoutingConflict

/-! ## Resolving -/

/-- The witness once `s` is known to be where the attempt was meant to end. -/
def resolvedJournal (w : RuntimeRoutingJournal) (direction : RuntimeRoutingDirection) (s : State) :
    RuntimeRoutingJournal :=
  { w with
    phase := .resolved
    attemptDirection := direction
    resolvedGeneration := s.generation
    resolvedAppleActive := s.appliedBackend = .localAppleContainer }

def markRuntimeRoutingResolved (w : RuntimeRoutingJournal) (direction : RuntimeRoutingDirection)
    (s : State) : Op (Except Err UInt64) :=
  if s.generation ≠ w.attemptFinalGeneration ∨
      stableStateForBackend s (w.selectedBackend direction) = false then
    refuse .runtimeRoutingConflict
  else
  attempt (c.store.writeRuntimeRouting c.codexConfigPath (resolvedJournal w direction s)) fun _ =>
  pure (.ok s.generation)

def verifyStableRuntimeRoute (s : State) (selected : Backend) : Op (Except Err Unit) :=
  .read fun d =>
  if stableStateForBackend s selected = false ∨ c.appliedRoutingDriftCheck d s = false then
    refuse .runtimeRoutingConflict
  else
  attempt (c.preflightBackendWithLegacyIntent selected false) fun _ =>
  require (.awaitFinalized s) .relayFinalization

/-- The common end of the attempts that run a transaction.  The status a transaction returns is
    that of the state it has just saved, unless the relay's health objects at that moment. -/
def settleRuntimeRouting (w : RuntimeRoutingJournal) (direction : RuntimeRoutingDirection)
    (selected : Backend) : Op (Except Err UInt64) :=
  attempt (require .statusCurrent .runtimeRoutingConflict) fun _ =>
  .read fun d => match c.store.read d with
    | .error _ => refuse .runtimeRoutingConflict
    | .ok (final, _) =>
      if final.generation ≠ w.attemptFinalGeneration ∨
          stableStateForBackend final selected = false then
        refuse .runtimeRoutingConflict
      else c.markRuntimeRoutingResolved w direction final

/-! ## The attempts -/

def applyPendingRuntimeRouting (w : RuntimeRoutingJournal) (s : State)
    (direction : RuntimeRoutingDirection) (selected : Backend) : Op (Except Err UInt64) :=
  if s.desiredBackend ≠ selected ∨ s.appliedBackend = selected then
    refuse .runtimeRoutingConflict
  else
  attempt (c.planAttempt witnessUnwritten (w.setAttempt .applyPending direction s none)) fun planned =>
  attempt (c.applyLocked s) fun _ =>
  c.settleRuntimeRouting planned direction selected

def switchStableRuntimeRouting (w : RuntimeRoutingJournal) (s : State)
    (direction : RuntimeRoutingDirection) (selected : Backend) : Op (Except Err UInt64) :=
  if s.appliedBackend = selected then refuse .runtimeRoutingConflict else
  attempt (c.preflightRequestedBackend selected) fun _ =>
  attempt (c.planAttempt witnessUnwritten (w.setAttempt .switch direction s none)) fun planned =>
  attempt (c.stageRuntimeRouting planned s selected) fun next =>
  c.applyPendingRuntimeRouting planned next direction selected

def resumeApplyingRuntimeRouting (w : RuntimeRoutingJournal) (s : State)
    (direction : RuntimeRoutingDirection) (selected : Backend) : Op (Except Err UInt64) :=
  if s.desiredBackend ≠ selected ∨ s.appliedBackend = selected then
    refuse .runtimeRoutingConflict
  else
  attempt (c.preflightBackendWithLegacyIntent selected s.knownLegacyBackupAndMigrate)
    fun preflight =>
  attempt (c.planAttempt witnessUnwritten (w.setAttempt .resumeApplying direction s none)) fun planned =>
  attempt (c.finishApplyingLockedWithOriginAuthority s preflight.config selected true
    preflight.legacyMigrationRequired) fun _ =>
  c.settleRuntimeRouting planned direction selected

/-- The stable state a replacement puts in the place of `s`. -/
def replacedState (s : State) (generation : UInt64) (selected : Backend) : State :=
  { s with
    generation := generation
    desiredBackend := selected
    appliedBackend := selected
    desiredMode := modeForBackend selected
    appliedMode := modeForBackend selected
    knownLegacyBackupAndMigrate := false
    phase := if selected = .none then .nativeActive else .relayActive }

def replaceRuntimeRoutingState (w : RuntimeRoutingJournal) (s : State)
    (direction : RuntimeRoutingDirection) (selected : Backend) : Op (Except Err UInt64) :=
  attempt (c.planAttempt witnessUnwritten (w.setAttempt .replace direction s none)) fun planned =>
  let final := replacedState s planned.attemptFinalGeneration selected
  attempt (c.store.replace final) fun _ =>
  attempt (c.verifyStableRuntimeRoute final selected) fun _ =>
  c.markRuntimeRoutingResolved planned direction final

/-- Plan a recovery through the parked state `recovery`, park it if it is not the state on disk,
    and apply it. -/
def recoverRuntimeRouting (w : RuntimeRoutingJournal) (s recovery : State)
    (direction : RuntimeRoutingDirection) (selected : Backend)
    (source : Option TransactionJournal) (park originAuthoritative legacyMigration : Bool) :
    Op (Except Err UInt64) :=
  attempt (c.planAttempt witnessUnwritten (w.setRecoveryAttempt direction s recovery.generation source))
    fun planned =>
  attempt (if park then c.store.replace recovery else pure (.ok ())) fun _ =>
  attempt (c.applyRecoveryLockedWithOriginAuthority recovery selected originAuthoritative
    legacyMigration) fun _ =>
  c.settleRuntimeRouting planned direction selected

/-- The parked state a journal stands for, never behind the state on disk. -/
def recoveryStateBeyond (j : TransactionJournal) (s : State) : Option State :=
  let recovery := c.recoveryStateFromJournal j
  if s.generation ≤ recovery.generation then some recovery
  else if s.generation > maxGeneration - 2 then none
  else some { recovery with
    generation := if s.phase = .recoveryRequired then s.generation else s.generation + 1 }

def reconcileRuntimeRoutingTransaction (w : RuntimeRoutingJournal) (s : State)
    (j : TransactionJournal) (direction : RuntimeRoutingDirection) (selected : Backend) :
    Op (Except Err UInt64) :=
  .read fun d =>
  if j.kind ≠ .routingSwitch ∨ (selected ≠ j.targetBackend ∧ selected ≠ j.originBackend) ∨
      c.journalMatchesCurrentFiles d j = false then
    refuse .runtimeRoutingConflict
  else if stableStateForBackend s selected ∧ j.targetBackend = selected ∧
      j.stage = .configMutated then
    -- the final state is already durable: only the journal is left to retire
    attempt removeJournal fun _ =>
    attempt (c.verifyStableRuntimeRoute s selected) fun _ =>
    c.markRuntimeRoutingResolved w direction s
  else match c.recoveryStateBeyond j s with
    | none => refuse .runtimeRoutingConflict
    | some recovery =>
      c.recoverRuntimeRouting w s recovery direction selected (some j) (s ≠ recovery)
        j.originAuthoritative j.knownLegacyBackupAndMigrate

def reconcileRuntimeRoutingWithoutTransaction (w : RuntimeRoutingJournal) (s : State)
    (direction : RuntimeRoutingDirection) (selected : Backend) : Op (Except Err UInt64) :=
  if s.desiredBackend = s.appliedBackend then
    if s.appliedBackend = selected then c.replaceRuntimeRoutingState w s direction selected
    else if s.appliedBackend ≠ w.selectedBackend (oppositeRuntimeDirection direction) then
      refuse .runtimeRoutingConflict
    else
      let recovery := { s with
        desiredBackend := selected
        desiredMode := modeForBackend selected }
      c.recoverRuntimeRouting w s recovery direction selected none false true false
  else if s.desiredBackend ≠ w.targetBackend ∨ s.appliedBackend ≠ w.originBackend then
    refuse .runtimeRoutingConflict
  else if selected = s.appliedBackend then c.replaceRuntimeRoutingState w s direction selected
  else if selected ≠ s.desiredBackend then refuse .runtimeRoutingConflict
  else c.recoverRuntimeRouting w s s direction selected none false true
    s.knownLegacyBackupAndMigrate

/-! ## The entry points -/

/-- What `ReconcileRuntimeRouting` does from the witness `w`, the state `s` and the journal. -/
def reconcileFrom (w : RuntimeRoutingJournal) (s : State) (transaction : Option TransactionJournal)
    (direction : RuntimeRoutingDirection) : Op (Except Err UInt64) :=
  let selected := w.selectedBackend direction
  match transaction with
  | some j => c.reconcileRuntimeRoutingTransaction w s j direction selected
  | none =>
    if stableStateForBackend s selected then
      attempt (c.verifyStableRuntimeRoute s selected) fun _ =>
      c.markRuntimeRoutingResolved w direction s
    else if s.phase = .recoveryRequired then
      c.reconcileRuntimeRoutingWithoutTransaction w s direction selected
    else if stableRoutingState s then c.switchStableRuntimeRouting w s direction selected
    else if pendingRoutingState s then
      if s.desiredBackend = selected then c.applyPendingRuntimeRouting w s direction selected
      else if s.appliedBackend = selected then c.replaceRuntimeRoutingState w s direction selected
      else refuse .runtimeRoutingConflict
    else if s.phase = .applying then
      if s.desiredBackend = selected then c.resumeApplyingRuntimeRouting w s direction selected
      else if s.appliedBackend = selected then c.replaceRuntimeRoutingState w s direction selected
      else refuse .runtimeRoutingConflict
    else refuse .runtimeRoutingConflict

def reconcileRuntimeRouting (request : RuntimeRoutingRequest) (desktopExited : Bool) :
    Op (Except Err UInt64) :=
  if !desktopExited then refuse .desktopExitConfirmation else
  if !request.valid then refuse .runtimeRoutingWitness else
  c.recoveryGateActive >>= fun gated =>
  if gated then refuse .runtimeRoutingConflict else
  .read fun d =>
  match c.store.loadMaintenance d, c.store.loadRuntimeRouting c.codexConfigPath d with
  | .ok none, .ok (some w) =>
    if !w.matchesRequest request then refuse .runtimeRoutingConflict else
    match c.runtimeRoutingEvidence d w with
    | none => refuse .runtimeRoutingConflict
    | some (s, transaction) => c.reconcileFrom w s transaction request.direction
  | _, _ => refuse .runtimeRoutingConflict

def switchRuntimeRouting (request : RuntimeRoutingRequest) (desktopExited : Bool) :
    Op (Except Err UInt64) :=
  if !desktopExited then refuse .desktopExitConfirmation else
  if !request.valid ∨ request.direction ≠ .completeTarget then refuse .runtimeRoutingWitness else
  attempt (c.beginRuntimeRouting request) fun _ =>
  c.reconcileRuntimeRouting request desktopExited

/-- `AcknowledgeRuntimeRouting`: the only operation that removes the witness. -/
def acknowledgeRuntimeRouting (request : RuntimeRoutingRequest) (resolvedGeneration : UInt64) :
    Op (Except Err Unit) :=
  if !request.valid ∨ resolvedGeneration = 0 then refuse .runtimeRoutingWitness else
  .read fun d =>
  match c.store.loadRuntimeRouting c.codexConfigPath d, c.store.loadMaintenance d with
  | .ok (some w), .ok none =>
    if w.matchesRequest request ∧ w.phase = .resolved ∧ w.resolvedGeneration = resolvedGeneration ∧
        w.resolvedAppleActive =
          decide (w.selectedBackend request.direction = .localAppleContainer) then
      match c.runtimeRoutingEvidence d w with
      | some (s, none) =>
        if s.generation = resolvedGeneration then removeRuntimeRouting
        else refuse .runtimeRoutingConflict
      | _ => refuse .runtimeRoutingConflict
    else refuse .runtimeRoutingConflict
  | _, _ => refuse .runtimeRoutingConflict

end Controller

namespace Sample

/-- The activation of a first container. -/
def intent : Intent where
  operationID := "operation-000001"
  installationID := "installation-0001"
  oldManifestSHA256 := "absent"
  newManifestSHA256 := "aaaaaaaaaaaaaaaaaaaaaaaaaaaaaaaaaaaaaaaaaaaaaaaaaaaaaaaaaaaaaaaa"
  oldImageDigest := "absent"
  newImageDigest := "sha256:bbbbbbbbbbbbbbbbbbbbbbbbbbbbbbbbbbbbbbbbbbbbbbbbbbbbbbbbbbbbbbbb"
  oldStateGeneration := 0
  newStateGeneration := 1

/-- The External route it starts from. -/
def externalActive : Disk := routed "remote" (state 5 .external .external .relayActive)

/-- Its routing half, from generation 5. -/
def request (direction : RuntimeRoutingDirection) : RuntimeRoutingRequest :=
  ⟨intent, 5, true, direction⟩

end Sample

end OpenCodexRelay.Routing
