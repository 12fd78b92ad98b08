/-
  Changing the external gateway while its route is live.

  A gateway change rewrites `relay.json` and, when the External route is active, reloads the
  resident runtime under the same backend:

      back the file up · save applying · journal(prepared) · park · write the candidate
      · journal(config_mutated) · runtime · save final · WAIT · remove journal · remove backup

  Note the order at the end: the forward path waits for the relay's acknowledgement while its own
  journal is still on disk.  The in-line rollback and the explicit recovery below remove the journal
  first and wait afterwards.

  Two digests of a configuration are in play: that of the bytes on disk (`fingerprintOptional`) and
  that of its re-encoding (`configDigest`).  They agree on files this program has written itself.
-/
import OpenCodexRelay.Routing.Controller

namespace OpenCodexRelay.Routing

open Durable

structure GatewayCandidate where
  upstreamBaseURL : String
  /-- Empty: keep the current profile. -/
  authenticationProfile : String
  allowInsecurePrivateIP : Bool
  deriving DecidableEq, Repr

structure GatewayApplyReceipt where
  configDigest : Fingerprint
  routingGeneration : UInt64
  runtimeReloaded : Bool
  deriving DecidableEq, Repr

structure GatewayPreflight where
  current : Config
  candidate : Config
  configDigest : Fingerprint
  state : State

inductive RecoveryAction where
  | complete | rollback
  deriving DecidableEq, Repr

namespace Controller

variable (c : Controller)

/-- `config.Write`: the replacement may take effect and the directory sync still fail. -/
def writeConfig (cfg : Config) : Op (Except Err Unit) :=
  match c.codec.written cfg with
  | none => refuse .configUnavailable
  | some text =>
    attempt (Routing.store (.relay text)) fun _ => require .syncConfigDirectory .io

/-- The digest of a configuration's re-encoding. -/
def configDigest (cfg : Config) : Fingerprint := .sha256 (c.sha256 (c.codec.encode cfg))

/-- The candidate a request makes of the current configuration. -/
def gatewayCandidate (current : Config) (request : GatewayCandidate) : Option Config :=
  match c.codec.normalizeExternalGatewayURL request.upstreamBaseURL with
  | none => none
  | some normalized =>
    let candidate := { current with
      upstreamBaseURL := normalized
      credentials := { current.credentials with
        authenticationProfile := if request.authenticationProfile = "" then
            current.credentials.authenticationProfile
          else request.authenticationProfile
        allowInsecurePrivateIP := request.allowInsecurePrivateIP } }
    if c.codec.validate candidate then some candidate else none

def gatewayPreflight (request : GatewayCandidate) : Op (Except Err GatewayPreflight) :=
  c.interlocked .recoveryRequired <| .read fun d =>
  match c.codec.loadFile d.relay, c.fingerprintOptional d.relay with
  | some current, .ok (.sha256 digest) =>
    if current.upstreamMode ≠ .externalGateway then refuse .gatewayUnsupported else
    match c.gatewayCandidate current request with
    | none => refuse .gatewayInvalidAddress
    | some candidate => match c.store.read d with
      | .ok (s, false) =>
        if s.validateForCodexConfig c.store.paths c.store.configPath c.codexConfigPath ≠ .ok () then
          refuse .gatewayRoutingChanged
        else if s.phase = .applying ∨ s.phase = .recoveryRequired then refuse .recoveryRequired
        else if s.phase ≠ .relayActive ∧ s.phase ≠ .nativeActive then
          refuse .gatewayTransitionPending
        else withoutJournal <|
          attempt (require (.loadCredentials candidate.credentials)
            .gatewayCredentialUnavailable) fun _ =>
          attempt (require (.validateGateway candidate) .gatewayValidation) fun _ =>
          -- look again: neither the file nor the routing state may have moved meanwhile
          .read fun after =>
          if c.fingerprintOptional after.relay ≠ .ok (.sha256 digest) then
            refuse .gatewayConfigChanged
          else match c.store.read after with
            | .ok (s', false) =>
              if s'.generation ≠ s.generation ∨ s'.phase ≠ s.phase then
                refuse .gatewayRoutingChanged
              else
                attempt (require (.credentialsUnchanged candidate.credentials)
                  .gatewayCredentialUnavailable) fun _ =>
                pure (.ok ⟨current, candidate, .sha256 digest, s⟩)
            | _ => refuse .gatewayRoutingChanged
      | _ => refuse .gatewayRoutingChanged
  | _, _ => refuse .gatewayUnsupported

/-- Park a reload: the journal and the backup stay as evidence. -/
def parkGatewayReloadLocked {α : Type} (s : State) (cause : Err) : Op (Except Err α) := do
  let _ ← c.store.save { s with phase := .recoveryRequired, generation := s.generation + 1 }
  refuse cause

def createGatewayBackup : Op (Except Err Unit) :=
  .read fun d => match d.relay, d.gatewayBackup with
    | .content _, .absent => Routing.store .linkGatewayBackup
    | _, _ => refuse .recoveryRequired

def removeGatewayBackup : Op (Except Err Unit) :=
  .read fun d => match d.gatewayBackup with
    | .absent => pure (.ok ())
    | .irregular => refuse .io
    | .content _ => Routing.store .removeGatewayBackup

/-- The state a reload in `applying` ends in. -/
def reloadedState (applying : State) : State :=
  { applying with phase := .relayActive, generation := applying.generation + 1 }

/-- Roll a reload back: re-encode the origin, reload the runtime, and finish. -/
def rollbackGatewayReloadLocked (applying : State) (origin : Config)
    (journal : Option TransactionJournal) (cause : Err) : Op (Except Err GatewayApplyReceipt) :=
  let originDigest := c.configDigest origin
  let park := fun s => c.parkGatewayReloadLocked s cause
  guarded (c.writeConfig origin) (fun _ => park applying) fun _ =>
  .read fun d =>
  let base := match journal with
    | some j => Except.ok j
    | none => (c.journalFor d applying .external false).map fun (j : TransactionJournal) => { j with
        kind := .gatewayReload
        originRelayConfigFingerprint := some originDigest
        targetRelayConfigFingerprint := some originDigest
        backupConfigFingerprint := some originDigest }
  match base with
  | .error _ => park applying
  | .ok j =>
    let prepared := { j with
      stage := .prepared
      relayConfigFingerprint := some originDigest
      originRelayConfigFingerprint := j.originRelayConfigFingerprint.orElse fun _ =>
        some originDigest
      targetRelayConfigFingerprint := j.targetRelayConfigFingerprint.orElse fun _ =>
        some originDigest
      backupConfigFingerprint := j.backupConfigFingerprint.orElse fun _ => some originDigest }
    guarded (writeJournal prepared) (fun _ => park applying) fun _ =>
    if !c.runtimeControl then park applying else
    guarded (require (.runtimeApply applying.generation .external) .gatewayRuntimeSwap)
      (fun _ => park applying) fun _ =>
    let final := reloadedState applying
    guarded (c.store.save final) (fun _ => park applying) fun _ =>
    guarded removeJournal (fun _ => park final) fun _ =>
    guarded (require (.awaitFinalized final) .relayFinalization)
      (fun _ => do
        let _ ← writeJournal prepared
        park final) fun _ =>
    guarded removeGatewayBackup
      (fun _ => do
        let _ ← writeJournal prepared
        park final) fun _ =>
    refuse cause

/-- The forward path of a reload, with `rollback` as its exit once the backup has been taken. -/
def gatewayReloadWith (rollback : State → Option TransactionJournal → Err →
      Op (Except Err GatewayApplyReceipt)) (s : State) (candidate : Config) :
    Op (Except Err GatewayApplyReceipt) :=
  if !c.runtimeControl then refuse .gatewayRuntimeSwap else
  .read fun d =>
  match c.fingerprintOptional d.relay with
  | .ok (.sha256 digest) =>
    let originDigest := Fingerprint.sha256 digest
    let targetDigest := c.configDigest candidate
    guarded createGatewayBackup (fun _ => refuse .recoveryRequired) fun _ =>
    .read fun linked =>
    if c.fingerprintOptional linked.gatewayBackup ≠ .ok originDigest then
      refuse .recoveryRequired
    else
    let applying := { s with phase := .applying, generation := s.generation + 1 }
    guarded (c.store.save applying)
      (fun e => do
        let _ ← removeGatewayBackup
        refuse e) fun _ =>
    guarded (c.newJournal applying .external false)
      (fun _ => rollback applying none .gatewayRuntimeSwap) fun fresh =>
    let journal := { fresh with
      kind := .gatewayReload
      stage := .prepared
      originRelayConfigFingerprint := some originDigest
      targetRelayConfigFingerprint := some targetDigest
      backupConfigFingerprint := some originDigest
      relayConfigFingerprint := some originDigest }
    guarded (writeJournal journal) (fun _ => rollback applying (some journal) .gatewayRuntimeSwap) fun _ =>
    guarded (require (.awaitParked applying) .relayAcknowledgement)
      (fun _ => rollback applying (some journal) .gatewayRuntimeSwap) fun _ =>
    guarded (c.writeConfig candidate)
      (fun _ => rollback applying (some journal) .gatewayConfigChanged) fun _ =>
    let mutated := { journal with
      stage := .configMutated
      relayConfigFingerprint := some targetDigest }
    guarded (writeJournal mutated) (fun _ => rollback applying (some mutated) .gatewayRuntimeSwap) fun _ =>
    guarded (require (.credentialsUnchanged candidate.credentials) .gatewayCredentialUnavailable)
      (fun e => rollback applying (some mutated) e) fun _ =>
    guarded (require (.runtimeApply applying.generation .external) .gatewayRuntimeSwap)
      (fun e => rollback applying (some mutated) e) fun _ =>
    let final := reloadedState applying
    guarded (c.store.save final)
      (fun _ => c.parkGatewayReloadLocked applying .gatewayRuntimeSwap) fun _ =>
    -- the journal is still there
    guarded (require (.awaitFinalized final) .relayFinalization)
      (fun _ => c.parkGatewayReloadLocked final .gatewayRuntimeSwap) fun _ =>
    .read fun after =>
    if c.fingerprintOptional after.relay ≠ .ok targetDigest then
      c.parkGatewayReloadLocked final .gatewayConfigChanged
    else
    guarded removeJournal (fun _ => c.parkGatewayReloadLocked final .gatewayRuntimeSwap) fun _ =>
    guarded removeGatewayBackup
      (fun _ => do
        let _ ← writeJournal mutated
        c.parkGatewayReloadLocked final .gatewayRuntimeSwap) fun _ =>
    pure (.ok ⟨targetDigest, final.generation, true⟩)
  | _ => refuse .gatewayConfigChanged

def applyGatewayReloadLocked (s : State) (current candidate : Config) :
    Op (Except Err GatewayApplyReceipt) :=
  c.gatewayReloadWith (fun applying journal cause =>
    c.rollbackGatewayReloadLocked applying current journal cause) s candidate

/-- Without a live External route only the file changes. -/
def writeInactiveGateway (s : State) (current candidate : Config) (currentDigest : Fingerprint) :
    Op (Except Err GatewayApplyReceipt) :=
  let targetDigest := c.configDigest candidate
  guarded (c.writeConfig candidate) (fun _ => refuse .gatewayConfigChanged) fun _ =>
  guarded (require (.credentialsUnchanged candidate.credentials) .gatewayCredentialUnavailable)
    (fun e => .read fun d =>
      if c.fingerprintOptional d.relay ≠ .ok targetDigest then refuse .gatewayConfigChanged else
      guarded (c.writeConfig current) (fun _ => refuse .gatewayConfigChanged) fun _ =>
      .read fun restored =>
      if c.fingerprintOptional restored.relay ≠ .ok currentDigest then
        refuse .gatewayConfigChanged
      else refuse e) fun _ =>
  .read fun d =>
  if c.fingerprintOptional d.relay ≠ .ok targetDigest then refuse .gatewayConfigChanged
  else pure (.ok ⟨targetDigest, s.generation, false⟩)

/-- `GatewayApply` once preflight and compare-and-swap have passed. -/
def gatewayApplyLocked (s : State) (current candidate : Config) (currentDigest : Fingerprint) :
    Op (Except Err GatewayApplyReceipt) :=
  if currentDigest = c.configDigest candidate then
    pure (.ok ⟨currentDigest, s.generation, false⟩)
  else if s.phase = .relayActive ∧ s.appliedBackend = .external then
    c.applyGatewayReloadLocked s current candidate
  else c.writeInactiveGateway s current candidate currentDigest

def gatewayApply (request : GatewayCandidate) (expectedConfigDigest : Fingerprint)
    (expectedRoutingGeneration : UInt64) : Op (Except Err GatewayApplyReceipt) :=
  if expectedRoutingGeneration = 0 then refuse .gatewayConfigChanged else
  attempt (c.gatewayPreflight request) fun preflight =>
  if preflight.configDigest ≠ expectedConfigDigest then refuse .gatewayConfigChanged else
  if preflight.state.generation ≠ expectedRoutingGeneration then refuse .gatewayRoutingChanged else
  c.interlocked .recoveryRequired <| withoutJournal <| .read fun d =>
  match c.boundState d with
  | .ok (s, false) =>
    if s.generation ≠ expectedRoutingGeneration then refuse .gatewayRoutingChanged else
    if s.phase ≠ .relayActive ∧ s.phase ≠ .nativeActive then refuse .gatewayTransitionPending else
    guarded removeGatewayBackup (fun _ => refuse .recoveryRequired) fun _ =>
    .read fun d =>
    match c.fingerprintOptional d.relay, c.codec.loadFile d.relay with
    | .ok currentDigest, some current =>
      if currentDigest ≠ expectedConfigDigest ∨
          c.configDigest current ≠ c.configDigest preflight.current then
        refuse .gatewayConfigChanged
      else
      attempt (require (.credentialsUnchanged preflight.candidate.credentials)
        .gatewayCredentialUnavailable) fun _ =>
      c.gatewayApplyLocked s current preflight.candidate currentDigest
    | _, _ => refuse .gatewayConfigChanged
  | _ => refuse .gatewayRoutingChanged

/-! ## Explicit recovery of a reload -/

def parkGatewayRecoveryLocked (s : State) : Op (Except Err Unit) := do
  let _ ← c.store.save { s with phase := .recoveryRequired, generation := s.generation + 1 }
  refuse .recoveryRequired

/-- The configuration a gateway recovery selects, with the stage it restores, if the evidence
    supports it. -/
def gatewayRecoverySelection (d : Disk) (j : TransactionJournal) (action : RecoveryAction) :
    Option (Config × TransactionStage) :=
  if !c.runtimeControl then none else
  match c.gatewayJournalObservedStage d j with
  | none => none
  | some observed => match action with
    | .complete =>
      if observed ≠ .configMutated then none else
      match c.codec.loadFile d.relay with
      | none => none
      | some selected =>
        if some (c.configDigest selected) ≠ j.targetRelayConfigFingerprint then none
        else some (selected, .configMutated)
    | .rollback =>
      match c.codec.loadFile d.gatewayBackup with
      | none => none
      | some selected =>
        if some (c.configDigest selected) ≠ j.originRelayConfigFingerprint then none
        else some (selected, .prepared)

/-- The parked state a gateway recovery starts from, and whether it has to be written.  `s` is the
    bound state on disk, if there is one. -/
def gatewayRecoveryState (s : Option State) (j : TransactionJournal) : State × Bool :=
  match s with
  | some s =>
    if s.phase = .recoveryRequired then (s, false)
    else
      let recovery := c.recoveryStateFromJournal j
      if recovery.generation ≤ s.generation then
        ({ recovery with generation := s.generation + 1 }, true)
      else (recovery, true)
  | none => (c.recoveryStateFromJournal j, true)

/-- The applying state of a gateway recovery. -/
def gatewayRecoveryApplying (recovery : State) : State :=
  { recovery with
    desiredMode := .relay
    appliedMode := .relay
    desiredBackend := .external
    appliedBackend := .external
    phase := .applying
    generation := recovery.generation + 1 }

/-- The part of a gateway recovery after its evidence has been checked. -/
def finishGatewayRecovery (recovery : State) (j : TransactionJournal) (selected : Config)
    (stage : TransactionStage) : Op (Except Err Unit) :=
  guarded (c.writeConfig selected) (fun _ => refuse .recoveryRequired) fun _ =>
  let applying := gatewayRecoveryApplying recovery
  guarded (c.store.replace applying) (fun _ => refuse .recoveryRequired) fun _ =>
  let journal := { j with
    generation := applying.generation
    stage := stage
    relayConfigFingerprint := some (c.configDigest selected) }
  let park := c.parkGatewayRecoveryLocked
  guarded (writeJournal journal) (fun _ => park applying) fun _ =>
  guarded (require (.awaitParked applying) .relayAcknowledgement) (fun _ => park applying) fun _ =>
  guarded (require (.runtimeApply applying.generation .external) .gatewayRuntimeSwap)
    (fun _ => park applying) fun _ =>
  let final := reloadedState applying
  guarded (c.store.save final) (fun _ => park applying) fun _ =>
  guarded removeJournal (fun _ => park final) fun _ =>
  guarded (require (.awaitFinalized final) .relayFinalization)
    (fun _ => do
      let _ ← writeJournal journal
      park final) fun _ =>
  guarded removeGatewayBackup
    (fun _ => do
      let _ ← writeJournal journal
      park final) fun _ =>
  pure (.ok ())

/-- Act on a selected configuration; `s` is the bound state on disk, if it could be read. -/
def applyGatewayRecovery (s : Option State) (j : TransactionJournal) (selected : Config)
    (stage : TransactionStage) : Op (Except Err Unit) :=
  let (recovery, replaced) := c.gatewayRecoveryState s j
  if replaced then
    guarded (c.store.replace recovery) (fun _ => refuse .recoveryRequired) fun _ =>
    c.finishGatewayRecovery recovery j selected stage
  else c.finishGatewayRecovery recovery j selected stage

def recoverGatewayLocked (s : Option State) (j : TransactionJournal) (action : RecoveryAction) :
    Op (Except Err Unit) :=
  .read fun d => match c.gatewayRecoverySelection d j action with
    | none => refuse .recoveryRequired
    | some (selected, stage) => c.applyGatewayRecovery s j selected stage

end Controller

end OpenCodexRelay.Routing
