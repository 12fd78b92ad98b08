/-
  The three crash witnesses that lie next to the routing state.

  1. `TransactionJournal` — the controller's own journal: one switch or one gateway reload is in
     progress, from this backend to that one, and these were the fingerprints of the edited files.
  2. `MaintenanceJournal` — the resident relay's half of a live-image replacement.
  3. `RuntimeRoutingJournal` — the routing half of an activation, restart or stop of the container.
     It outlives many controller transactions: the `attempt*` fields are rewritten before every
     routing mutation and PLAN the generations that mutation will go through.

  Each record has its shape check (`validate`) and, for the last two, the predicate that relates
  it to the routing state (`matchesState`).  Nothing here reads or writes a file.
-/
import OpenCodexRelay.Routing.State

namespace OpenCodexRelay.Routing

/-! ## Identifiers -/

/-- The largest generation. -/
def maxGeneration : UInt64 := 0 - 1

/-- The bytes of a string: Go measures and cuts strings in bytes.  Every byte of a character beyond
    ASCII is at least `0x80`, so the checks below may look at bytes instead of characters. -/
def bytes (value : String) : List UInt8 := value.toByteArray.data.toList

def isLowerHex (value : List UInt8) : Bool :=
  value.all fun b => (0x30 ≤ b && b ≤ 0x39) || (0x61 ≤ b && b ≤ 0x66)

/-- The 64 hexadecimal digits of a SHA-256 digest. -/
def validDigits (value : List UInt8) : Bool := value.length = 64 && isLowerHex value

def validSHA256 (value : String) : Bool := validDigits (bytes value)

def validOCIDigest (value : String) : Bool :=
  (bytes value).take 7 = bytes "sha256:" && validDigits ((bytes value).drop 7)

def validMaintenanceID (value : String) : Bool :=
  16 ≤ (bytes value).length && (bytes value).length ≤ 128 && (bytes value).all fun b =>
    (0x61 ≤ b && b ≤ 0x7a) || (0x41 ≤ b && b ≤ 0x5a) || (0x30 ≤ b && b ≤ 0x39) ||
      -- a hyphen, an underscore or a full stop
      b = 0x2d || b = 0x5f || b = 0x2e

/-- The non-secret identity of one container operation.  `MaintenanceIntent` and
    `RuntimeRoutingIntent` have the same fields and different checks. -/
structure Intent where
  operationID : String
  installationID : String
  oldManifestSHA256 : String
  newManifestSHA256 : String
  oldImageDigest : String
  newImageDigest : String
  oldStateGeneration : UInt64
  newStateGeneration : UInt64
  deriving DecidableEq, Repr

/-- `MaintenanceIntent.validate`: both artifacts exist, differ, and are one generation apart. -/
def Intent.validMaintenance (i : Intent) : Bool :=
  validMaintenanceID i.operationID && validMaintenanceID i.installationID &&
  validSHA256 i.oldManifestSHA256 && validSHA256 i.newManifestSHA256 &&
  validOCIDigest i.oldImageDigest && validOCIDigest i.newImageDigest &&
  i.oldManifestSHA256 ≠ i.newManifestSHA256 && i.oldImageDigest ≠ i.newImageDigest &&
  i.oldStateGeneration ≠ 0 && i.oldStateGeneration ≠ maxGeneration &&
  i.newStateGeneration = i.oldStateGeneration + 1

def runtimeArtifactAbsent (manifest image : String) (generation : UInt64) : Bool :=
  manifest = "absent" && image = "absent" && generation = 0

def validRuntimeArtifact (manifest image : String) (generation : UInt64) : Bool :=
  runtimeArtifactAbsent manifest image generation ||
    (validSHA256 manifest && validOCIDigest image && generation ≠ 0)

/-- `RuntimeRoutingIntent.validate`: an activation needs a new artifact, a stop needs an old one
    and no new one. -/
def Intent.validRouting (i : Intent) (targetAppleActive : Bool) : Bool :=
  validMaintenanceID i.operationID && validMaintenanceID i.installationID &&
  validRuntimeArtifact i.oldManifestSHA256 i.oldImageDigest i.oldStateGeneration &&
  validRuntimeArtifact i.newManifestSHA256 i.newImageDigest i.newStateGeneration &&
  let oldAbsent := runtimeArtifactAbsent i.oldManifestSHA256 i.oldImageDigest i.oldStateGeneration
  let newAbsent := runtimeArtifactAbsent i.newManifestSHA256 i.newImageDigest i.newStateGeneration
  if targetAppleActive then !newAbsent else !oldAbsent && newAbsent

/-! ## The controller's transaction journal -/

/-- What `fingerprintOptional` returns: no file, or the hexadecimal digest of one. -/
inductive Fingerprint where
  | absent
  | sha256 (digest : String)
  deriving DecidableEq, Repr

inductive TransactionKind where
  | routingSwitch | gatewayReload
  deriving DecidableEq, Repr

inductive TransactionStage where
  | prepared | configMutated
  deriving DecidableEq, Repr

/-- An empty fingerprint is `none`.  A fingerprint that is neither empty, nor `absent`, nor 64
    lower-case hexadecimal digits cannot be written down here: `loadJournal` refuses such a file
    like any other malformed one. -/
structure TransactionJournal where
  schema : Int
  kind : TransactionKind
  generation : UInt64
  target : Mode
  origin : Mode
  targetBackend : Backend
  originBackend : Backend
  /-- False only when the original witness was lost: such a journal proves no rollback. -/
  originAuthoritative : Bool
  knownLegacyBackupAndMigrate : Bool
  stage : TransactionStage
  relayConfigFingerprint : Option Fingerprint
  codexConfigFingerprint : Option Fingerprint
  interactiveFingerprint : Option Fingerprint
  originRelayConfigFingerprint : Option Fingerprint
  targetRelayConfigFingerprint : Option Fingerprint
  backupConfigFingerprint : Option Fingerprint
  deriving DecidableEq, Repr

def normalizeTransactionJournal (j : TransactionJournal) : TransactionJournal :=
  if j.schema = legacySchemaVersion then
    { j with
      schema := schemaVersion
      targetBackend := backendForLegacyMode j.target
      originBackend := backendForLegacyMode j.origin
      originAuthoritative := true }
  else if j.schema = explicitBackendSchemaVersion ∧
      validSchemaV2Backend j.targetBackend ∧ validSchemaV2Backend j.originBackend then
    { j with schema := schemaVersion }
  else j

def TransactionJournal.valid (j : TransactionJournal) : Bool :=
  j.schema = schemaVersion && j.generation ≠ 0 &&
  validBackend j.targetBackend && validBackend j.originBackend &&
  j.target = modeForBackend j.targetBackend && j.origin = modeForBackend j.originBackend &&
  (j.kind ≠ .gatewayReload ||
    (j.targetBackend = .external && j.originBackend = .external &&
      j.originRelayConfigFingerprint.isSome && j.targetRelayConfigFingerprint.isSome &&
      j.backupConfigFingerprint.isSome)) &&
  (!j.knownLegacyBackupAndMigrate || (j.kind = .routingSwitch && j.targetBackend = .external))

theorem normalizeTransactionJournal_of_schema {j : TransactionJournal}
    (h : j.schema = schemaVersion) : normalizeTransactionJournal j = j := by
  have h3 : j.schema = 3 := h
  unfold normalizeTransactionJournal
  rw [if_neg (by rw [h3]; decide), if_neg (by rw [h3]; exact fun hc => absurd hc.1 (by decide))]

theorem TransactionJournal.valid_schema {j : TransactionJournal} (h : j.valid = true) :
    j.schema = schemaVersion := by
  simp only [valid, Bool.and_eq_true, decide_eq_true_eq] at h
  exact h.1.1.1.1.1.1.1

/-! ## The maintenance journal -/

def maintenanceSchemaVersion : Int := 1

structure MaintenanceWitness where
  schema : Int
  backend : Backend
  originRoutingGeneration : UInt64
  preparedRoutingGeneration : UInt64
  finalRoutingGeneration : UInt64
  intent : Intent
  deriving DecidableEq, Repr

def newMaintenanceWitness (generation : UInt64) (intent : Intent) : Option MaintenanceWitness :=
  if generation = 0 ∨ generation > maxGeneration - 2 ∨ !intent.validMaintenance then none
  else some {
    schema := maintenanceSchemaVersion
    backend := .localAppleContainer
    originRoutingGeneration := generation
    preparedRoutingGeneration := generation + 1
    finalRoutingGeneration := generation + 2
    intent := intent }

def MaintenanceWitness.valid (w : MaintenanceWitness) : Bool :=
  w.schema = maintenanceSchemaVersion && w.backend = .localAppleContainer &&
  w.originRoutingGeneration ≠ 0 && w.originRoutingGeneration ≤ maxGeneration - 2 &&
  w.preparedRoutingGeneration = w.originRoutingGeneration + 1 &&
  w.finalRoutingGeneration = w.preparedRoutingGeneration + 1 && w.intent.validMaintenance

structure MaintenanceJournal where
  schema : Int
  boundConfigPath : String
  witness : MaintenanceWitness
  deriving DecidableEq, Repr

def MaintenanceJournal.valid (j : MaintenanceJournal) (bound : String) : Bool :=
  j.schema = maintenanceSchemaVersion && j.boundConfigPath = bound && j.witness.valid

def MaintenanceJournal.matchesState (j : MaintenanceJournal) (s : State) : Bool :=
  if !j.witness.valid || s.desiredBackend ≠ .localAppleContainer ||
      s.appliedBackend ≠ .localAppleContainer || s.desiredMode ≠ .relay || s.appliedMode ≠ .relay
  then false
  else if s.generation = j.witness.originRoutingGeneration then s.phase = .relayActive
  else if s.generation = j.witness.preparedRoutingGeneration then s.phase = .applying
  else if s.generation = j.witness.finalRoutingGeneration then s.phase = .relayActive
  else false

/-! ## The runtime-routing witness -/

def runtimeRoutingSchemaVersion : Int := 1

inductive RuntimeRoutingDirection where
  | completeTarget | restoreOrigin
  deriving DecidableEq, Repr

def oppositeRuntimeDirection : RuntimeRoutingDirection → RuntimeRoutingDirection
  | .restoreOrigin => .completeTarget
  | .completeTarget => .restoreOrigin

structure RuntimeRoutingRequest where
  intent : Intent
  expectedOriginRoutingGeneration : UInt64
  targetAppleActive : Bool
  direction : RuntimeRoutingDirection
  deriving DecidableEq, Repr

def RuntimeRoutingRequest.valid (r : RuntimeRoutingRequest) : Bool :=
  r.expectedOriginRoutingGeneration ≠ 0 &&
  r.expectedOriginRoutingGeneration ≤ maxGeneration - 3 && r.intent.validRouting r.targetAppleActive

inductive RuntimeRoutingPhase where
  | transitioning | resolved
  deriving DecidableEq, Repr

inductive AttemptKind where
  | switch | applyPending | resumeApplying | recover | replace
  deriving DecidableEq, Repr

/-- Generations that are zero are the fields JSON leaves out. -/
structure RuntimeRoutingJournal where
  schema : Int
  boundConfigPath : String
  boundCodexConfigPath : String
  intent : Intent
  originBackend : Backend
  targetBackend : Backend
  originGeneration : UInt64
  targetAppleActive : Bool
  phase : RuntimeRoutingPhase
  attemptKind : AttemptKind
  attemptDirection : RuntimeRoutingDirection
  attemptStartGeneration : UInt64
  attemptStartDesiredBackend : Backend
  attemptStartAppliedBackend : Backend
  attemptStartPhase : Phase
  attemptOriginBackend : Backend
  attemptTargetBackend : Backend
  attemptRequestedGeneration : UInt64
  attemptRecoveryGeneration : UInt64
  attemptApplyingGeneration : UInt64
  attemptFinalGeneration : UInt64
  sourceJournalGeneration : UInt64
  sourceJournalOriginBackend : Option Backend
  sourceJournalTargetBackend : Option Backend
  resolvedGeneration : UInt64
  resolvedAppleActive : Bool
  deriving DecidableEq, Repr

namespace RuntimeRoutingJournal

def selectedBackend (j : RuntimeRoutingJournal) :
    RuntimeRoutingDirection → Backend
  | .restoreOrigin => j.originBackend
  | .completeTarget => j.targetBackend

/-- Each attempt kind plans its generations from the generation it starts at. -/
def validAttemptGenerations (j : RuntimeRoutingJournal) : Bool :=
  let start := j.attemptStartGeneration
  match j.attemptKind with
  | .switch =>
    start ≤ maxGeneration - 3 && j.attemptRequestedGeneration = start + 1 &&
      j.attemptRecoveryGeneration = 0 && j.attemptApplyingGeneration = start + 2 &&
      j.attemptFinalGeneration = start + 3
  | .applyPending =>
    start ≤ maxGeneration - 2 && j.attemptRequestedGeneration = start &&
      j.attemptRecoveryGeneration = 0 && j.attemptApplyingGeneration = start + 1 &&
      j.attemptFinalGeneration = start + 2
  | .resumeApplying =>
    start ≠ maxGeneration && j.attemptRequestedGeneration = 0 &&
      j.attemptRecoveryGeneration = 0 && j.attemptApplyingGeneration = start &&
      j.attemptFinalGeneration = start + 1
  | .recover =>
    j.attemptRequestedGeneration = 0 && j.attemptRecoveryGeneration ≠ 0 &&
      j.attemptRecoveryGeneration ≤ maxGeneration - 2 &&
      j.attemptApplyingGeneration = j.attemptRecoveryGeneration + 1 &&
      j.attemptFinalGeneration = j.attemptRecoveryGeneration + 2
  | .replace =>
    start ≠ maxGeneration && j.attemptRequestedGeneration = 0 &&
      j.attemptRecoveryGeneration = 0 && j.attemptApplyingGeneration = 0 &&
      j.attemptFinalGeneration = start + 1

/-- The fixed half of the record: what operation this is, between which backends. -/
def validRoute (j : RuntimeRoutingJournal) : Bool :=
  j.schema = runtimeRoutingSchemaVersion &&
  j.originGeneration ≠ 0 && j.originGeneration ≤ maxGeneration - 3 &&
  j.intent.validRouting j.targetAppleActive && validBackend j.originBackend &&
  validBackend j.targetBackend && j.originBackend ≠ j.targetBackend &&
  (!j.targetAppleActive || j.targetBackend = .localAppleContainer) &&
  (j.targetAppleActive ||
    (j.targetBackend = .none && j.originBackend = .localAppleContainer)) &&
  (!j.targetAppleActive || j.originBackend ≠ .localAppleContainer)

/-- The rewritten half of the record: the attempt, its source journal and its resolution. -/
def validAttempt (j : RuntimeRoutingJournal) : Bool :=
  let selected := j.selectedBackend j.attemptDirection
  j.attemptStartGeneration ≠ 0 && validBackend j.attemptStartDesiredBackend &&
  validBackend j.attemptStartAppliedBackend && j.attemptTargetBackend = selected &&
  validBackend j.attemptOriginBackend &&
  (j.attemptOriginBackend ≠ j.attemptTargetBackend || j.attemptKind = .replace) &&
  j.attemptFinalGeneration ≠ 0 &&
  (if j.sourceJournalGeneration = 0 then
    j.sourceJournalOriginBackend = none && j.sourceJournalTargetBackend = none
  else
    j.sourceJournalOriginBackend.any validBackend && j.sourceJournalTargetBackend.any validBackend &&
      j.sourceJournalOriginBackend ≠ j.sourceJournalTargetBackend) &&
  j.validAttemptGenerations &&
  (match j.phase with
  | .resolved =>
    j.resolvedGeneration ≠ 0 && j.resolvedGeneration = j.attemptFinalGeneration &&
      j.resolvedAppleActive = (decide (selected = .localAppleContainer))
  | .transitioning => j.resolvedGeneration = 0 && !j.resolvedAppleActive)

/-- `boundConfig` and `boundCodex` are the canonical paths the caller resolved. -/
def valid (j : RuntimeRoutingJournal) (boundConfig boundCodex : String) :
    Bool :=
  j.boundConfigPath = boundConfig && j.boundCodexConfigPath = boundCodex &&
    j.validRoute && j.validAttempt

def matchesRequest (j : RuntimeRoutingJournal) (r : RuntimeRoutingRequest) :
    Bool :=
  r.valid && j.intent = r.intent && j.originGeneration = r.expectedOriginRoutingGeneration &&
    j.targetAppleActive = r.targetAppleActive

end RuntimeRoutingJournal

/-! ### Planning an attempt -/

def stableStateForBackend (s : State) (backend : Backend) : Bool :=
  s.generation ≠ 0 &&
    s.phase = (if backend = .none then Phase.nativeActive else Phase.relayActive) &&
    s.desiredBackend = backend && s.appliedBackend = backend &&
    s.desiredMode = modeForBackend backend && s.appliedMode = modeForBackend backend

def stableRoutingState (s : State) : Bool :=
  s.desiredBackend = s.appliedBackend && stableStateForBackend s s.appliedBackend

def pendingRoutingState (s : State) : Bool :=
  s.phase = .nativePendingRestart || s.phase = .relayPendingRestart ||
    s.phase = .backendPendingRestart

def pendingStateForBackends (s : State) (origin target : Backend) : Bool :=
  pendingRoutingState s && s.desiredBackend = target && s.appliedBackend = origin

def applyingStateForBackends (s : State) (origin target : Backend) : Bool :=
  s.phase = .applying && s.desiredBackend = target && s.appliedBackend = origin

def recoveryStateForBackends (s : State) (origin target : Backend) : Bool :=
  s.phase = .recoveryRequired && s.desiredBackend = target && s.appliedBackend = origin

namespace RuntimeRoutingJournal

/-- The attempt fields that `setAttempt` writes before it looks at the kind. -/
def startAttempt (j : RuntimeRoutingJournal) (kind : AttemptKind)
    (direction : RuntimeRoutingDirection) (s : State) (source : Option TransactionJournal) :
    RuntimeRoutingJournal :=
  { j with
    phase := .transitioning
    attemptKind := kind
    attemptDirection := direction
    attemptStartGeneration := s.generation
    attemptStartDesiredBackend := s.desiredBackend
    attemptStartAppliedBackend := s.appliedBackend
    attemptStartPhase := s.phase
    attemptOriginBackend := s.appliedBackend
    attemptTargetBackend := j.selectedBackend direction
    attemptRequestedGeneration := 0
    attemptRecoveryGeneration := 0
    attemptApplyingGeneration := 0
    attemptFinalGeneration := 0
    sourceJournalGeneration := (source.map (·.generation)).getD 0
    sourceJournalOriginBackend := source.map (·.originBackend)
    sourceJournalTargetBackend := source.map (·.targetBackend)
    resolvedGeneration := 0
    resolvedAppleActive := false }

/-- `setAttempt`: plan an attempt of the given kind from the state `s`. -/
def setAttempt (j : RuntimeRoutingJournal) (kind : AttemptKind)
    (direction : RuntimeRoutingDirection) (s : State) (source : Option TransactionJournal) :
    Option RuntimeRoutingJournal :=
  if s.generation = 0 then none else
  let started := j.startAttempt kind direction s source
  match kind with
  | .switch =>
    if s.generation > maxGeneration - 3 ∨ !stableRoutingState s then none else
    some { started with
      attemptRequestedGeneration := s.generation + 1
      attemptApplyingGeneration := s.generation + 2
      attemptFinalGeneration := s.generation + 3 }
  | .applyPending =>
    if s.generation > maxGeneration - 2 ∨ !pendingRoutingState s then none else
    some { started with
      attemptRequestedGeneration := s.generation
      attemptApplyingGeneration := s.generation + 1
      attemptFinalGeneration := s.generation + 2 }
  | .resumeApplying =>
    if s.generation = maxGeneration ∨ s.phase ≠ .applying then none else
    some { started with
      attemptApplyingGeneration := s.generation
      attemptFinalGeneration := s.generation + 1 }
  | .replace =>
    if s.generation = maxGeneration then none else
    some { started with attemptFinalGeneration := s.generation + 1 }
  | .recover => none

/-- `setRecoveryAttempt`: plan a recovery through `recoveryGeneration`, from the state `s` and, if
    there is one, the journal `source`. -/
def setRecoveryAttempt (j : RuntimeRoutingJournal)
    (direction : RuntimeRoutingDirection) (s : State) (recoveryGeneration : UInt64)
    (source : Option TransactionJournal) : Option RuntimeRoutingJournal :=
  if recoveryGeneration = 0 ∨ recoveryGeneration > maxGeneration - 2 then none else
  match j.setAttempt .replace direction s source with
  | none => none
  | some started =>
    let planned := { started with
      attemptKind := .recover
      attemptOriginBackend := j.selectedBackend (oppositeRuntimeDirection direction)
      attemptTargetBackend := j.selectedBackend direction
      attemptRequestedGeneration := 0
      attemptRecoveryGeneration := recoveryGeneration
      attemptApplyingGeneration := recoveryGeneration + 1
      attemptFinalGeneration := recoveryGeneration + 2 }
    if planned.valid j.boundConfigPath j.boundCodexConfigPath then some planned else none

/-! ### Relating the witness to the durable state -/

def attemptTransactionMatches (j : RuntimeRoutingJournal)
    (t : TransactionJournal) : Bool :=
  t.kind = .routingSwitch && t.generation = j.attemptApplyingGeneration &&
    t.originBackend = j.attemptOriginBackend && t.targetBackend = j.attemptTargetBackend

def sourceTransactionMatches (j : RuntimeRoutingJournal)
    (t : TransactionJournal) : Bool :=
  j.sourceJournalGeneration ≠ 0 && t.kind = .routingSwitch &&
    t.generation = j.sourceJournalGeneration &&
    some t.originBackend = j.sourceJournalOriginBackend &&
    some t.targetBackend = j.sourceJournalTargetBackend

end RuntimeRoutingJournal

def exactRuntimeAttemptStart (j : RuntimeRoutingJournal) (s : State) : Bool :=
  s.generation = j.attemptStartGeneration && s.desiredBackend = j.attemptStartDesiredBackend &&
    s.appliedBackend = j.attemptStartAppliedBackend && s.phase = j.attemptStartPhase

def State.validateForCodexConfig (P : Paths) (s : State) (configPath codexConfigPath : String) :
    Except Err Unit :=
  match s.validateFor P configPath with
  | .error e => .error e
  | .ok () =>
    match canonicalConfigPath P codexConfigPath with
    | .error e => .error e
    | .ok bound => if s.boundCodexConfigPath ≠ bound then .error .stateBinding else .ok ()

/-- `matchesState`, with the journal and its presence flag as one optional journal. -/
def RuntimeRoutingJournal.matchesState (P : Paths) (j : RuntimeRoutingJournal) (s : State)
    (transaction : Option TransactionJournal) : Bool :=
  if s.validateForCodexConfig P j.boundConfigPath j.boundCodexConfigPath ≠ .ok () then false else
  if j.phase = .resolved then
    transaction.isNone && s.generation = j.resolvedGeneration &&
      stableStateForBackend s (j.selectedBackend j.attemptDirection)
  else if exactRuntimeAttemptStart j s then transaction.all j.sourceTransactionMatches
  else if transaction.any fun t =>
      !j.attemptTransactionMatches t && !j.sourceTransactionMatches t then false
  else if j.attemptRequestedGeneration ≠ 0 ∧ s.generation = j.attemptRequestedGeneration ∧
      pendingStateForBackends s j.attemptOriginBackend j.attemptTargetBackend then
    transaction.isNone
  else if j.attemptApplyingGeneration ≠ 0 ∧ s.generation = j.attemptApplyingGeneration ∧
      applyingStateForBackends s j.attemptOriginBackend j.attemptTargetBackend then
    transaction.all fun t => j.attemptTransactionMatches t || j.sourceTransactionMatches t
  else if j.attemptRecoveryGeneration ≠ 0 ∧ s.generation = j.attemptRecoveryGeneration ∧
      recoveryStateForBackends s j.attemptOriginBackend j.attemptTargetBackend then
    transaction.all j.sourceTransactionMatches
  else if j.attemptApplyingGeneration ≠ 0 ∧ j.attemptApplyingGeneration ≠ maxGeneration ∧
      s.generation = j.attemptApplyingGeneration + 1 ∧
      recoveryStateForBackends s j.attemptOriginBackend j.attemptTargetBackend then
    transaction.all fun t => j.attemptTransactionMatches t || j.sourceTransactionMatches t
  else if s.generation = j.attemptFinalGeneration ∧
      stableStateForBackend s j.attemptTargetBackend then
    transaction.all j.attemptTransactionMatches
  else if j.attemptFinalGeneration ≠ maxGeneration ∧
      s.generation = j.attemptFinalGeneration + 1 ∧ s.phase = .recoveryRequired ∧
      s.desiredBackend = j.attemptTargetBackend ∧ s.appliedBackend = j.attemptTargetBackend then
    transaction.isNone
  else false

end OpenCodexRelay.Routing



