/-
  The durable routing state — what is admitted, what is wanted, and how far a switch has got.

  The state file says which backend Codex is meant to use (`desired`), which one it uses now
  (`applied`), in which phase the switch between the two is, and under which generation all of
  this was written.  This module is the state's own logic, with no file in sight:

  1. the labels (`Mode`, `Backend`, `Phase`) and the classifiers over them;
  2. the record `State`, its three constructors for a legacy, a bound and a fail-closed state;
  3. `validateForBound`, the shape check that EVERY state read from or written to disk passes,
     with its one reading `validateForBound_eq_ok_iff`;
  4. `validateTransition`, the phase graph that `Save` enforces;
  5. the pure transitions a user asks for: request and cancel.

  Generations are 64-bit and wrap.  A wrapped generation is zero, and zero is never valid: that is
  the whole of the wrap-around story, and `next_generation_gt` is the lemma that says so.
-/
import Mathlib.Tactic.Common

namespace OpenCodexRelay.Routing

/-! ## Labels -/

/-- The legacy two-valued mode, kept on the wire next to the backend. -/
inductive Mode where
  | unknown | relay | native
  deriving DecidableEq, Repr

/-- The durable upstream selection.  `none` means that Codex owns native routing. -/
inductive Backend where
  | unknown | external | localOpenCodex | localAppleContainer | none
  deriving DecidableEq, Repr

inductive Phase where
  | relayActive | nativePendingRestart | relayPendingRestart | backendPendingRestart
  | applying | nativeActive | recoveryRequired
  deriving DecidableEq, Repr

/-- What a routing operation may fail with: the sentinel errors of the package, and `io` for the
    failures of the file system that carry no sentinel. -/
inductive Err where
  | stateCorrupt | stateIncompatible | stateBinding | stateTransition | stateGeneration
  | recoveryRequired | transitionPending | desktopExitConfirmation
  | relayAcknowledgement | requestDrain | relayFinalization
  | credentialPreflight | localOpenCodexPreflight | configUnavailable | codexConfig
  | gatewayUnsupported | gatewayInvalidAddress | gatewayConfigChanged | gatewayRoutingChanged
  | gatewayTransitionPending | gatewayCredentialUnavailable | gatewayValidation
  | gatewayRuntimeSwap
  | nativeRepairUnavailable | nativeRepairGenerationStale | nativeVerification
  | runtimeRoutingConflict | runtimeRoutingWitness
  | maintenanceConflict | maintenanceRecoveryRequired | maintenanceWitness | io
  deriving DecidableEq, Repr

def validBackend : Backend → Bool
  | .external | .localOpenCodex | .localAppleContainer | .none => true
  | .unknown => false

def validRelayBackend : Backend → Bool
  | .external | .localOpenCodex | .localAppleContainer => true
  | .none | .unknown => false

def validRecoveryMode : Mode → Bool
  | .unknown | .relay | .native => true

def validRecoveryBackend (backend : Backend) : Bool := backend = .unknown || validBackend backend

/-- The labels a genuine schema-2 writer could have emitted. -/
def validSchemaV2Backend : Backend → Bool
  | .unknown | .external | .localOpenCodex | .none => true
  | .localAppleContainer => false

def modeForBackend : Backend → Mode
  | .external | .localOpenCodex | .localAppleContainer => .relay
  | .none => .native
  | .unknown => .unknown

def backendForLegacyMode : Mode → Backend
  | .relay => .external
  | .native => .none
  | .unknown => .unknown

def activePhaseForBackend (backend : Backend) : Phase :=
  if backend = .none then .nativeActive
  else if validRelayBackend backend then .relayActive
  else .recoveryRequired

/-- The pending phase of a staged switch; `none` is the source's empty phase. -/
def pendingPhaseForBackends (desired applied : Backend) : Option Phase :=
  if desired = .none ∧ validRelayBackend applied then some .nativePendingRestart
  else if validRelayBackend desired ∧ applied = .none then some .relayPendingRestart
  else if validRelayBackend desired ∧ validRelayBackend applied ∧ desired ≠ applied then
    some .backendPendingRestart
  else none

/-! ## Paths -/

/-- The operating system's path resolution: `abs` is `filepath.Abs` followed by `filepath.Clean`.
    It fails only when the working directory cannot be read, and a resolved path resolves to
    itself. -/
structure Paths where
  abs : String → Option String
  abs_idem : ∀ {p q}, abs p = some q → abs q = some q
  abs_ne_empty : ∀ {p q}, abs p = some q → q ≠ ""

/-- `canonicalConfigPath` and `canonicalCodexConfigPath`, which differ in their texts only. -/
def canonicalConfigPath (P : Paths) (path : String) : Except Err String :=
  if path = "" then .error .stateBinding
  else match P.abs path with
    | none => .error .io
    | some resolved => .ok resolved

/-! ## The state record -/

def schemaVersion : Int := 3
def legacySchemaVersion : Int := 1
def explicitBackendSchemaVersion : Int := 2

structure State where
  schema : Int
  generation : UInt64
  desiredMode : Mode
  appliedMode : Mode
  desiredBackend : Backend
  appliedBackend : Backend
  phase : Phase
  /-- An explicit one-shot user intent, cleared when the transition is cancelled or committed. -/
  knownLegacyBackupAndMigrate : Bool
  boundConfigPath : String
  boundCodexConfigPath : String
  deriving DecidableEq, Repr

/-- Pending states still carry traffic: merely asking for a switch interrupts nothing. -/
def State.allowsDataPlane (s : State) : Bool :=
  s.phase = .relayActive || s.phase = .nativePendingRestart || s.phase = .backendPendingRestart

/-- What a missing state file stands for: the deployment predates the controller. -/
def newRelayState (bound : String) : State where
  schema := schemaVersion
  generation := 1
  desiredMode := .relay
  appliedMode := .relay
  desiredBackend := .external
  appliedBackend := .external
  phase := .relayActive
  knownLegacyBackupAndMigrate := false
  boundConfigPath := bound
  boundCodexConfigPath := ""

/-- The fail-closed state a watcher projects when it cannot trust the files. -/
def newRecoveryState (bound : String) : State where
  schema := schemaVersion
  generation := 1
  desiredMode := .unknown
  appliedMode := .unknown
  desiredBackend := .unknown
  appliedBackend := .unknown
  phase := .recoveryRequired
  knownLegacyBackupAndMigrate := false
  boundConfigPath := bound
  boundCodexConfigPath := ""

/-! ## Validation -/

/-- The per-phase rule of `validateForBound`: which pairs of backends the phase admits. -/
def State.phaseShape (s : State) : Bool :=
  match s.phase with
  | .relayActive =>
    s.desiredMode = .relay && s.appliedMode = .relay && validRelayBackend s.desiredBackend &&
      s.desiredBackend = s.appliedBackend
  | .nativePendingRestart => s.desiredBackend = .none && validRelayBackend s.appliedBackend
  | .relayPendingRestart => validRelayBackend s.desiredBackend && s.appliedBackend = .none
  | .backendPendingRestart =>
    validRelayBackend s.desiredBackend && validRelayBackend s.appliedBackend &&
      s.desiredBackend ≠ s.appliedBackend
  | .applying =>
    (s.desiredBackend ≠ s.appliedBackend && validBackend s.desiredBackend &&
      validBackend s.appliedBackend) ||
    -- a gateway reload and a runtime maintenance rebuild the runtime of an unchanged backend
    (s.desiredBackend = .external && s.appliedBackend = .external) ||
    (s.desiredBackend = .localAppleContainer && s.appliedBackend = .localAppleContainer)
  | .nativeActive => s.desiredBackend = .none && s.appliedBackend = .none
  | .recoveryRequired =>
    validRecoveryMode s.desiredMode && validRecoveryMode s.appliedMode &&
      validRecoveryBackend s.desiredBackend && validRecoveryBackend s.appliedBackend

def State.validateForBound (P : Paths) (s : State) (bound : String) : Except Err Unit :=
  if s.schema ≠ schemaVersion then .error .stateIncompatible else
  if s.generation = 0 then .error .stateCorrupt else
  if s.boundConfigPath ≠ bound then .error .stateBinding else
  match canonicalConfigPath P s.boundCodexConfigPath with
  | .error e => .error e
  | .ok canonicalCodex =>
    if s.boundCodexConfigPath ≠ canonicalCodex then .error .stateBinding else
    if modeForBackend s.desiredBackend ≠ s.desiredMode ∨
        modeForBackend s.appliedBackend ≠ s.appliedMode then .error .stateCorrupt else
    if s.knownLegacyBackupAndMigrate ∧ s.desiredBackend ≠ .external then .error .stateCorrupt else
    if s.phaseShape then .ok () else .error .stateCorrupt

def State.validateFor (P : Paths) (s : State) (configPath : String) : Except Err Unit :=
  match canonicalConfigPath P configPath with
  | .error e => .error e
  | .ok bound => s.validateForBound P bound

/-- Everything `validateForBound` asks of a state, as one proposition. -/
structure State.WellFormed (P : Paths) (bound : String) (s : State) : Prop where
  schema_eq : s.schema = schemaVersion
  generation_ne : s.generation ≠ 0
  config_eq : s.boundConfigPath = bound
  codex_eq : canonicalConfigPath P s.boundCodexConfigPath = .ok s.boundCodexConfigPath
  desired_eq : s.desiredMode = modeForBackend s.desiredBackend
  applied_eq : s.appliedMode = modeForBackend s.appliedBackend
  legacy_imp : s.knownLegacyBackupAndMigrate = true → s.desiredBackend = .external
  shape : s.phaseShape = true

variable {s : State} {P : Paths} {bound : String}

/-- **The check and the proposition agree.** -/
theorem State.validateForBound_eq_ok_iff :
    s.validateForBound P bound = .ok () ↔ s.WellFormed P bound := by
  constructor
  · intro h
    -- resolve the Codex path first: the later checks only make sense once it has resolved
    cases hc : canonicalConfigPath P s.boundCodexConfigPath with
    | error e =>
      simp only [validateForBound, hc] at h
      split_ifs at h
    | ok canonical =>
      simp only [validateForBound, hc] at h
      split_ifs at h with h1 h2 h3 h4 h5 h6 h7
      rw [not_or, not_not, not_not] at h5
      refine ⟨not_not.mp h1, h2, not_not.mp h3, ?_, h5.1.symm, h5.2.symm, ?_, h7⟩
      · rw [hc, ← not_not.mp h4]
      · intro hk
        by_contra hne
        exact h6 ⟨hk, hne⟩
  · rintro ⟨h1, h2, h3, h4, h5, h6, h7, h8⟩
    unfold validateForBound
    rw [if_neg (by simp [h1]), if_neg h2, if_neg (by simp [h3]), h4]
    simp only
    rw [if_neg (by simp), if_neg (by simp [h5, h6]), if_neg (by simpa using h7), if_pos h8]

/-! ## Migration of older schemas -/

def migrateSchemaV1 (s : State) : State :=
  if s.schema ≠ legacySchemaVersion then s
  else { s with
    schema := schemaVersion
    desiredBackend := backendForLegacyMode s.desiredMode
    appliedBackend := backendForLegacyMode s.appliedMode }

/-- What `decodeState` does once the JSON has been decoded: migrate, then validate. -/
def decodeState (P : Paths) (s : State) (bound : String) : Except Err State :=
  if s.schema = legacySchemaVersion then
    let migrated := migrateSchemaV1 s
    match migrated.validateForBound P bound with
    | .error e => .error e
    | .ok () => .ok migrated
  else if s.schema = explicitBackendSchemaVersion then
    if !validSchemaV2Backend s.desiredBackend || !validSchemaV2Backend s.appliedBackend then
      .error .stateIncompatible
    else
      let migrated := { s with schema := schemaVersion }
      match migrated.validateForBound P bound with
      | .error e => .error e
      | .ok () => .ok migrated
  else
    match s.validateForBound P bound with
    | .error e => .error e
    | .ok () => .ok s

/-- Whatever decodes is well formed, whichever schema it came from. -/
theorem decodeState_wellFormed {s' : State} (h : decodeState P s bound = .ok s') :
    s'.WellFormed P bound := by
  have done : ∀ t : State, (match t.validateForBound P bound with
      | .error e => Except.error e
      | .ok () => .ok t) = .ok s' → s'.WellFormed P bound := by
    intro t ht
    cases hv : t.validateForBound P bound with
    | error e => rw [hv] at ht; cases ht
    | ok u =>
      rw [hv] at ht
      cases ht
      exact State.validateForBound_eq_ok_iff.mp hv
  unfold decodeState at h
  split_ifs at h
  · exact done _ h
  · exact done _ h
  · exact done _ h

/-- A well-formed state decodes to itself: what is written is what is read back. -/
theorem decodeState_of_wellFormed (h : s.WellFormed P bound) : decodeState P s bound = .ok s := by
  have h3 : s.schema = 3 := h.schema_eq
  unfold decodeState
  rw [if_neg (by rw [h3]; decide), if_neg (by rw [h3]; decide),
    State.validateForBound_eq_ok_iff.mpr h]

/-! ## The phase graph -/

/-- The transitions `Save` lets a writer make, beyond the generation check. -/
def validTransition (previous next : State) : Bool :=
  match previous.phase with
  | .relayActive =>
    next.phase = .relayActive || next.phase = .nativePendingRestart ||
      next.phase = .backendPendingRestart || next.phase = .applying
  | .nativePendingRestart =>
    next.phase = .nativePendingRestart || next.phase = .relayActive ||
      next.phase = .backendPendingRestart || next.phase = .applying
  | .relayPendingRestart =>
    next.phase = .relayPendingRestart || next.phase = .nativeActive || next.phase = .applying
  | .backendPendingRestart =>
    next.phase = .backendPendingRestart || next.phase = .relayActive ||
      next.phase = .nativePendingRestart || next.phase = .applying
  | .applying =>
    (previous.desiredBackend = .none && next.phase = .nativeActive) ||
      (validRelayBackend previous.desiredBackend && next.phase = .relayActive)
  | .nativeActive => next.phase = .nativeActive || next.phase = .relayPendingRestart
  | .recoveryRequired => false

def validateTransition (previous next : State) : Except Err Unit :=
  if next.phase = .recoveryRequired then .ok () else
  if previous.phase = .recoveryRequired then .error .stateTransition else
  if validTransition previous next then .ok () else .error .stateTransition

/-! ## Requested and cancelled switches -/

/-- The state a request for `target` stages, and whether it differs from the current one. -/
def requestBackendTransition (s : State) (target : Backend) : Except Err (State × Bool) :=
  if !validBackend target then .error .recoveryRequired else
  if s.phase = .applying then .error .transitionPending else
  if s.phase = .recoveryRequired then .error .recoveryRequired else
  if target = s.desiredBackend then .ok (s, false) else
  if target = s.appliedBackend then
    -- returning to the applied backend only cancels the staged restart
    .ok ({ s with
      desiredBackend := target
      desiredMode := modeForBackend target
      appliedMode := modeForBackend target
      phase := activePhaseForBackend target
      knownLegacyBackupAndMigrate := false }, true)
  else
    match pendingPhaseForBackends target s.appliedBackend with
    | none => .error .recoveryRequired
    | some phase =>
      .ok ({ s with
        desiredBackend := target
        desiredMode := modeForBackend target
        appliedMode := modeForBackend s.appliedBackend
        phase := phase }, true)

def cancelTransition (s : State) : Except Err State :=
  match s.phase with
  | .nativePendingRestart | .relayPendingRestart | .backendPendingRestart =>
    .ok { s with
      desiredBackend := s.appliedBackend
      desiredMode := modeForBackend s.appliedBackend
      appliedMode := modeForBackend s.appliedBackend
      phase := activePhaseForBackend s.appliedBackend
      knownLegacyBackupAndMigrate := false }
  | _ => .error .transitionPending

/-- A legacy state was never written, so its first write keeps generation 1. -/
def nextGeneration (s : State) (legacy : Bool) : UInt64 :=
  if legacy then s.generation else s.generation + 1

/-! ## Generations -/

/-- **Wrap-around is refused, not reused.** A successor that is a valid generation at all is
    strictly greater. -/
theorem next_generation_gt {g : UInt64} (h : g + 1 ≠ 0) : g < g + 1 := by
  have hlt := g.toNat_lt
  have hne : (g + 1).toNat ≠ 0 := fun h0 => h (UInt64.toNat_inj.mp (by simpa using h0))
  rw [UInt64.lt_iff_toNat_lt]
  simp only [UInt64.toNat_add] at hne ⊢
  have h1 : (1 : UInt64).toNat = 1 := rfl
  rw [h1] at hne ⊢
  omega

end OpenCodexRelay.Routing
