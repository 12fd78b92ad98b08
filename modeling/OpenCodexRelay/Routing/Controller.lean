/-
  The controller: what it can see, and the switch it performs.

  A `Controller` is bound to one `relay.json` and one Codex config.  The first half of this module
  is EVIDENCE — pure functions of the files: fingerprints, journals built from them, the backend
  the Codex artifacts show.  The second half is the switch itself:

      save applying · journal(prepared) · park · runtime · edit Codex · journal(config_mutated)
      · save final · remove journal · wait for the relay to show the final state

  with one exit on failure (`failApplyingLocked`), which parks the state in recovery and leaves the
  journal where it is.  Every step in the list is a place where the process may stop.
-/
import OpenCodexRelay.Routing.Watcher

namespace OpenCodexRelay.Routing

open Durable

structure Controller where
  store : Store
  codexConfigPath : String
  codex_canonical : canonicalConfigPath store.paths codexConfigPath = .ok codexConfigPath
  sha256 : String → String
  codec : ConfigCodec
  codexText : CodexText
  /-- The relay-owned local profiles are allowed on this platform. -/
  localProfileOK : Bool
  /-- A runtime control is attached. -/
  runtimeControl : Bool
  /-- An external recovery gate is configured. -/
  recoveryGate : Bool
  /-- This controller was built to resume an interrupted removal. -/
  removalRecoveryWitness : Bool
  /-- The owner is the local-development installation. -/
  localDevelopmentOwner : Bool

namespace Controller

variable (c : Controller)

/-! ## Interlocks -/

def recoveryGateActive : Op Bool :=
  if c.recoveryGate then do
    let opened ← ask Query.recoveryGate
    pure (!opened)
  else pure false

/-- A lifecycle-owned witness, present or unreadable, keeps ordinary routing out. -/
def maintenancePendingOrInvalid (d : Disk) : Bool :=
  match c.store.loadMaintenance d with
  | .ok none =>
    match c.store.loadRuntimeRouting c.codexConfigPath d with
    | .ok none => false
    | _ => true
  | _ => true

/-- Refuse with `e` while the gate or a lifecycle witness is active. -/
def interlocked {α : Type} (e : Err) (k : Op (Except Err α)) : Op (Except Err α) := do
  if ← c.recoveryGateActive then refuse e else
  .read fun d => if c.maintenancePendingOrInvalid d then refuse e else k

/-- Refuse while a transaction journal, readable or not, is on disk. -/
def withoutJournal {α : Type} (k : Op (Except Err α)) : Op (Except Err α) :=
  .read fun d => match loadJournal d with
    | .ok none => k
    | _ => refuse .recoveryRequired

/-! ## Evidence -/

def fingerprintOptional : File → Except Err Fingerprint
  | .absent => .ok .absent
  | .irregular => .error .stateCorrupt
  | .content text => .ok (.sha256 (c.sha256 text))

/-- `newJournal` on the files as they are. -/
def journalFor (d : Disk) (s : State) (target : Backend) (legacyMigrationRequired : Bool) :
    Except Err TransactionJournal :=
  match c.fingerprintOptional d.relay, c.fingerprintOptional d.codex,
      c.fingerprintOptional d.profile with
  | .ok relay, .ok codex, .ok profile =>
    .ok {
      schema := schemaVersion
      kind := .routingSwitch
      generation := s.generation
      target := modeForBackend target
      origin := modeForBackend s.appliedBackend
      targetBackend := target
      originBackend := s.appliedBackend
      originAuthoritative := true
      knownLegacyBackupAndMigrate := legacyMigrationRequired
      stage := .prepared
      relayConfigFingerprint := some relay
      codexConfigFingerprint := some codex
      interactiveFingerprint := some profile
      originRelayConfigFingerprint := none
      targetRelayConfigFingerprint := none
      backupConfigFingerprint := none }
  | .error e, _, _ => .error e
  | _, .error e, _ => .error e
  | _, _, .error e => .error e

def newJournal (s : State) (target : Backend) (legacyMigrationRequired : Bool) :
    Op (Except Err TransactionJournal) :=
  .read fun d => .ret (c.journalFor d s target legacyMigrationRequired)

/-- Which side of the atomic replacement of `relay.json` the files are on. -/
def gatewayJournalObservedStage (d : Disk) (j : TransactionJournal) : Option TransactionStage :=
  if j.kind ≠ .gatewayReload then none else
  match c.fingerprintOptional d.gatewayBackup, c.fingerprintOptional d.relay with
  | .ok backup, .ok relay =>
    if some backup ≠ j.backupConfigFingerprint then none
    else if some relay = j.originRelayConfigFingerprint then some .prepared
    else if some relay = j.targetRelayConfigFingerprint then some .configMutated
    else none
  | _, _ => none

def journalMatchesCurrentFiles (d : Disk) (j : TransactionJournal) : Bool :=
  match c.fingerprintOptional d.relay, c.fingerprintOptional d.codex,
      c.fingerprintOptional d.profile with
  | .ok relay, .ok codex, .ok profile =>
    (if j.kind = .gatewayReload then (c.gatewayJournalObservedStage d j).isSome
      else some relay = j.relayConfigFingerprint) &&
    some codex = j.codexConfigFingerprint && some profile = j.interactiveFingerprint
  | _, _, _ => false

def recoveryStateFromJournal (j : TransactionJournal) : State :=
  { newRecoveryState c.store.configPath with
    boundCodexConfigPath := c.codexConfigPath
    generation := j.generation + 1
    desiredMode := j.target
    appliedMode := j.origin
    desiredBackend := j.targetBackend
    appliedBackend := j.originBackend
    knownLegacyBackupAndMigrate := j.knownLegacyBackupAndMigrate }

/-- The base URL Codex is given for a listener. -/
def baseURL (address : String) : String := "http://" ++ address ++ "/v1"

/-- The artifacts are exactly those `cfg` asks for. -/
def validateManaged (d : Disk) (cfg : Config) : Bool :=
  c.codexText.validateManagedRouting d.codex d.profile (baseURL cfg.listenAddress)
    (baseURL cfg.interactiveListenAddress) cfg.catalogPath

def validateNative (d : Disk) : Bool := c.codexText.validateNativeRouting d.codex d.profile

def routingArtifactsMatch (d : Disk) (target : Backend) (cfg : Config) : Bool :=
  match target with
  | .none => c.validateNative d
  | .external | .localOpenCodex | .localAppleContainer => c.validateManaged d cfg
  | .unknown => false

/-- Which backend the managed artifacts belong to, told apart by their catalogs. -/
def managedBackendFromArtifacts (d : Disk) (cfg : Config) : Option Backend :=
  match cfg.upstreamMode with
  | .localOpenCodex => if c.validateManaged d cfg then some .localOpenCodex else none
  | .externalGateway =>
    let externalMatches := c.validateManaged d cfg
    let localMatches := (cfg.localOpenCodexRuntimeConfig c.codec).any (c.validateManaged d)
    let appleMatches := (cfg.localAppleContainerRuntimeConfig c.codec).any (c.validateManaged d)
    if externalMatches && !localMatches && !appleMatches then some .external
    else if localMatches && !externalMatches && !appleMatches then some .localOpenCodex
    else if appleMatches && !externalMatches && !localMatches then some .localAppleContainer
    -- both: ambiguous; neither: drifted
    else none
  | .localAppleContainer => none

/-- The state a deployment without a state file is in, judged by its Codex artifacts. -/
def inferLegacyState (d : Disk) (s : State) : Except Err State :=
  match c.codexText.inspect d.codex d.profile with
  | none => .error .codexConfig
  | some i =>
    if i.foreign || i.unmanaged || i.managedRoot ≠ i.interactiveProfileManaged then
      .error .recoveryRequired
    else if !i.managedRoot then
      .ok { s with
        desiredMode := .native
        appliedMode := .native
        desiredBackend := .none
        appliedBackend := .none
        phase := .nativeActive
        boundCodexConfigPath := c.codexConfigPath }
    else match c.codec.loadFile d.relay with
      | none => .error .configUnavailable
      | some cfg => match c.managedBackendFromArtifacts d cfg with
        | none => .error .recoveryRequired
        | some backend =>
          .ok { s with
            desiredMode := .relay
            appliedMode := .relay
            desiredBackend := backend
            appliedBackend := backend
            phase := .relayActive
            boundCodexConfigPath := c.codexConfigPath }

def observedRoutingState (d : Disk) : Except Err State :=
  c.inferLegacyState d (newRelayState c.store.configPath)

/-- The state on disk, bound to this controller's Codex config. -/
def boundState (d : Disk) : Except Err (State × Bool) :=
  match c.store.read d with
  | .error e => .error e
  | .ok (s, true) =>
    match c.inferLegacyState d s with
    | .error e => .error e
    | .ok inferred => .ok (inferred, true)
  | .ok (s, false) =>
    match s.validateForCodexConfig c.store.paths c.store.configPath c.codexConfigPath with
    | .error e => .error e
    | .ok () => .ok (s, false)

/-! ## Editing the Codex artifacts -/

/-- `EnableForOwner`: put the managed block into the config. -/
def enableForOwner (general catalogPath : String) : Op (Except Err Unit) :=
  .read fun d => match d.codex.readOptional.bind fun text =>
      c.codexText.prepareEnable text general catalogPath with
    | none => refuse .codexConfig
    | some updated => Routing.store (.codex updated)

/-- `restoreOptional` on the Codex config. -/
def restoreCodex : File → Op (Except Err Unit)
  | .content text => Routing.store (.codex text)
  | .absent => .read fun d => match d.codex with
    | .absent => pure (.ok ())
    | _ => Routing.store .removeCodex
  | .irregular => refuse .codexConfig

/-- `EnableWithInteractiveProfileForOwner`: two files, one after the other. -/
def enableWithInteractiveProfile (cfg : Config) : Op (Except Err Unit) :=
  .read fun d =>
    if !c.codexText.preflightEnable d.codex d.profile then refuse .codexConfig else
    attempt (c.enableForOwner (baseURL cfg.listenAddress) cfg.catalogPath) fun _ =>
    guarded (Routing.store (.profile (c.codexText.renderInteractiveProfile
        (baseURL cfg.interactiveListenAddress) cfg.catalogPath)))
      (fun e => do
        let _ ← restoreCodex d.codex
        refuse e)
      fun _ => pure (.ok ())

/-- `DisableForOwner`: take the managed block out of the config. -/
def disableForOwner : Op (Except Err Unit) :=
  .read fun d => match d.codex with
    | .absent => pure (.ok ())
    | .irregular => refuse .codexConfig
    | .content text => match c.codexText.removeManaged text with
      | none => refuse .codexConfig
      | some updated =>
        if updated = text then pure (.ok ()) else Routing.store (.codex updated)

def disableWithInteractiveProfile : Op (Except Err Unit) :=
  .read fun d => match c.codexText.inspect d.codex d.profile with
    | none => refuse .codexConfig
    | some i =>
      if i.foreign then refuse .codexConfig else
      match d.profile with
      | .irregular => refuse .codexConfig
      | .absent => c.disableForOwner
      | .content text =>
        if !c.codexText.validInteractiveProfile text then refuse .codexConfig else
        attempt c.disableForOwner fun _ =>
        guarded (Routing.store .removeProfile)
          (fun e => do
            let _ ← restoreCodex d.codex
            refuse e)
          fun _ => pure (.ok ())

/-- `MigrateLegacy`: back the config up, then drop the recognised assignments. -/
def migrateLegacy : Op (Except Err Unit) :=
  .read fun d => match d.codex.readOptional with
    | none => refuse .codexConfig
    | some text => match c.codexText.prepareLegacyMigration text with
      | none => refuse .codexConfig
      | some updated =>
        attempt (Routing.store (.legacyBackup text)) fun _ => Routing.store (.codex updated)

def restoreLegacyMigrationBackup : Op (Except Err Unit) :=
  .read fun d => match d.legacyBackup with
    | .content text => Routing.store (.codex text)
    | _ => refuse .codexConfig

def enableWithLegacyMigration (cfg : Config) : Op (Except Err Unit) :=
  .read fun d => match c.codexText.planLegacyMigration d.codex d.profile with
    | none => refuse .codexConfig
    | some false => c.enableWithInteractiveProfile cfg
    | some true =>
      attempt c.migrateLegacy fun _ =>
      guarded (c.enableWithInteractiveProfile cfg)
        (fun e => do
          let _ ← restoreLegacyMigrationBackup
          refuse e)
        fun _ => pure (.ok ())

def applyConfigWithLegacyIntent (target : Backend) (cfg : Config)
    (knownLegacyBackupAndMigrate : Bool) : Op (Except Err Unit) :=
  .read fun d =>
    -- artifacts that already describe the target are kept byte for byte
    if c.routingArtifactsMatch d target cfg then pure (.ok ()) else
    match target with
    | .none => c.disableWithInteractiveProfile
    | .unknown => refuse .recoveryRequired
    | .external | .localOpenCodex | .localAppleContainer =>
      if knownLegacyBackupAndMigrate then
        if target ≠ .external then refuse .recoveryRequired else c.enableWithLegacyMigration cfg
      else c.enableWithInteractiveProfile cfg

/-! ## Preflight -/

structure BackendPreflight where
  config : Config
  legacyMigrationRequired : Bool

def preflightNative (d : Disk) : Except Err Unit :=
  match c.codexText.inspect d.codex d.profile with
  | none => .error .codexConfig
  | some i =>
    if i.foreign || i.unmanaged then .error .codexConfig
    else if i.managedRoot ≠ i.interactiveProfileManaged then .error .codexConfig
    else .ok ()

def preflightBackendWithLegacyIntent (target : Backend) (knownLegacyBackupAndMigrate : Bool) :
    Op (Except Err BackendPreflight) :=
  .read fun d => match c.codec.loadFile d.relay with
    | none => refuse .configUnavailable
    | some cfg => match target with
      | .none => match c.preflightNative d with
        | .error e => refuse e
        | .ok () => pure (.ok ⟨cfg, false⟩)
      | .external =>
        if cfg.upstreamMode ≠ .externalGateway then refuse .configUnavailable else
        let planned := if knownLegacyBackupAndMigrate then
            c.codexText.planLegacyMigration d.codex d.profile
          else if c.codexText.preflightEnable d.codex d.profile then some false
          else none
        match planned with
        | none => refuse .codexConfig
        | some required =>
          attempt (require (.loadCredentials cfg.credentials) .credentialPreflight) fun _ =>
          pure (.ok ⟨cfg, required⟩)
      | .localOpenCodex =>
        if !c.codexText.preflightEnable d.codex d.profile then refuse .codexConfig else
        if cfg.upstreamMode = .localOpenCodex then pure (.ok ⟨cfg, false⟩) else
        if !c.localProfileOK then refuse .localOpenCodexPreflight else
        match cfg.localOpenCodexRuntimeConfig c.codec with
        | none => refuse .configUnavailable
        | some profile =>
          attempt (require (.localPreflight profile.upstreamBaseURL) .credentialPreflight) fun _ =>
          pure (.ok ⟨profile, false⟩)
      | .localAppleContainer =>
        if !c.codexText.preflightEnable d.codex d.profile then refuse .codexConfig else
        if !c.localProfileOK then refuse .localOpenCodexPreflight else
        match cfg.localAppleContainerRuntimeConfig c.codec with
        | none => refuse .configUnavailable
        | some profile =>
          attempt (require .applePreflight .localOpenCodexPreflight) fun _ =>
          pure (.ok ⟨profile, false⟩)
      | .unknown => refuse .recoveryRequired

/-! ## The switch -/

/-- The one exit on failure: park, and keep whatever journal there is. -/
def failApplyingLocked {α : Type} (s : State) (cause : Err) : Op (Except Err α) := do
  let _ ← c.store.save { s with phase := .recoveryRequired, generation := s.generation + 1 }
  refuse cause

/-- The state an `applying` state for `target` ends in. -/
def finalState (applying : State) (target : Backend) : State :=
  { applying with
    desiredMode := modeForBackend target
    appliedMode := modeForBackend target
    desiredBackend := target
    appliedBackend := target
    knownLegacyBackupAndMigrate := false
    phase := if target = .none then .nativeActive else .relayActive
    generation := applying.generation + 1 }

/-- Apply the runtime, when one is attached. -/
def applyRuntime (s : State) (target : Backend) : Op (Except Err Unit) :=
  if c.runtimeControl then
    require (.runtimeApply s.generation target) .relayAcknowledgement
  else pure (.ok ())

/-- Materialise a relay-owned local catalog before Codex can select it. -/
def materializeLocalCatalog (target : Backend) (cfg : Config) : Op (Except Err Unit) :=
  if (target = .localOpenCodex ∨ target = .localAppleContainer) ∧ cfg.catalogOwner = .relay then
    require (.materializeLocalCatalog cfg) .localOpenCodexPreflight
  else pure (.ok ())

def finishApplyingLockedWithOriginAuthority (applying : State) (cfg : Config) (target : Backend)
    (originAuthoritative legacyMigrationRequired : Bool) : Op (Except Err Unit) :=
  let fail := fun e => c.failApplyingLocked applying e
  guarded (c.newJournal applying target legacyMigrationRequired) fail fun fresh =>
  -- a begun migration cannot be proved undone, so its journal never authorises a rollback
  let journal := { fresh with
    originAuthoritative := originAuthoritative && !legacyMigrationRequired }
  guarded (writeJournal journal) fail fun _ =>
  guarded (require (.awaitParked applying) .relayAcknowledgement) fail fun _ =>
  guarded (materializeLocalCatalog target cfg) fail fun _ =>
  guarded (c.applyRuntime applying target) fail fun _ =>
  guarded (c.applyConfigWithLegacyIntent target cfg legacyMigrationRequired) fail fun _ =>
  guarded (c.newJournal applying target legacyMigrationRequired) fail fun updated =>
  let mutated := { journal with
    stage := .configMutated
    relayConfigFingerprint := updated.relayConfigFingerprint
    codexConfigFingerprint := updated.codexConfigFingerprint
    interactiveFingerprint := updated.interactiveFingerprint }
  guarded (writeJournal mutated) fail fun _ =>
  let final := finalState applying target
  guarded (c.store.save final) fail fun _ =>
  -- from here on the transaction is committed: a failed removal leaves both artifacts
  attempt removeJournal fun _ =>
  guarded (require (.awaitFinalized final) .relayFinalization)
    (fun e => c.failApplyingLocked final e) fun _ =>
  pure (.ok ())

def finishApplyingLocked (applying : State) (cfg : Config) (target : Backend)
    (legacyMigrationRequired : Bool) : Op (Except Err Unit) :=
  c.finishApplyingLockedWithOriginAuthority applying cfg target true legacyMigrationRequired

def applyLocked (s : State) : Op (Except Err Unit) :=
  let target := s.desiredBackend
  if !validBackend target then refuse .recoveryRequired else
  attempt (c.preflightBackendWithLegacyIntent target s.knownLegacyBackupAndMigrate) fun preflight =>
  let applying := { s with
    phase := .applying
    knownLegacyBackupAndMigrate := preflight.legacyMigrationRequired
    generation := s.generation + 1 }
  attempt (c.store.save applying) fun _ =>
  c.finishApplyingLocked applying preflight.config target preflight.legacyMigrationRequired

/-- `Apply`: carry out the staged switch. -/
def apply (desktopExited : Bool) : Op (Except Err Unit) :=
  if !desktopExited then refuse .desktopExitConfirmation else
  c.interlocked .recoveryRequired <|
  withoutJournal <| .read fun d =>
  match c.boundState d with
  | .error e => refuse e
  | .ok (s, legacy) =>
    if legacy || !pendingRoutingState s then refuse .transitionPending else
    if s.desiredBackend = .localAppleContainer || s.appliedBackend = .localAppleContainer then
      refuse .recoveryRequired
    else c.applyLocked s

end Controller

/-! ## A small installation

An installation to run the programs on: `relay.json` holds nothing but the gateway's address, the
Codex config nothing but the managed block, and a text is its own digest. -/

namespace Sample

def paths : Paths where
  abs := fun p => if p = "" then none else some p
  abs_idem := by
    intro p q h
    split at h
    · cases h
    · rename_i hp
      cases h
      exact if_neg hp
  abs_ne_empty := by
    intro p q h
    split at h
    · cases h
    · rename_i hp
      cases h
      exact hp

def configPath : String := "/relay.json"

def codexConfigPath : String := "/config.toml"

def store : Store := ⟨paths, configPath, rfl⟩

/-- The configuration for one gateway, with both local profiles. -/
def config (gateway : String) : Config where
  listenAddress := "127.0.0.1:1"
  interactiveListenAddress := "127.0.0.1:2"
  upstreamMode := .externalGateway
  upstreamBaseURL := gateway
  credentials := ⟨.none, "", "", false⟩
  catalogOwner := .remoteManager
  catalogPath := "remote"
  connectionProbeEnabled := true
  localOpenCodex := some ⟨"http://local", "local"⟩
  localAppleContainer := some ⟨"http://apple", "account", "apple"⟩
  localProfileRuntime := false
  localAppleContainerRuntime := false
  rest := ""

/-- The file is the address; for the old one a trailing blank is accepted too. -/
def codec : ConfigCodec where
  decode := fun text => some (config (if text = "https://old " then "https://old" else text))
  applyDefaults := id
  validate := fun _ => true
  encode := fun cfg => cfg.upstreamBaseURL
  normalizeExternalGatewayURL := some

def managedBlock (base catalog : String) : String := "managed " ++ base ++ " " ++ catalog

def codexText : CodexText where
  inspect := fun codex profile =>
    let managed := codex ≠ .absent ∧ codex ≠ .content ""
    some ⟨managed, profile ≠ .absent, profile ≠ .absent, false, false, false, false, false⟩
  rootBlockMatches := fun text base catalog => text = managedBlock base catalog
  prepareEnable := fun _ base catalog => some (managedBlock base catalog)
  removeManaged := fun _ => some ""
  prepareLegacyMigration := fun _ => none
  renderInteractiveProfile := fun base catalog => "profile " ++ base ++ " " ++ catalog
  validInteractiveProfile := fun _ => true
  nativeRepairKind := fun _ _ => some .localRelay

def controller : Controller where
  store := store
  codexConfigPath := codexConfigPath
  codex_canonical := rfl
  sha256 := id
  codec := codec
  codexText := codexText
  localProfileOK := true
  runtimeControl := true
  recoveryGate := false
  removalRecoveryWitness := false
  localDevelopmentOwner := false

/-- A state between two backends. -/
def state (generation : UInt64) (desired applied : Backend) (phase : Phase) : State where
  schema := schemaVersion
  generation := generation
  desiredMode := modeForBackend desired
  appliedMode := modeForBackend applied
  desiredBackend := desired
  appliedBackend := applied
  phase := phase
  knownLegacyBackupAndMigrate := false
  boundConfigPath := configPath
  boundCodexConfigPath := codexConfigPath

/-- Codex routed through the relay with the given catalog, and no witness on disk. -/
def routed (catalog : String) (s : State) : Disk where
  state := .record s
  marker := .record ()
  journal := .absent
  maintenance := .absent
  runtimeRouting := .absent
  relay := .content "https://old"
  gatewayBackup := .absent
  codex := .content (managedBlock (Controller.baseURL "127.0.0.1:1") catalog)
  profile := .content (codexText.renderInteractiveProfile (Controller.baseURL "127.0.0.1:2") catalog)
  legacyBackup := .absent

/-- Codex routed natively. -/
def native (s : State) : Disk := { routed "" s with codex := .content "", profile := .absent }

end Sample

end OpenCodexRelay.Routing
