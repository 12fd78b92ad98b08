/-
  The files a routing transaction touches, and the questions it asks its surroundings.

  A routing transaction edits up to nine files, each replaced atomically: the routing state and its
  initialisation marker, the three crash witnesses, `relay.json` and the reserved backup of it,
  Codex's `config.toml` and the relay's interactive profile (with the backup a legacy migration
  takes).  `Disk` is their contents, `FileWrite` the single atomic replacements, and `Query` what
  the controller asks in between: whether a write took place, and what the resident relay, the
  keychain and the probes say.

  What is computed by code outside this package is a parameter here, under its own name:
  `ConfigCodec` (the JSON of `relay.json`, its defaults and its validation), `CodexText` (the
  TOML editing of `codexconfig`) and `sha256`.
-/
import OpenCodexRelay.Durable
import OpenCodexRelay.Routing.Records

namespace OpenCodexRelay.Routing

open Durable

/-! ## Contents -/

/-- A file that is edited as text.  `irregular` stands for everything that is not a readable
    regular file within its size limit: a link, a directory, foreign permissions. -/
inductive File where
  | absent
  | irregular
  | content (text : String)
  deriving DecidableEq, Repr

/-- A control file, read through a strict JSON decoder: what does not decode is `malformed`. -/
inductive ControlFile (α : Type) where
  | absent
  | malformed
  | record (value : α)
  deriving DecidableEq, Repr

structure Disk where
  state : ControlFile State
  marker : ControlFile Unit
  journal : ControlFile TransactionJournal
  maintenance : ControlFile MaintenanceJournal
  runtimeRouting : ControlFile RuntimeRoutingJournal
  relay : File
  gatewayBackup : File
  codex : File
  profile : File
  legacyBackup : File
  deriving DecidableEq

/-! ## The relay configuration -/

inductive UpstreamMode where
  | externalGateway | localOpenCodex | localAppleContainer
  deriving DecidableEq, Repr

inductive CatalogOwner where
  | relay | remoteManager
  deriving DecidableEq, Repr

inductive CredentialsSource where
  | none | keychain | file
  deriving DecidableEq, Repr

structure CredentialsConfig where
  source : CredentialsSource
  account : String
  authenticationProfile : String
  allowInsecurePrivateIP : Bool
  deriving DecidableEq, Repr

structure LocalOpenCodexProfile where
  upstreamBaseURL : String
  catalogPath : String
  deriving DecidableEq, Repr

structure LocalAppleContainerProfile where
  upstreamBaseURL : String
  credentialAccount : String
  catalogPath : String
  deriving DecidableEq, Repr

/-- The fields of `relay.json` that routing reads or rewrites; `rest` carries the others. -/
structure Config where
  listenAddress : String
  interactiveListenAddress : String
  upstreamMode : UpstreamMode
  upstreamBaseURL : String
  credentials : CredentialsConfig
  catalogOwner : CatalogOwner
  catalogPath : String
  connectionProbeEnabled : Bool
  localOpenCodex : Option LocalOpenCodexProfile
  localAppleContainer : Option LocalAppleContainerProfile
  /-- Marks an ephemeral runtime clone; never serialised. -/
  localProfileRuntime : Bool
  localAppleContainerRuntime : Bool
  rest : String
  deriving DecidableEq, Repr

/-- `encoding/json` and `Config`'s own defaulting and validation. -/
structure ConfigCodec where
  /-- The strict decoder, before defaults. -/
  decode : String → Option Config
  applyDefaults : Config → Config
  validate : Config → Bool
  /-- `json.MarshalIndent` and the final newline. -/
  encode : Config → String
  /-- `NormalizeExternalGatewayURL`. -/
  normalizeExternalGatewayURL : String → Option String

/-- `config.Load` on the text of a file. -/
def ConfigCodec.load (k : ConfigCodec) (text : String) : Option Config :=
  match k.decode text with
  | none => none
  | some decoded =>
    let cfg := k.applyDefaults decoded
    if k.validate cfg then some cfg else none

def ConfigCodec.loadFile (k : ConfigCodec) : File → Option Config
  | .content text => k.load text
  | _ => none

/-- What `config.Write` puts into the file, if it gets that far. -/
def ConfigCodec.written (k : ConfigCodec) (cfg : Config) : Option String :=
  let complete := k.applyDefaults cfg
  if k.validate complete then some (k.encode complete) else none

def Config.localOpenCodexRuntimeConfig (k : ConfigCodec) (c : Config) : Option Config :=
  match c.localOpenCodex with
  | none => none
  | some profile =>
    if c.upstreamMode ≠ .externalGateway ∨ !k.validate c then none else
    let result := { c with
      upstreamMode := .localOpenCodex
      upstreamBaseURL := profile.upstreamBaseURL
      credentials := ⟨.none, "", "", false⟩
      catalogOwner := .relay
      catalogPath := profile.catalogPath
      connectionProbeEnabled := false
      localAppleContainer := none
      localProfileRuntime := true }
    if k.validate result then some result else none

def localAuthenticationOpenCodexAPIKey : String := "opencodex_api_key"

def Config.localAppleContainerRuntimeConfig (k : ConfigCodec) (c : Config) : Option Config :=
  match c.localAppleContainer with
  | none => none
  | some profile =>
    if c.upstreamMode ≠ .externalGateway ∨ !k.validate c then none else
    let result := { c with
      upstreamMode := .localAppleContainer
      upstreamBaseURL := profile.upstreamBaseURL
      credentials := ⟨.keychain, profile.credentialAccount, localAuthenticationOpenCodexAPIKey,
        false⟩
      catalogOwner := .relay
      catalogPath := profile.catalogPath
      connectionProbeEnabled := false
      localOpenCodex := none
      localAppleContainerRuntime := true }
    if k.validate result then some result else none

/-! ## The Codex artifacts -/

structure RoutingInspection where
  managedRoot : Bool
  interactiveProfileExists : Bool
  interactiveProfileManaged : Bool
  foreignManagedRoot : Bool
  foreignInteractiveProfile : Bool
  unmanagedOpenAIBaseURL : Bool
  unmanagedModelCatalog : Bool
  unmanagedModelProvider : Bool
  deriving DecidableEq, Repr

/-- Another installation owns one of the artifacts. -/
def RoutingInspection.foreign (i : RoutingInspection) : Bool :=
  i.foreignManagedRoot || i.foreignInteractiveProfile

/-- The user's own root assignments route Codex elsewhere. -/
def RoutingInspection.unmanaged (i : RoutingInspection) : Bool :=
  i.unmanagedOpenAIBaseURL || i.unmanagedModelCatalog || i.unmanagedModelProvider

/-- Whose routing block a native repair would take out. -/
inductive NativeRepairKind where
  | localRelay | openCodex | other
  deriving DecidableEq, Repr

/-- The text functions of `codexconfig`, for one owner and one Codex home. -/
structure CodexText where
  /-- `InspectRoutingForOwner` on the config and the owner's profile; `none` is an error. -/
  inspect : File → File → Option RoutingInspection
  /-- The managed root block is exactly the one for this base URL and catalog. -/
  rootBlockMatches : String → String → String → Bool
  /-- `prepareEnableForOwner`. -/
  prepareEnable : String → String → String → Option String
  /-- `removeManagedForOwner`. -/
  removeManaged : String → Option String
  /-- `prepareLegacyMigration`. -/
  prepareLegacyMigration : String → Option String
  renderInteractiveProfile : String → String → String
  validInteractiveProfile : String → Bool
  /-- `InspectNativeRepairForOwner`; `none` is an error. -/
  nativeRepairKind : File → File → Option NativeRepairKind

/-- Carriage returns before a line feed are dropped. -/
def normalizeNewlines : List Char → List Char
  | [] => []
  | '\r' :: '\n' :: rest => '\n' :: normalizeNewlines rest
  | first :: rest => first :: normalizeNewlines rest

/-- `readOptional`: a missing config is an empty one. -/
def File.readOptional : File → Option String
  | .absent => some ""
  | .irregular => none
  | .content text => some (String.ofList (normalizeNewlines text.toList))

def CodexText.validateManagedRouting (t : CodexText) (codex profile : File)
    (general interactive catalogPath : String) : Bool :=
  match t.inspect codex profile with
  | none => false
  | some i =>
    i.managedRoot && i.interactiveProfileManaged && !i.foreign && !i.unmanaged &&
      codex.readOptional.any (t.rootBlockMatches · general catalogPath) &&
      profile = .content (t.renderInteractiveProfile interactive catalogPath)

def CodexText.validateNativeRouting (t : CodexText) (codex profile : File) : Bool :=
  match t.inspect codex profile with
  | none => false
  | some i => !i.managedRoot && !i.interactiveProfileExists && !i.foreign && !i.unmanaged

def CodexText.preflightEnable (t : CodexText) (codex profile : File) : Bool :=
  match t.inspect codex profile with
  | none => false
  | some i =>
    !i.foreign &&
      (match profile with
      | .absent => true
      | .irregular => false
      | .content text => t.validInteractiveProfile text) &&
      codex.readOptional.any fun text => (t.prepareEnable text "" "").isSome

/-- `PlanLegacyMigrationWithInteractiveProfileForOwner`: `some true` when a recognised legacy
    cleanup is needed. -/
def CodexText.planLegacyMigration (t : CodexText) (codex profile : File) : Option Bool :=
  match codex.readOptional.bind t.prepareLegacyMigration with
  | none => if t.preflightEnable codex profile then some false else none
  | some _ => if profile = .absent then some true else none

/-! ## Writes and questions -/

/-- One atomic replacement or removal of one file. -/
inductive FileWrite where
  | marker
  | state (next : State)
  | journal (next : TransactionJournal)
  | removeJournal
  | maintenance (next : MaintenanceJournal)
  | removeMaintenance
  | runtimeRouting (next : RuntimeRoutingJournal)
  | removeRuntimeRouting
  | relay (text : String)
  | linkGatewayBackup
  | removeGatewayBackup
  | codex (text : String)
  | removeCodex
  | profile (text : String)
  | removeProfile
  | legacyBackup (text : String)
  deriving DecidableEq

def FileWrite.apply : FileWrite → Disk → Disk
  | .marker, d => { d with marker := .record () }
  | .state next, d => { d with state := .record next }
  | .journal next, d => { d with journal := .record next }
  | .removeJournal, d => { d with journal := .absent }
  | .maintenance next, d => { d with maintenance := .record next }
  | .removeMaintenance, d => { d with maintenance := .absent }
  | .runtimeRouting next, d => { d with runtimeRouting := .record next }
  | .removeRuntimeRouting, d => { d with runtimeRouting := .absent }
  | .relay text, d => { d with relay := .content text }
  -- a hard link: the backup keeps the bytes the live path has now
  | .linkGatewayBackup, d => { d with gatewayBackup := d.relay }
  | .removeGatewayBackup, d => { d with gatewayBackup := .absent }
  | .codex text, d => { d with codex := .content text }
  | .removeCodex, d => { d with codex := .absent }
  | .profile text, d => { d with profile := .content text }
  | .removeProfile, d => { d with profile := .absent }
  | .legacyBackup text, d => { d with legacyBackup := .content text }

inductive ControlOperation where
  | maintenanceCommit | maintenanceRollback
  deriving DecidableEq, Repr

/-- What an operation asks its surroundings. -/
inductive Query where
  /-- Did this atomic replacement take place? -/
  | store (w : FileWrite)
  /-- Did the directory sync after a replaced `relay.json` succeed? -/
  | syncConfigDirectory
  /-- Has the external recovery gate no objection? -/
  | recoveryGate
  /-- Does the removal-recovery witness bind these recovery inputs? -/
  | removalWitnessMatches
  | rebindRemovalWitness
  /-- Do the credentials for this configuration load and validate? -/
  | loadCredentials (cfg : CredentialsConfig)
  /-- Loaded once more, are they the same? -/
  | credentialsUnchanged (cfg : CredentialsConfig)
  /-- Is the local runtime ready behind this base URL? -/
  | localPreflight (baseURL : String)
  | applePreflight
  | validateGateway (cfg : Config)
  | awaitParked (s : State)
  | awaitFinalized (s : State)
  | materializeLocalCatalog (cfg : Config)
  | runtimeApply (generation : UInt64) (target : Backend)
  /-- Does the status after a transaction show the state that is on disk? -/
  | statusCurrent
  /-- Has no other program edited the Codex files since they were last looked at?  The routing lock
      does not cover them. -/
  | codexUnedited
  | createNativeRepairBackup
  /-- Is the other owner's configuration valid and its integration known? -/
  | nativeOwnerReady
  /-- Did the other owner restore native routing? -/
  | nativeOwnerRestored
  /-- If it did not, has it changed nothing and may be asked again? -/
  | nativeOwnerRetryable
  | nativeOwnerDisabled
  /-- The maintenance runtime of the resident relay. -/
  | runtimePrepare
  | runtimeVerify (operation : ControlOperation)
  /-- Cannot fail: the answer is not looked at. -/
  | runtimeResume
  deriving DecidableEq

/-- A step of an operation: a program over the files whose questions are answered by yes or no. -/
abbrev Op (α : Type) := Prog Disk Query (fun _ => Bool) α

/-- What an observer sees of an operation. -/
abbrev Observed := Event Disk Query (fun _ => Bool)

/-- The surroundings may answer anything. -/
abbrev anyReply : Env Disk Query (fun _ => Bool) := anyAnswer

/-- Everything that is asked for succeeds. -/
def everythingSucceeds : Env Disk Query (fun _ => Bool) := fun _ _ answer => answer = true

/-- The answers of that environment. -/
def succeed (_ : Query) (_ : Disk) : Bool := true

theorem everythingSucceeds_succeed (q : Query) (d : Disk) : everythingSucceeds q d (succeed q d) :=
  rfl

/-- Attempt one replacement.  A refused replacement leaves the file as it was. -/
def store (w : FileWrite) : Op (Except Err Unit) := do
  if ← ask (Query.store w) then
    modify w.apply
    pure (.ok ())
  else pure (.error .io)

/-- Put a question; a no is the error `e`. -/
def require (q : Query) (e : Err) : Op (Except Err Unit) := do
  if ← ask q then pure (.ok ()) else pure (.error e)

/-- Give up with an error. -/
def refuse {α : Type} (e : Err) : Op (Except Err α) := pure (.error e)

section Rules

variable {α β : Type} {E : Env Disk Query (fun _ => Bool)} {C : Observed → Prop}

/-- **The rule for one replacement.** -/
theorem safe_store {w : FileWrite} {post : Except Err Unit → Disk → Prop} {d : Disk}
    (hask : C (.asked (.store w) d)) (hwrote : C (.wrote d (w.apply d)))
    (hok : post (.ok ()) (w.apply d)) (herr : post (.error .io) d) :
    Safe E C (store w) post d := by
  refine ⟨hask, fun answer _ => ?_⟩
  cases answer with
  | true => exact ⟨hwrote, hok⟩
  | false => exact herr

/-- **The rule for one question.** -/
theorem safe_require {q : Query} {e : Err} {post : Except Err Unit → Disk → Prop} {d : Disk}
    (hask : C (.asked q d)) (hok : post (.ok ()) d) (herr : post (.error e) d) :
    Safe E C (require q e) post d := by
  refine ⟨hask, fun answer _ => ?_⟩
  cases answer with
  | true => exact hok
  | false => exact herr

end Rules

end OpenCodexRelay.Routing
