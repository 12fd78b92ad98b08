/-
  The migration of the state that was kept under the legacy name.

  `apply` copies ten files and three Keychain items to their new names, and rewrites the marked block of
  the Codex config in place.  Before it touches anything it says so in a journal; `rollback` reads the
  journal and takes everything back.  Both are interrupted like any other process.

  1. `transformMapping`: the new content of a file.
  2. `Disk`: the files, the Keychain and the journal.  Every access may fail, which is a question to
     the environment; `security` may also fail AFTER it has done what it was asked to.
  3. `inspect`, `apply`, `rollback`, as programs over the disk.  The journal that `apply` holds in
     memory is passed along, since it writes that one when it gives up.

  The journal's JSON is read back as it was written.  The Codex config is taken to be a file of its own,
  none of the others.
-/
import OpenCodexRelay.Durable
import OpenCodexRelay.Json
import OpenCodexRelay.Text

namespace LegacyMigration

open Durable Json Text

abbrev Bytes := List Byte

/-! ## The content of a migrated file -/

def newStem : Bytes := ascii "opencodex-relay"

def legacyStem : Bytes := ascii "pw-opencodex"

/-- `strings.Replacer.Replace`: at every place the first of the old texts that stands there.  `skip`
    bytes belong to the last one. -/
def replace (pairs : List (Bytes × Bytes)) : ℕ → Bytes → Bytes
  | _, [] => []
  | skip + 1, _ :: rest => replace pairs skip rest
  | 0, b :: rest =>
    match pairs.find? fun pair => pair.1.isPrefixOf (b :: rest) with
    | some (old, new) => new ++ replace pairs (old.length - 1) rest
    | none => b :: replace pairs 0 rest

/-- `bytes.Count`: occurrences that do not overlap. -/
def count (pat : Bytes) : ℕ → Bytes → ℕ
  | _, [] => 0
  | skip + 1, _ :: rest => count pat skip rest
  | 0, b :: rest =>
    if pat.isPrefixOf (b :: rest) then 1 + count pat (pat.length - 1) rest else count pat 0 rest

def transform (content : Bytes) : Bytes :=
  replace [(legacyStem ++ ascii "-relay-dev", newStem ++ ascii "-dev"),
    (legacyStem ++ ascii "-relay", newStem),
    (legacyStem ++ ascii "-dev", newStem ++ ascii "-dev"),
    (legacyStem, newStem)] 0 content

inductive Name where
  | relayConfig
  | routingState
  | routingInitialized
  | catalog
  | catalogPending
  | catalogPrevious
  | localCatalog
  | localCatalogPending
  | localCatalogPrevious
  | interactiveProfile
  | codexMarkers
  deriving DecidableEq, Repr

/-- The files: under the legacy name and under the new one, the Codex config, and the backups. -/
inductive Path where
  | legacy (name : Name)
  | current (name : Name)
  | codexConfig
  | backup (name : Name)
  deriving DecidableEq, Repr

structure Mapping where
  name : Name
  source : Path
  destination : Path
  inPlace : Bool
  deriving DecidableEq, Repr

def moved (name : Name) : Mapping := ⟨name, .legacy name, .current name, false⟩

/-- `paths`. -/
def mappings : List Mapping :=
  [moved .relayConfig, moved .routingState, moved .routingInitialized, moved .catalog,
    moved .catalogPending, moved .catalogPrevious, moved .localCatalog, moved .localCatalogPending,
    moved .localCatalogPrevious, moved .interactiveProfile,
    ⟨.codexMarkers, .codexConfig, .codexConfig, true⟩]

inductive Error where
  | io
  | notExist
  | notRegular
  | markerBlockIncomplete
  | markerBlocksCoexist
  | markerBlockOrdering
  | runtimeMaintenanceActive
  | conflictingDestination
  | journalExists
  | destinationConflicts (name : Name)
  | keychainEmpty
  | keychainConflicts
  | keychainChanged
  | modifiedArtifact (name : Name)
  | backupUnavailable (name : Name)
  | invalidWitness
  | modifiedKeychainItem
  deriving DecidableEq, Repr

def transformMapping (item : Mapping) (content : Bytes) : Except Error Bytes :=
  if item.name ≠ .codexMarkers then .ok (transform content)
  else
    let oldBegin := ascii "# >>> " ++ legacyStem ++ ascii "-relay managed begin >>>"
    let oldEnd := ascii "# <<< " ++ legacyStem ++ ascii "-relay managed end <<<"
    let newBegin := ascii "# >>> " ++ newStem ++ ascii " managed begin >>>"
    let newEnd := ascii "# <<< " ++ newStem ++ ascii " managed end <<<"
    let beginCount := count oldBegin 0 content
    let endCount := count oldEnd 0 content
    if beginCount = 0 ∧ endCount = 0 then .ok content
    else if beginCount ≠ 1 ∨ endCount ≠ 1 then .error .markerBlockIncomplete
    else if (index newBegin content).isSome ∨ (index newEnd content).isSome then
      .error .markerBlocksCoexist
    else
      let begin := (index oldBegin content).getD 0
      let last := (index oldEnd content).getD 0
      if last ≤ begin then .error .markerBlockOrdering
      else
        let last := last + oldEnd.length
        .ok (content.take begin ++ transform ((content.take last).drop begin) ++ content.drop last)

/-! ## The disk -/

/-- What `os.Lstat` finds. -/
inductive Entry where
  | file (content : Bytes) (mode : ℕ)
  | irregular
  deriving DecidableEq, Repr

inductive Service where
  | cfAccessClientID
  | cfAccessClientSecret
  | gatewayAPIKey
  deriving DecidableEq, Repr

/-- `services`. -/
def services : List Service := [.cfAccessClientID, .cfAccessClientSecret, .gatewayAPIKey]

/-- A Keychain item: a service under its legacy name, or under its new one. -/
inductive KeychainItem where
  | legacy (service : Service)
  | current (service : Service)
  deriving DecidableEq, Repr

inductive Phase where
  | applying
  | recoveryRequired
  | applied
  | rolledBack
  deriving DecidableEq, Repr

/-- `δ` are the texts of digests. -/
structure JournalArtifact (δ : Type) where
  name : Name
  path : Path
  created : Bool
  backup : Option Path
  afterSHA256 : δ
  deriving DecidableEq, Repr

structure JournalKeychain (δ : Type) where
  name : Service
  service : KeychainItem
  created : Bool
  afterSHA256 : δ
  deriving DecidableEq, Repr

structure Journal (δ : Type) where
  phase : Phase
  artifacts : List (JournalArtifact δ)
  keychain : List (JournalKeychain δ)
  deriving DecidableEq, Repr

/-- `maintenance`: a runtime-maintenance journal stands under one of the two names. -/
structure Disk (δ : Type) where
  files : Path → Option Entry
  keychain : KeychainItem → Option Bytes
  journal : Option (Journal δ)
  maintenance : Bool

/-- Does this call succeed? -/
inductive Access where
  | lstat (path : Path)
  | lstatMaintenance
  | lstatJournal
  | readFile (path : Path)
  | atomicWrite (path : Path)
  | remove (path : Path)
  | mkdirAll
  | writeJournal
  | readJournal
  | account
  | security
  deriving DecidableEq, Repr

section Programs

variable {δ : Type}

abbrev Op (δ : Type) (α : Type) := Prog (Disk δ) Access (fun _ => Bool) (Except Error α)

/-- A call that may fail before it does anything. -/
def access {α : Type} (a : Access) (k : Op δ α) : Op δ α :=
  .call a fun ok => if ok then k else .ret (.error .io)

def regular (path : Path) : Op δ Bool :=
  access (.lstat path) <| .read fun d => match d.files path with
    | none => .ret (.ok false)
    | some .irregular => .ret (.error .notRegular)
    | some (.file _ _) => .ret (.ok true)

def readFile (path : Path) : Op δ Bytes :=
  access (.readFile path) <| .read fun d => match d.files path with
    | none => .ret (.error .notExist)
    | some .irregular => .ret (.error .io)
    | some (.file content _) => .ret (.ok content)

namespace Disk

def withFile (d : Disk δ) (path : Path) (entry : Option Entry) : Disk δ :=
  { d with files := Function.update d.files path entry }

def withItem (d : Disk δ) (item : KeychainItem) (value : Option Bytes) : Disk δ :=
  { d with keychain := Function.update d.keychain item value }

def withJournal (d : Disk δ) (record : Journal δ) : Disk δ := { d with journal := some record }

theorem withFile_self (d : Disk δ) (path : Path) (entry : Option Entry) :
    (d.withFile path entry).files path = entry := by
  simp [withFile]

theorem withFile_of_ne (d : Disk δ) {path p : Path} (entry : Option Entry) (h : p ≠ path) :
    (d.withFile path entry).files p = d.files p := by
  simp [withFile, h]

theorem withFile_same (d : Disk δ) {path : Path} {entry : Option Entry}
    (h : d.files path = entry) : d.withFile path entry = d := by
  rw [withFile, ← h, Function.update_eq_self]

theorem withItem_self (d : Disk δ) (item : KeychainItem) (value : Option Bytes) :
    (d.withItem item value).keychain item = value := by
  simp [withItem]

theorem withItem_of_ne (d : Disk δ) {item i : KeychainItem} (value : Option Bytes)
    (h : i ≠ item) : (d.withItem item value).keychain i = d.keychain i := by
  simp [withItem, h]

theorem withItem_same (d : Disk δ) {item : KeychainItem} {value : Option Bytes}
    (h : d.keychain item = value) : d.withItem item value = d := by
  rw [withItem, ← h, Function.update_eq_self]

end Disk

/-- `atomicWrite`: the file is replaced by one step, the rename. -/
def atomicWrite (path : Path) (content : Bytes) (mode : ℕ) : Op δ Unit :=
  access (.atomicWrite path) <|
    .write (·.withFile path (some (.file content mode))) <| .ret (.ok ())

def remove (path : Path) : Op δ Unit :=
  access (.remove path) <| .write (·.withFile path none) <| .ret (.ok ())

def writeJournal (record : Journal δ) : Op δ Unit :=
  access .writeJournal <| .write (·.withJournal record) <| .ret (.ok ())

/-! ## The Keychain -/

variable (digest : Bytes → δ)

/-- `readKeychain`. -/
def readKeychain (item : KeychainItem) : Op δ (Option Bytes) :=
  access .security <| .read fun d => match d.keychain item with
    | none => .ret (.ok none)
    | some [] => .ret (.error .keychainEmpty)
    | some value => .ret (.ok (some value))

/-- Whether the two exist, and whether they are equal. -/
def keychainInspect (service : Service) : Op δ (Bool × Bool × Bool) :=
  attempt (readKeychain (.legacy service)) fun old =>
    attempt (readKeychain (.current service)) fun new =>
      .ret (.ok (old.isSome, new.isSome, old.isSome && old == new))

def fingerprint (item : KeychainItem) : Op δ (Option δ) :=
  attempt (readKeychain item) fun value => .ret (.ok (value.map digest))

/-- A change of the Keychain by `security`, which may report a failure all the same. -/
def security {α : Type} (item : KeychainItem) (value : Option Bytes) (k : Op δ α) : Op δ α :=
  access .security <| .write (·.withItem item value) <| access .security k

/-! ## `inspect` -/

inductive ItemState where
  | absent
  | pending
  | unchanged
  | alreadyMigrated
  | conflict
  deriving DecidableEq, Repr

inductive Status where
  | ready
  | blocked
  | applied
  | rolledBack
  deriving DecidableEq, Repr

structure ArtifactStatus where
  name : Name
  sourceExists : Bool
  destinationExists : Bool
  state : ItemState
  deriving DecidableEq, Repr

structure KeychainStatus where
  name : Service
  legacy : Bool
  destination : Bool
  state : ItemState
  deriving DecidableEq, Repr

structure Result where
  status : Status
  artifacts : List ArtifactStatus
  keychain : List KeychainStatus
  deriving DecidableEq, Repr

/-- The state of a file, and of a Keychain item; a conflict blocks. -/
def Result.withArtifact (r : Result) (status : ArtifactStatus) : Result :=
  ⟨if status.state = .conflict then .blocked else r.status, r.artifacts ++ [status], r.keychain⟩

def Result.withKeychain (r : Result) (status : KeychainStatus) : Result :=
  ⟨if status.state = .conflict then .blocked else r.status, r.artifacts, r.keychain ++ [status]⟩

/-- `transformMapping` in the middle of a program. -/
def converted {α : Type} (item : Mapping) (content : Bytes) (k : Bytes → Op δ α) : Op δ α :=
  match transformMapping item content with
  | .error e => .ret (.error e)
  | .ok bytes => k bytes

def inspectArtifact (item : Mapping) : Op δ ArtifactStatus :=
  attempt (regular item.source) fun source =>
  attempt (regular item.destination) fun destination =>
    let status (state : ItemState) : ArtifactStatus := ⟨item.name, source, destination, state⟩
    if item.inPlace && source then
      attempt (readFile item.source) fun content =>
        converted item content fun bytes =>
          .ret (.ok (status (if content = bytes then .unchanged else .pending)))
    else if source && destination then
      attempt (readFile item.source) fun oldContent =>
      attempt (readFile item.destination) fun newContent =>
        converted item oldContent fun bytes =>
          .ret (.ok (status (if bytes = newContent then .alreadyMigrated else .conflict)))
    else .ret (.ok (status (if source then .pending else .absent)))

def inspectArtifacts : List Mapping → Result → Op δ Result
  | [], r => .ret (.ok r)
  | item :: rest, r => attempt (inspectArtifact item) fun status =>
    inspectArtifacts rest (r.withArtifact status)

def inspectKeychainItem (service : Service) : Op δ KeychainStatus :=
  attempt (keychainInspect service) fun (oldExists, newExists, equal) =>
    .ret (.ok ⟨service, oldExists, newExists,
      if oldExists && newExists then (if equal then .alreadyMigrated else .conflict)
      else if oldExists then .pending else .absent⟩)

def inspectKeychain : List Service → Result → Op δ Result
  | [], r => .ret (.ok r)
  | service :: rest, r => attempt (inspectKeychainItem service) fun status =>
    inspectKeychain rest (r.withKeychain status)

def inspect : Op δ Result :=
  attempt (inspectArtifacts mappings ⟨.ready, [], []⟩) fun r =>
    access .account <| inspectKeychain services r

/-! ## `apply` -/

variable [DecidableEq δ] (validDigest : δ → Bool)

/-- `Copy`: whether the item has been created. -/
def keychainCopy (service : Service) (expected : δ) : Op δ Bool :=
  attempt (readKeychain (.legacy service)) fun old => match old with
    | none => .ret (.ok false)
    | some oldValue =>
      if validDigest expected = false ∨ digest oldValue ≠ expected then
        .ret (.error .keychainChanged)
      else attempt (readKeychain (.current service)) fun new => match new with
        | some newValue =>
          if oldValue ≠ newValue then .ret (.error .keychainConflicts) else .ret (.ok false)
        | none => security (.current service) (some oldValue) (.ret (.ok true))

def deleteIfMatching (item : KeychainItem) (expected : δ) : Op δ Bool :=
  attempt (readKeychain item) fun value => match value with
    | none => .ret (.ok false)
    | some value =>
      if validDigest expected = false ∨ digest value ≠ expected then .ret (.error .keychainChanged)
      else security item none (.ret (.ok true))

/-- A part of `apply`: the journal in memory, also when it fails. -/
abbrev Step (δ : Type) :=
  Prog (Disk δ) Access (fun _ => Bool) (Except (Error × Journal δ) (Journal δ))

/-- A call of `apply` that leaves the journal in memory as it is. -/
def within {α : Type} (record : Journal δ) (p : Op δ α) (k : α → Step δ) : Step δ :=
  guarded p (fun e => .ret (.error (e, record))) k

def Journal.withArtifact (record : Journal δ) (entry : JournalArtifact δ) : Journal δ :=
  { record with artifacts := record.artifacts ++ [entry] }

def Journal.withKeychain (record : Journal δ) (entry : JournalKeychain δ) : Journal δ :=
  { record with keychain := record.keychain ++ [entry] }

/-- The entry goes to the journal, and then the new content to its place. -/
def migrate (item : Mapping) (entry : JournalArtifact δ) (bytes : Bytes) (record : Journal δ) :
    Step δ :=
  let record := record.withArtifact entry
  within record (writeJournal record) fun _ =>
    within record (atomicWrite item.destination bytes 0o600) fun _ => .ret (.ok record)

def applyArtifact (item : Mapping) (record : Journal δ) : Step δ :=
  within record (regular item.source) fun source =>
    if source = false then .ret (.ok record)
    else within record (readFile item.source) fun content =>
      within record (converted item content fun bytes => .ret (.ok bytes)) fun bytes =>
        if content = bytes ∧ item.inPlace then .ret (.ok record)
        else if item.inPlace = false then
          within record (regular item.destination) fun destination =>
            if destination then
              within record (readFile item.destination) fun destinationContent =>
                if destinationContent = bytes then .ret (.ok record)
                else .ret (.error (.destinationConflicts item.name, record))
            else migrate item ⟨item.name, item.destination, true, none, digest bytes⟩ bytes record
        else
          let backup := Path.backup item.name
          within record (atomicWrite backup content 0o600) fun _ =>
            migrate item ⟨item.name, item.destination, false, some backup, digest bytes⟩ bytes record

def applyArtifacts : List Mapping → Journal δ → Step δ
  | [], record => .ret (.ok record)
  | item :: rest, record => attempt (applyArtifact digest item record) (applyArtifacts rest)

/-- The last entry says that nothing was created after all. -/
def Journal.disown (record : Journal δ) (entry : JournalKeychain δ) : Journal δ :=
  { record with keychain := record.keychain.dropLast ++ [{ entry with created := false }] }

def applyKeychainItem (service : Service) (record : Journal δ) : Step δ :=
  within record (keychainInspect service) fun (oldExists, newExists, equal) =>
    if oldExists = false ∨ (newExists ∧ equal) then .ret (.ok record)
    else if newExists then .ret (.error (.keychainConflicts, record))
    else within record (fingerprint digest (.legacy service)) fun expected => match expected with
      | none => .ret (.error (.keychainChanged, record))
      | some expected =>
        if validDigest expected = false then .ret (.error (.keychainChanged, record))
        else
          let entry : JournalKeychain δ := ⟨service, .current service, true, expected⟩
          let record := record.withKeychain entry
          within record (writeJournal record) fun _ =>
            within record (keychainCopy digest validDigest service expected) fun created =>
              if created then .ret (.ok record)
              else
                let record := record.disown entry
                within record (writeJournal record) fun _ => .ret (.error (.keychainChanged, record))

def applyKeychain : List Service → Journal δ → Step δ
  | [], record => .ret (.ok record)
  | service :: rest, record =>
    attempt (applyKeychainItem digest validDigest service record) (applyKeychain rest)

/-- The part of `apply` that runs under its deferred function. -/
def applyDeferred (record : Journal δ) :
    Prog (Disk δ) Access (fun _ => Bool) (Except (Error × Journal δ) Result) :=
  attempt (applyArtifacts digest mappings record) fun record =>
    guarded (access .account (.ret (.ok ()))) (fun e => .ret (.error (e, record))) fun _ =>
      attempt (applyKeychain digest validDigest services record) fun record =>
        let record := { record with phase := .applied }
        guarded (writeJournal record) (fun e => .ret (.error (e, record))) fun _ =>
          guarded inspect (fun e => .ret (.error (e, record))) fun r =>
            .ret (.ok { r with status := .applied })

def apply : Op δ Result :=
  attempt inspect fun preflight =>
    if preflight.status = .blocked then .ret (.error .conflictingDestination)
    else access .lstatJournal <| .read fun d =>
      if d.journal.isSome then .ret (.error .journalExists)
      else access .mkdirAll <|
        let record : Journal δ := ⟨.applying, [], []⟩
        attempt (writeJournal record) fun _ =>
          guarded (applyDeferred digest validDigest record)
            (fun (e, record) =>
              writeJournal { record with phase := .recoveryRequired } >>= fun _ => .ret (.error e))
            fun r => .ret (.ok r)

/-! ## `rollback` -/

/-- What is read of an artifact: `none` if it has been created and is missing. -/
def readArtifact (item : JournalArtifact δ) : Op δ (Option Bytes) :=
  guarded (readFile item.path)
    (fun e => if e = .notExist ∧ item.created then .ret (.ok none) else .ret (.error e))
    fun content => .ret (.ok (some content))

def checkArtifact (item : JournalArtifact δ) : Op δ Unit :=
  attempt (readArtifact item) fun content => match content with
    | none => .ret (.ok ())
    | some content =>
      if digest content ≠ item.afterSHA256 then .ret (.error (.modifiedArtifact item.name))
      else if item.created then .ret (.ok ())
      else match item.backup with
        | none => .ret (.error (.backupUnavailable item.name))
        | some backup =>
          guarded (regular backup) (fun _ => .ret (.error (.backupUnavailable item.name)))
            fun found => if found then .ret (.ok ()) else .ret (.error (.backupUnavailable item.name))

def checkArtifacts : List (JournalArtifact δ) → Op δ Unit
  | [] => .ret (.ok ())
  | item :: rest => attempt (checkArtifact digest item) fun _ => checkArtifacts rest

def checkKeychainItem (item : JournalKeychain δ) : Op δ Unit :=
  if item.created = false then .ret (.ok ())
  else if validDigest item.afterSHA256 = false then .ret (.error .invalidWitness)
  else attempt (fingerprint digest item.service) fun current =>
    if current.any (· ≠ item.afterSHA256) then .ret (.error .modifiedKeychainItem) else .ret (.ok ())

def checkKeychain : List (JournalKeychain δ) → Op δ Unit
  | [] => .ret (.ok ())
  | item :: rest => attempt (checkKeychainItem digest validDigest item) fun _ => checkKeychain rest

def deleteKeychain : List (JournalKeychain δ) → Op δ Unit
  | [] => .ret (.ok ())
  | item :: rest =>
    if item.created then
      attempt (deleteIfMatching digest validDigest item.service item.afterSHA256) fun _ =>
        deleteKeychain rest
    else deleteKeychain rest

def restoreArtifact (item : JournalArtifact δ) : Op δ Unit :=
  attempt (readArtifact item) fun content => match content with
    | none => .ret (.ok ())
    | some content =>
      if digest content ≠ item.afterSHA256 then .ret (.error (.modifiedArtifact item.name))
      else if item.created then remove item.path
      else match item.backup with
        | none => .ret (.error .notExist)
        | some backup => attempt (readFile backup) fun content => atomicWrite item.path content 0o600

def restoreArtifacts : List (JournalArtifact δ) → Op δ Unit
  | [] => .ret (.ok ())
  | item :: rest => attempt (restoreArtifact digest item) fun _ => restoreArtifacts rest

def readJournal : Op δ (Journal δ) :=
  access .readJournal <| .read fun d => match d.journal with
    | none => .ret (.error .notExist)
    | some record =>
      if record.keychain.any (fun item => item.created && !validDigest item.afterSHA256) then
        .ret (.error .invalidWitness)
      else .ret (.ok record)

def rollback : Op δ Result :=
  attempt (readJournal validDigest) fun record =>
    attempt (checkArtifacts digest record.artifacts) fun _ =>
      access .account <| attempt (checkKeychain digest validDigest record.keychain) fun _ =>
        attempt (deleteKeychain digest validDigest record.keychain.reverse) fun _ =>
          attempt (restoreArtifacts digest record.artifacts.reverse) fun _ =>
            attempt (writeJournal { record with phase := .rolledBack }) fun _ =>
              attempt inspect fun r => .ret (.ok { r with status := .rolledBack })

/-! ## `Run` -/

def requireRuntimeMaintenanceAbsent {α : Type} (k : Op δ α) : Op δ α :=
  .call .lstatMaintenance fun ok => .read fun d =>
    if ok = false ∨ d.maintenance then .ret (.error .runtimeMaintenanceActive) else k

inductive Operation where
  | inspect
  | apply
  | rollback
  deriving DecidableEq, Repr

def runOperation (operation : Operation) : Op δ Result :=
  requireRuntimeMaintenanceAbsent <| match operation with
    | .inspect => inspect
    | .apply => apply digest validDigest
    | .rollback => rollback digest validDigest

end Programs

end LegacyMigration

