/-
  The installer of the privileged helper.

  `install`, `update` and `uninstall` change two files and a service.  Each of them first creates a
  transaction directory with a journal and copies of the two files, and deletes that directory as its
  last step; as long as it exists every other command is refused, and `recover` finishes or takes back
  what was begun.

  1. `Disk`: the two files, whether the service is loaded, and the transaction directory, entry by entry.
  2. `Call`: the calls that may fail.  A file is published by a rename and synchronised afterwards, so it
     may be in place although the call has failed; the same holds for the service.  The entries of the
     directory are deleted one by one, in an order that the system chooses (`removalOrder`).
  3. `beginTransaction`, `replaceInstallation`, `removeInstallation`, `finishTransaction`,
     `restoreOriginalState`, `recoverInterruptedTransaction`, `perform`.

  Temporary files, identifiers of transactions and the receipts' texts are left out.
-/
import OpenCodexRelay.Durable
import OpenCodexRelay.Json

namespace HelperInstaller

open Durable Json

abbrev Bytes := List Byte

inductive Command where
  | status
  | install
  | update
  | uninstall
  | recover
  deriving DecidableEq, Repr

inductive InstallerState where
  | installRequired
  | updateRequired
  | ready
  | recoveryRequired
  deriving DecidableEq, Repr

inductive ErrorCode where
  | rootRequired
  | artifactInvalid
  | installRequired
  | updateRequired
  | busy
  | recoveryRequired
  | protectionActive
  | installationFailed
  | daemonLaunchFailed
  | rollbackFailed
  | recoveryUnavailable
  | recoveryVerificationFailed
  deriving DecidableEq, Repr

inductive FailureReason where
  | permissionDenied
  | unsafeParent
  | sourceUnreadable
  | publishFailed
  | durabilityFailed
  | ownerOrModeMismatch
  | signatureInvalid
  | daemonStopFailed
  | daemonStartRejected
  | daemonNotLoaded
  | probeSpawnFailed
  | probeTimeout
  | xpcRejected
  | invalidResponse
  | unknown
  deriving DecidableEq, Repr

inductive RollbackResult where
  | notNeeded
  | completed
  | failed
  deriving DecidableEq, Repr

/-- What is thrown: a code, a reason, or a failure that already has both. -/
inductive Thrown where
  | code (c : ErrorCode)
  | reason (r : FailureReason)
  | failure (c : ErrorCode) (r : FailureReason) (rollback : RollbackResult)
  deriving DecidableEq, Repr

/-- `HelperInstallerDiagnostics.failure`; the phase, which only goes to the receipt, is left out, except
    whether it is the signature check. -/
def diagnose (signatureCheck : Bool) (fallback : FailureReason) (fallbackCode : ErrorCode) :
    Thrown → Thrown
  | .failure c r rollback => .failure c r rollback
  | .reason r =>
    let code := match r with
      | .signatureInvalid => .artifactInvalid
      | .daemonStartRejected | .daemonNotLoaded | .probeSpawnFailed | .probeTimeout | .xpcRejected
      | .invalidResponse => .daemonLaunchFailed
      | _ => fallbackCode
    .failure code r .notNeeded
  | .code c =>
    .failure c (if c = .artifactInvalid ∧ signatureCheck then .signatureInvalid else fallback) .notNeeded

/-- `changing`, on what has been diagnosed. -/
def Thrown.changing (code : Option ErrorCode) (rollback : RollbackResult) : Thrown → Thrown
  | .failure c r _ => .failure (code.getD c) r rollback
  | e => e

/-! ## The disk -/

inductive Phase where
  | preparing
  | backupsReady
  | mutationStarted
  | helperChanged
  | plistChanged
  | serviceStopped
  | serviceStarted
  | activationVerified
  deriving DecidableEq, Repr

/-- `δ` are the texts of digests. -/
structure Witness (δ : Type) where
  size : ℕ
  sha256 : δ
  deriving DecidableEq, Repr

structure Journal (δ : Type) where
  command : Command
  phase : Phase
  hadHelper : Bool
  hadPlist : Bool
  wasServiceLoaded : Bool
  helperWitness : Option (Witness δ)
  plistWitness : Option (Witness δ)
  deriving DecidableEq, Repr

def Journal.changingPhase {δ : Type} (j : Journal δ) (phase : Phase) : Journal δ := { j with phase }

/-- A regular file of the expected owner, or anything else. -/
inductive Entry where
  | file (content : Bytes) (mode : ℕ)
  | other
  deriving DecidableEq, Repr

/-- The transaction directory. -/
structure Transaction (δ : Type) where
  journal : Option (Journal δ)
  helperBackup : Option Entry
  plistBackup : Option Entry
  deriving DecidableEq, Repr

/-- `protection`: the protection journal exists. -/
structure Disk (δ : Type) where
  helper : Option Entry
  plist : Option Entry
  loaded : Bool
  protection : Bool
  transaction : Option (Transaction δ)
  deriving DecidableEq, Repr

inductive File where
  | helper
  | plist
  | helperBackup
  | plistBackup
  deriving DecidableEq, Repr

/-- The entries of the transaction directory. -/
inductive Part where
  | journal
  | helperBackup
  | plistBackup
  deriving DecidableEq, Repr

section Disk

variable {δ : Type}

def Disk.get (d : Disk δ) : File → Option Entry
  | .helper => d.helper
  | .plist => d.plist
  | .helperBackup => d.transaction.bind (·.helperBackup)
  | .plistBackup => d.transaction.bind (·.plistBackup)

def Disk.set (d : Disk δ) (entry : Option Entry) : File → Disk δ
  | .helper => { d with helper := entry }
  | .plist => { d with plist := entry }
  | .helperBackup =>
    { d with transaction := d.transaction.map fun t => { t with helperBackup := entry } }
  | .plistBackup =>
    { d with transaction := d.transaction.map fun t => { t with plistBackup := entry } }

def Disk.journal (d : Disk δ) : Option (Journal δ) := d.transaction.bind (·.journal)

def Disk.withJournal (d : Disk δ) (j : Option (Journal δ)) : Disk δ :=
  { d with transaction := d.transaction.map fun t => { t with journal := j } }

def Disk.withLoaded (d : Disk δ) (loaded : Bool) : Disk δ := { d with loaded }

def Disk.withTransaction (d : Disk δ) (t : Option (Transaction δ)) : Disk δ :=
  { d with transaction := t }

def Disk.has (d : Disk δ) : Part → Bool
  | .journal => d.journal.isSome
  | .helperBackup => (d.get .helperBackup).isSome
  | .plistBackup => (d.get .plistBackup).isSome

def Disk.without (d : Disk δ) : Part → Disk δ
  | .journal => d.withJournal none
  | .helperBackup => d.set none .helperBackup
  | .plistBackup => d.set none .plistBackup

end Disk

/-! ## Calls that may fail -/

inductive Call where
  | validateArtifacts
  | root
  | ensureStateDirectory
  | acquireProtectionLock
  | ensurePublishingDirectories
  | createTransactionDirectory
  | checkTransactionDirectory
  | publish (file : File)
  | synchronize (file : File)
  | publishJournal
  | synchronizeJournal
  | remove (file : File)
  | removePart (part : Part)
  | removeTransactionDirectory
  | synchronizeDirectories
  | bootout
  | bootoutStatus
  | bootstrap
  | bootstrapStatus
  | validateInstalledHelper
  | probeReadiness
  deriving DecidableEq, Repr

inductive Question where
  | call (c : Call)
  | removalOrder
  deriving DecidableEq, Repr

/-- `none` if the call succeeds. -/
abbrev Answer : Question → Type
  | .call _ => Option Thrown
  | .removalOrder => List Part

abbrev Op (δ α : Type) := Prog (Disk δ) Question Answer (Except Thrown α)

/-- What the installer works with: the digest of a content and which texts are digests, the helper that is
    to be installed, the property list, and whether an installed one matches. -/
structure Setup (δ : Type) where
  digest : Bytes → δ
  validDigest : δ → Bool
  sourceHelper : Bytes
  daemonPlistData : Bytes
  plistMatches : Bytes → Bool

section Programs

variable {δ : Type} {α : Type}

def calling (c : Call) (k : Op δ α) : Op δ α :=
  .call (.call c) fun answer => match answer with
    | none => k
    | some thrown => .ret (.error thrown)

def throwing (c : ErrorCode) : Op δ α := .ret (.error (.code c))

/-- `diagnosed`. -/
def diagnosed (fallback : FailureReason) (p : Op δ α) (k : α → Op δ Unit) : Op δ Unit :=
  guarded p (fun e => .ret (.error (diagnose false fallback .installationFailed e))) k

def atomicWrite (content : Bytes) (file : File) (mode : ℕ) : Op δ Unit :=
  if 64 * 1024 * 1024 < content.length then throwing .artifactInvalid
  else calling (.publish file) <| .write (·.set (some (.file content mode)) file) <|
    calling (.synchronize file) <| .ret (.ok ())

/-- `atomicCopy` from one of the files. -/
def atomicCopy (source destination : File) (mode : ℕ) : Op δ Unit :=
  .read fun d => match d.get source with
    | some (.file content _) => atomicWrite content destination mode
    | _ => .ret (.error (.reason .sourceUnreadable))

/-- `if pathExists(url) { try fileManager.removeItem(at: url) }`. -/
def removeIfExists (file : File) : Op δ Unit :=
  .read fun d => if (d.get file).isSome then
      calling (.remove file) <| .write (·.set none file) <| .ret (.ok ())
    else .ret (.ok ())

def bootout : Op δ Unit :=
  calling .bootout <| .write (·.withLoaded false) <| calling .bootoutStatus <| .ret (.ok ())

def bootstrap : Op δ Unit :=
  calling .bootstrap <| .write (·.withLoaded true) <| calling .bootstrapStatus <| .ret (.ok ())

/-! ## Witnesses and the journal -/

variable (S : Setup δ)

/-- `fileWitness`, of what stands at the path. -/
def fileWitness (entry : Option Entry) (requiredMode maximumBytes : ℕ) : Except Thrown (Witness δ) :=
  match entry with
  | some (.file content mode) =>
    if mode = requiredMode ∧ content.length ≤ maximumBytes then .ok ⟨content.length, S.digest content⟩
    else .error (.code .recoveryUnavailable)
  | _ => .error (.code .recoveryUnavailable)

def Witness.validated (w : Witness δ) : Bool :=
  decide (w.size ≤ 64 * 1024 * 1024) && S.validDigest w.sha256

def validTransactionJournal (j : Journal δ) : Bool :=
  (j.command == .install || j.command == .update || j.command == .uninstall) &&
    j.hadHelper == j.helperWitness.isSome && j.hadPlist == j.plistWitness.isSome &&
    (j.helperWitness.map (Witness.validated S)).getD true &&
    (j.plistWitness.map (Witness.validated S)).getD true &&
    (!j.wasServiceLoaded || (j.hadHelper && j.hadPlist))

def persistTransactionJournal (j : Journal δ) : Op δ Unit :=
  if validTransactionJournal S j = false then throwing .recoveryUnavailable
  else calling .publishJournal <| .write (·.withJournal (some j)) <|
    calling .synchronizeJournal <| .ret (.ok ())

def loadTransactionJournal : Op δ (Journal δ) :=
  .read fun d => match d.journal with
    | none => throwing .recoveryUnavailable
    | some j => if validTransactionJournal S j then .ret (.ok j) else throwing .recoveryUnavailable

def validTransition (command : Command) (current next : Phase) : Bool :=
  match command with
  | .install | .update => match current, next with
    | .backupsReady, .mutationStarted | .mutationStarted, .helperChanged | .helperChanged, .plistChanged
    | .plistChanged, .serviceStopped | .serviceStopped, .serviceStarted
    | .serviceStarted, .activationVerified => true
    | _, _ => false
  | .uninstall => match current, next with
    | .backupsReady, .mutationStarted | .mutationStarted, .serviceStopped
    | .serviceStopped, .helperChanged | .helperChanged, .plistChanged
    | .plistChanged, .activationVerified => true
    | _, _ => false
  | .status | .recover => false

def updateTransactionPhase (phase : Phase) : Op δ Unit :=
  attempt (loadTransactionJournal S) fun j =>
    if validTransition j.command j.phase phase = false then throwing .recoveryUnavailable
    else persistTransactionJournal S (j.changingPhase phase)

/-! ## The state of the installation -/

def regularFile (entry : Option Entry) (requiredMode : ℕ) : Bool :=
  match entry with
  | some (.file _ mode) => mode == requiredMode
  | _ => false

/-- `filesEqual` with the helper that is to be installed. -/
def helperMatches (entry : Option Entry) : Bool :=
  match entry with
  | some (.file content _) =>
    decide (content.length ≤ 64 * 1024 * 1024 ∧ S.sourceHelper.length ≤ 64 * 1024 * 1024) &&
      content == S.sourceHelper
  | _ => false

def installedPlistMatches (entry : Option Entry) : Bool :=
  match entry with
  | some (.file content _) => decide (content.length ≤ 64 * 1024) && S.plistMatches content
  | _ => false

def artifactInstallationState (d : Disk δ) : InstallerState :=
  if d.helper = none ∧ d.plist = none then .installRequired
  else if !(regularFile d.helper 0o755 && regularFile d.plist 0o644) then .recoveryRequired
  else if !(helperMatches S d.helper && installedPlistMatches S d.plist) then
    .updateRequired
  else .ready

def installationState (d : Disk δ) : InstallerState :=
  if d.transaction.isSome || d.protection then .recoveryRequired
  else artifactInstallationState S d

/-- `targetInstallationMatches`: an error of the validation only says no. -/
def targetInstallationMatches (k : Bool → Op δ α) : Op δ α :=
  .read fun d =>
    if artifactInstallationState S d ≠ .ready then k false
    else .call (.call .validateInstalledHelper) fun answer => match answer with
      | none => k true
      | some _ => k false

variable [DecidableEq δ]

/-- Whether a file, or its absence, is what the journal has witnessed. -/
def witnessMatches (witness : Option (Witness δ)) (entry : Option Entry) (mode maximumBytes : ℕ) :
    Except Thrown Bool :=
  match witness with
  | some w => (fileWitness S entry mode maximumBytes).map (· == w)
  | none => .ok entry.isNone

/-- Whether both files are. -/
def filesMatch (j : Journal δ) (first second : File) (helperMode plistMode : ℕ) (k : Bool → Op δ α) :
    Op δ α :=
  .read fun d =>
    match witnessMatches S j.helperWitness (d.get first) helperMode (64 * 1024 * 1024) with
    | .error e => .ret (.error e)
    | .ok helperOk =>
      match witnessMatches S j.plistWitness (d.get second) plistMode (64 * 1024) with
      | .error e => .ret (.error e)
      | .ok plistOk => k (helperOk && plistOk)

def backupStateMatches (j : Journal δ) (k : Bool → Op δ α) : Op δ α :=
  filesMatch S j .helperBackup .plistBackup 0o600 0o600 k

def originalStateMatches (j : Journal δ) (k : Bool → Op δ α) : Op δ α :=
  filesMatch S j .helper .plist 0o755 0o644 k

/-! ## Transactions -/

/-- The witness of a file that is there. -/
def optionalWitness (entry : Option Entry) (mode maximumBytes : ℕ) :
    Except Thrown (Option (Witness δ)) :=
  if entry.isSome then (fileWitness S entry mode maximumBytes).map some else .ok none

/-- The copy of a file, and the check that it is one. -/
def backUp (had : Bool) (witness : Option (Witness δ)) (file backup : File) (maximumBytes : ℕ) :
    Op δ Unit :=
  if had = false then .ret (.ok ())
  else attempt (atomicCopy file backup 0o600) fun _ => .read fun d =>
    match fileWitness S (d.get backup) 0o600 maximumBytes with
    | .error e => .ret (.error e)
    | .ok w => if some w = witness then .ret (.ok ()) else throwing .recoveryVerificationFailed

/-- The part of `beginTransaction` after the directory. -/
def prepareTransaction (j : Journal δ) : Op δ Unit :=
  attempt (persistTransactionJournal S j) fun _ =>
    attempt (backUp S j.hadHelper j.helperWitness .helper .helperBackup (64 * 1024 * 1024)) fun _ =>
      attempt (backUp S j.hadPlist j.plistWitness .plist .plistBackup (64 * 1024)) fun _ =>
        persistTransactionJournal S (j.changingPhase .backupsReady)

def beginTransaction (command : Command) : Op δ Unit :=
  .read fun d =>
    match optionalWitness S d.helper 0o755 (64 * 1024 * 1024) with
    | .error e => .ret (.error e)
    | .ok helperWitness =>
      match optionalWitness S d.plist 0o644 (64 * 1024) with
      | .error e => .ret (.error e)
      | .ok plistWitness =>
        calling .createTransactionDirectory <|
          .write (·.withTransaction (some ⟨none, none, none⟩)) <|
            calling .checkTransactionDirectory <|
              prepareTransaction S
                ⟨command, .preparing, d.helper.isSome, d.plist.isSome, d.loaded, helperWitness,
                  plistWitness⟩

/-- The entries, one by one. -/
def removeParts : List Part → Op δ Unit
  | [] => .ret (.ok ())
  | part :: rest => .read fun d =>
    if d.has part then calling (.removePart part) <| .write (·.without part) <| removeParts rest
    else removeParts rest

def removeTransactionDirectory : Op δ Unit :=
  .call .removalOrder fun order =>
    attempt (removeParts (order ++ [.journal, .helperBackup, .plistBackup])) fun _ =>
      calling .removeTransactionDirectory <| .write (·.withTransaction none) <| .ret (.ok ())

def finishTransaction : Op δ Unit :=
  calling .synchronizeDirectories removeTransactionDirectory

/-- `serviceIsLoaded`. -/
def serviceIsLoaded (k : Bool → Op δ α) : Op δ α := .read fun d => k d.loaded

def recoveredReceipt : Op δ InstallerState :=
  .read fun d => match artifactInstallationState S d with
    | .recoveryRequired => throwing .recoveryVerificationFailed
    | s => .ret (.ok s)

/-- `if had { atomicCopy(backup) } else if pathExists(url) { remove }`. -/
def putBack (had : Bool) (backup file : File) (mode : ℕ) : Op δ Unit :=
  if had then atomicCopy backup file mode else removeIfExists file

/-- The end of `restoreOriginalState`: the service, and then the directory. -/
def restoreService (j : Journal δ) : Op δ InstallerState :=
  let finish : Op δ InstallerState :=
    attempt finishTransaction fun _ => recoveredReceipt S
  if j.wasServiceLoaded then
    if (j.hadHelper && j.hadPlist) = false then throwing .recoveryUnavailable
    else attempt bootstrap fun _ => serviceIsLoaded fun loaded =>
      if loaded = false then throwing .recoveryVerificationFailed
      else targetInstallationMatches S fun isTarget =>
        if isTarget then
          guarded (calling .probeReadiness (.ret (.ok ())))
            (fun _ => throwing .recoveryVerificationFailed) fun _ => finish
        else finish
  else serviceIsLoaded fun loaded =>
    if loaded then throwing .recoveryVerificationFailed else finish

def restoreOriginalState (j : Journal δ) : Op δ InstallerState :=
  backupStateMatches S j fun backupsOk =>
    if backupsOk = false then throwing .recoveryUnavailable
    else attempt bootout fun _ =>
      attempt (putBack j.hadHelper .helperBackup .helper 0o755) fun _ =>
        attempt (putBack j.hadPlist .plistBackup .plist 0o644) fun _ =>
          originalStateMatches S j fun originalOk =>
            if originalOk = false then throwing .recoveryVerificationFailed
            else restoreService S j

def rollbackOrEscalate : Op δ Unit :=
  guarded (attempt (loadTransactionJournal S) fun j =>
      restoreOriginalState S j)
    (fun _ => throwing .rollbackFailed) fun _ => .ret (.ok ())

def rollbackAndThrow (failure : Thrown) : Op δ Unit :=
  guarded (rollbackOrEscalate S)
    (fun _ => .ret (.error (failure.changing (some .rollbackFailed) .failed)))
    fun _ => .ret (.error (failure.changing none .completed))

/-- `beginTransaction` with the error that its callers make of a failure. -/
def begun (command : Command) (k : Op δ Unit) : Op δ Unit :=
  guarded (beginTransaction S command)
    (fun e => .read fun d =>
      let failure := diagnose false .publishFailed .installationFailed e
      if d.transaction.isSome then .ret (.error (failure.changing (some .rollbackFailed) .failed))
      else .ret (.error failure))
    fun _ => k

/-! ## The commands -/

/-- The steps of `replaceInstallation` after the transaction has begun, each with the diagnosis of its
    errors. -/
def replaceSteps : Op δ Unit :=
  diagnosed .publishFailed
    (attempt (updateTransactionPhase S .mutationStarted) fun _ =>
      calling .ensurePublishingDirectories (.ret (.ok ()))) fun _ =>
  diagnosed .publishFailed
    (attempt (atomicWrite S.sourceHelper .helper 0o755) fun _ =>
      updateTransactionPhase S .helperChanged) fun _ =>
  diagnosed .publishFailed
    (attempt (atomicWrite S.daemonPlistData .plist 0o644) fun _ =>
      updateTransactionPhase S .plistChanged) fun _ =>
  guarded (calling .validateInstalledHelper (.ret (.ok ())))
    (fun e => .ret (.error (diagnose true .signatureInvalid .installationFailed e))) fun _ =>
  diagnosed .daemonStopFailed
    (attempt bootout fun _ => updateTransactionPhase S .serviceStopped) fun _ =>
  guarded (attempt bootstrap fun _ => updateTransactionPhase S .serviceStarted)
    (fun e => .ret (.error (diagnose false .daemonStartRejected .daemonLaunchFailed e))) fun _ =>
  guarded (serviceIsLoaded fun loaded =>
      if loaded = false then .ret (.error (.reason .daemonNotLoaded))
      else calling .probeReadiness (updateTransactionPhase S .activationVerified))
    (fun e => .ret (.error (diagnose false .daemonNotLoaded .daemonLaunchFailed e))) fun _ =>
  diagnosed .durabilityFailed finishTransaction fun _ => .ret (.ok ())

def removeSteps : Op δ Unit :=
  diagnosed .publishFailed (updateTransactionPhase S .mutationStarted) fun _ =>
  diagnosed .daemonStopFailed
    (attempt bootout fun _ => updateTransactionPhase S .serviceStopped) fun _ =>
  diagnosed .publishFailed
    (attempt (removeIfExists .helper) fun _ =>
      updateTransactionPhase S .helperChanged) fun _ =>
  diagnosed .publishFailed
    (attempt (removeIfExists .plist) fun _ =>
      attempt (updateTransactionPhase S .plistChanged) fun _ => .read fun d =>
        if d.helper.isSome ∨ d.plist.isSome then .ret (.error (.reason .publishFailed))
        else updateTransactionPhase S .activationVerified) fun _ =>
  diagnosed .durabilityFailed finishTransaction fun _ => .ret (.ok ())

def replaceInstallation (command : Command) : Op δ Unit :=
  begun S command <|
    guarded (replaceSteps S)
      (rollbackAndThrow S) fun _ => .ret (.ok ())

def removeInstallation (command : Command) : Op δ Unit :=
  begun S command <|
    guarded (removeSteps S) (rollbackAndThrow S)
      fun _ => .ret (.ok ())

/-- `catch { return nil }`. -/
def confirmed (p : Op δ (Option InstallerState)) : Op δ (Option InstallerState) :=
  guarded p (fun _ => .ret (.ok none)) fun r => .ret (.ok r)

/-- The branch of `completeTargetStateIfPossible` for `install` and `update`. -/
def completeReplaced : Op δ (Option InstallerState) :=
  targetInstallationMatches S fun isTarget =>
    if isTarget = false then .ret (.ok none)
    else confirmed <| attempt bootout fun _ => attempt bootstrap fun _ => serviceIsLoaded fun loaded =>
      if loaded = false then .ret (.ok none)
      else calling .probeReadiness <| attempt finishTransaction fun _ => .ret (.ok (some .ready))

/-- The branch for `uninstall`. -/
def completeRemoved : Op δ (Option InstallerState) :=
  .read fun d =>
    if d.helper.isSome ∨ d.plist.isSome then .ret (.ok none)
    else confirmed <| attempt bootout fun _ => serviceIsLoaded fun loaded =>
      if loaded then .ret (.ok none)
      else attempt finishTransaction fun _ => .ret (.ok (some .installRequired))

/-- `completeTargetStateIfPossible`; `none` if the target state is not there, or not confirmed. -/
def completeTargetStateIfPossible (j : Journal δ) : Op δ (Option InstallerState) :=
  match j.command with
  | .install | .update => completeReplaced S
  | .uninstall => completeRemoved
  | .status | .recover => throwing .recoveryUnavailable

/-- The two phases before any change: the original state only has to be confirmed. -/
def confirmOriginal (j : Journal δ) : Op δ InstallerState :=
  originalStateMatches S j fun originalOk => serviceIsLoaded fun loaded =>
    if originalOk = false ∨ loaded ≠ j.wasServiceLoaded then throwing .recoveryVerificationFailed
    else attempt finishTransaction fun _ => recoveredReceipt S

/-- The other phases: the target state, or back. -/
def recoverChanged (j : Journal δ) : Op δ InstallerState :=
  attempt (completeTargetStateIfPossible S j) fun receipt => match receipt with
    | some s => .ret (.ok s)
    | none => guarded (restoreOriginalState S j)
        (fun e => if e = .code .recoveryUnavailable then throwing .recoveryUnavailable
          else throwing .recoveryVerificationFailed) fun s => .ret (.ok s)

def recoverInterruptedTransaction : Op δ InstallerState :=
  attempt (loadTransactionJournal S) fun j => match j.phase with
    | .preparing => confirmOriginal S j
    | .backupsReady => backupStateMatches S j fun backupsOk =>
        if backupsOk = false then throwing .recoveryVerificationFailed
        else confirmOriginal S j
    | _ => recoverChanged S j

/-- `perform`: the state that the receipt names. -/
def perform (command : Command) : Op δ InstallerState :=
  guarded (calling .validateArtifacts (.ret (.ok ())))
    (fun e => .ret (.error (diagnose false .unknown .installationFailed e))) fun _ =>
  .read fun d =>
  if command = .status then .ret (.ok (installationState S d))
  else calling .root <|
    guarded (calling .ensureStateDirectory (calling .acquireProtectionLock (.ret (.ok ()))))
      (fun e => .ret (.error (diagnose false .unknown .installationFailed e))) fun _ =>
    .read fun d =>
    if d.protection then throwing .protectionActive
    else if command = .recover ∧ d.transaction = none then throwing .recoveryUnavailable
    else if command ≠ .recover ∧ d.transaction.isSome then throwing .recoveryRequired
    else
      let current := installationState S d
      match command with
      | .status => .ret (.ok current)
      | .install =>
        if current = .ready then .ret (.ok .ready)
        else if current = .recoveryRequired then throwing .recoveryRequired
        else if current ≠ .installRequired then throwing .updateRequired
        else attempt (replaceInstallation S
          .install) fun _ => .ret (.ok .ready)
      | .update =>
        if current = .installRequired then throwing .installRequired
        else if current = .recoveryRequired then throwing .recoveryRequired
        else attempt (replaceInstallation S
          .update) fun _ => .ret (.ok .ready)
      | .uninstall =>
        if current = .installRequired then .ret (.ok .installRequired)
        else if current = .recoveryRequired then throwing .recoveryRequired
        else attempt (removeInstallation S .uninstall)
          fun _ => .ret (.ok .installRequired)
      | .recover => recoverInterruptedTransaction S

end Programs

end HelperInstaller
