/-
  `Recover`: finishing or undoing an interrupted transaction.

  Recovery has two halves.  `recoverEvidence` reads the routing state and the journal, decides
  whether they prove what the user asked for, and parks the state; `recover` then re-applies the
  selected backend through the ordinary parked switch.  The order inside the first half is the
  source's: a journal-derived state replaces the one on disk BEFORE the rollback authority and the
  Desktop confirmation are checked.

  A `RecoveryPlan` is what the first half hands to the second; "recovery was not refused by its
  evidence" means that a plan was reached.
-/
import OpenCodexRelay.Routing.Gateway

namespace OpenCodexRelay.Routing

open Durable

/-- What the evidence authorises. -/
inductive RecoveryPlan where
  /-- Re-apply `target` from the parked state `recovery`. -/
  | switch (recovery : State) (target : Backend) (originAuthoritative legacyMigration : Bool)
  /-- Finish or undo a gateway reload with the selected configuration. -/
  | gateway (s : Option State) (j : TransactionJournal) (selected : Config)
      (stage : TransactionStage)

namespace Controller

variable (c : Controller)

/-- An origin that differs from the target, standing for a lost one. -/
def forcedRecoveryOrigin : Backend → Backend
  | .external | .localOpenCodex | .localAppleContainer => .none
  | .none => .external
  | .unknown => .unknown

/-- The parked state of a journal-free recovery.  `current` is the bound state on disk, if it could
    be read; its generation is never reused. -/
def observedRecoveryState (current : Option State) (observed : State) : State :=
  let origin := forcedRecoveryOrigin observed.desiredBackend
  let recovery := { observed with
    phase := .recoveryRequired
    appliedBackend := origin
    appliedMode := modeForBackend origin
    generation := observed.generation + 1 }
  match current with
  | some s =>
    if recovery.generation ≤ s.generation then { recovery with generation := s.generation + 1 }
    else recovery
  | none => recovery

/-- The observed state a journal-free recovery may start from. -/
def observedRecoveryTarget (d : Disk) : Except Err State :=
  match c.observedRoutingState d with
  | .error e => .error e
  | .ok observed =>
    let target := observed.desiredBackend
    let origin := forcedRecoveryOrigin target
    if target = .localAppleContainer then .error .recoveryRequired
    else if !validBackend target || !validBackend origin || origin = target then
      .error .recoveryRequired
    else .ok observed

def recoverObservedLocked (current : Option State) (desktopExited : Bool) :
    Op (Except Err RecoveryPlan) :=
  if !desktopExited then refuse .desktopExitConfirmation else
  .read fun d => match c.observedRecoveryTarget d with
    | .error e => refuse e
    | .ok observed =>
      let recovery := observedRecoveryState current observed
      attempt (c.store.replace recovery) fun _ =>
      pure (.ok (.switch recovery observed.desiredBackend false false))

/-- The destination a journal authorises for the action, from the parked state `recovery`. -/
def journalledTarget (recovery : State) (j : TransactionJournal) (action : RecoveryAction) :
    Option Backend :=
  let target : Option Backend := match action with
    | .complete =>
      some (if recovery.desiredBackend = .unknown then j.targetBackend
        else recovery.desiredBackend)
    | .rollback =>
      if !j.originAuthoritative || !validBackend j.originBackend then none
      else some j.originBackend
  target.filter validBackend

/-- The state on disk, when it is already parked. -/
def parkedState (current : Option State) : Option State :=
  current.filter fun s => s.phase = .recoveryRequired

def recoverJournalledLocked (current : Option State) (j : TransactionJournal)
    (action : RecoveryAction) (desktopExited : Bool) : Op (Except Err RecoveryPlan) :=
  let parked := parkedState current
  let recovery := parked.getD (c.recoveryStateFromJournal j)
  attempt (if parked.isSome then pure (.ok ()) else c.store.replace recovery) fun _ =>
  match journalledTarget recovery j action with
  | none => refuse .recoveryRequired
  | some target =>
    if !desktopExited then refuse .desktopExitConfirmation else
    pure (.ok (.switch recovery target j.originAuthoritative j.knownLegacyBackupAndMigrate))

/-- A removal-recovery controller only continues the removal it was built for. -/
def removalWitnessAllows : Op (Except Err Unit) :=
  if !c.removalRecoveryWitness then pure (.ok ()) else
  if !c.recoveryGate then refuse .recoveryRequired else
  attempt (require .removalWitnessMatches .recoveryRequired) fun _ =>
  require .recoveryGate .recoveryRequired

/-- The bound state, when one was read from a file. -/
def durableState (d : Disk) : Option State :=
  match c.boundState d with
  | .ok (s, false) => some s
  | _ => none

def mentionsApple (s : State) : Bool :=
  s.desiredBackend = .localAppleContainer || s.appliedBackend = .localAppleContainer

/-- The journal names the Apple backend, which only the container lifecycle may move. -/
def journalMentionsApple (d : Disk) : Bool :=
  match loadJournal d with
  | .ok (some j) =>
    j.targetBackend = .localAppleContainer || j.originBackend = .localAppleContainer
  | _ => false

/-- The evidence half of `Recover`, from the files as they are. -/
def recoverFrom (d : Disk) (action : RecoveryAction) (desktopExited : Bool) :
    Op (Except Err RecoveryPlan) :=
  let current := c.durableState d
  match loadJournal d with
  | .error _ =>
    -- a malformed journal proves neither an origin nor a target
    if action ≠ .complete then refuse .recoveryRequired
    else c.recoverObservedLocked current desktopExited
  | .ok none =>
    if action ≠ .complete then refuse .recoveryRequired
    else if current.all fun s => s.phase = .recoveryRequired || s.phase = .applying then
      c.recoverObservedLocked current desktopExited
    else refuse .recoveryRequired
  | .ok (some j) =>
    if !c.journalMatchesCurrentFiles d j then refuse .recoveryRequired else
    if j.kind = .gatewayReload then
      if !desktopExited then refuse .desktopExitConfirmation else
      match c.gatewayRecoverySelection d j action with
      | none => refuse .recoveryRequired
      | some (selected, stage) => pure (.ok (.gateway current j selected stage))
    else c.recoverJournalledLocked current j action desktopExited

/-- The gate as an ordinary recovery sees it; a removal recovery checks it later. -/
def ordinaryGateActive : Op Bool :=
  if c.removalRecoveryWitness then pure false else c.recoveryGateActive

def recoverEvidence (action : RecoveryAction) (desktopExited : Bool) :
    Op (Except Err RecoveryPlan) :=
  if c.removalRecoveryWitness ∧ action ≠ .complete then refuse .recoveryRequired else
  c.ordinaryGateActive >>= fun gated => .read fun d =>
  if c.maintenancePendingOrInvalid d || gated then refuse .recoveryRequired else
  if (c.durableState d).any mentionsApple then refuse .recoveryRequired else
  if journalMentionsApple d then refuse .recoveryRequired else
  attempt c.removalWitnessAllows fun _ =>
  c.recoverFrom d action desktopExited

/-- The applying state of a recovery, if one can be formed. -/
def recoveryApplying (recovery : State) (target : Backend) (legacyMigrationRequired : Bool) :
    Option State :=
  let applied := if target = recovery.appliedBackend then recovery.desiredBackend
    else recovery.appliedBackend
  if !validBackend applied || applied = target then none
  else some { recovery with
    desiredBackend := target
    appliedBackend := applied
    desiredMode := modeForBackend target
    appliedMode := modeForBackend applied
    phase := .applying
    knownLegacyBackupAndMigrate := legacyMigrationRequired
    generation := recovery.generation + 1 }

def applyRecoveryLockedWithOriginAuthority (recovery : State) (target : Backend)
    (originAuthoritative preservedLegacyMigration : Bool) : Op (Except Err Unit) :=
  attempt (c.preflightBackendWithLegacyIntent target recovery.knownLegacyBackupAndMigrate)
    fun preflight =>
  let required := preservedLegacyMigration || preflight.legacyMigrationRequired
  match recoveryApplying recovery target required with
  | none => refuse .recoveryRequired
  | some applying =>
    attempt (c.store.replace applying) fun _ =>
    c.finishApplyingLockedWithOriginAuthority applying preflight.config target originAuthoritative
      required

def applyRecoveryLocked (recovery : State) (target : Backend) : Op (Except Err Unit) :=
  c.applyRecoveryLockedWithOriginAuthority recovery target true
    recovery.knownLegacyBackupAndMigrate

/-- Carry out what the evidence authorised. -/
def carryOut : RecoveryPlan → Op (Except Err Unit)
  | .switch recovery target originAuthoritative legacyMigration =>
    attempt (c.applyRecoveryLockedWithOriginAuthority recovery target originAuthoritative
      legacyMigration) fun _ =>
    if c.removalRecoveryWitness then require .rebindRemovalWitness .recoveryRequired
    else pure (.ok ())
  | .gateway s j selected stage => c.applyGatewayRecovery s j selected stage

def recover (action : RecoveryAction) (desktopExited : Bool) : Op (Except Err Unit) :=
  attempt (c.recoverEvidence action desktopExited) c.carryOut

/-- The `applying` state of a recovery keeps the bindings, moves one generation on, and takes as its
    origin whichever of the two backends is not the target. -/
theorem recoveryApplying_eq {recovery applying : State} {target : Backend} {required : Bool}
    (h : recoveryApplying recovery target required = some applying) :
    applying.generation = recovery.generation + 1 ∧ applying.phase = .applying ∧
      applying.desiredBackend = target ∧
      applying.appliedBackend = (if target = recovery.appliedBackend then recovery.desiredBackend
        else recovery.appliedBackend) ∧
      applying.boundCodexConfigPath = recovery.boundCodexConfigPath ∧
      applying.knownLegacyBackupAndMigrate = required := by
  unfold recoveryApplying at h
  dsimp only at h
  generalize (if target = recovery.appliedBackend then recovery.desiredBackend
    else recovery.appliedBackend) = applied at h ⊢
  split at h
  · cases h
  · cases h
    exact ⟨rfl, rfl, rfl, rfl, rfl, rfl⟩

end Controller

end OpenCodexRelay.Routing
