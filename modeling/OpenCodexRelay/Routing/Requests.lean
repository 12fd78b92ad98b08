/-
  The remaining writers of the routing state: requests, cancellation, seeding and native repair.

  A request stages a switch and touches nothing but the state; a cancellation takes it back
  (`requests_settle`).  The two repairs replace a parked state by `native_active` once the Codex
  files prove native routing, look again, and put the parked state back when the second look fails:
  that restore is the one place where an EARLIER state is written on purpose.
-/
import OpenCodexRelay.Routing.Recovery

namespace OpenCodexRelay.Routing

open Durable

namespace Controller

variable (c : Controller)

def preflightRequestedBackend (target : Backend) : Op (Except Err Unit) :=
  .read fun d => match target with
    | .none | .unknown => pure (.ok ())
    | .external => match c.codec.loadFile d.relay with
      | none => refuse .configUnavailable
      | some cfg =>
        if cfg.upstreamMode ≠ .externalGateway then refuse .configUnavailable else pure (.ok ())
    | .localOpenCodex => match c.codec.loadFile d.relay with
      | none => refuse .configUnavailable
      | some cfg =>
        if cfg.upstreamMode = .localOpenCodex then pure (.ok ()) else
        if !c.localProfileOK then refuse .localOpenCodexPreflight else
        match cfg.localOpenCodexRuntimeConfig c.codec with
        | none => refuse .localOpenCodexPreflight
        | some profile =>
          require (.localPreflight profile.upstreamBaseURL) .localOpenCodexPreflight
    | .localAppleContainer => match c.codec.loadFile d.relay with
      | none => refuse .configUnavailable
      | some cfg =>
        if !c.localProfileOK then refuse .localOpenCodexPreflight else
        match cfg.localAppleContainerRuntimeConfig c.codec with
        | none => refuse .localOpenCodexPreflight
        | some _ => require .applePreflight .localOpenCodexPreflight

/-- The gateway configuration and generation a consumer switch was tested against. -/
structure RequestWitness where
  configDigest : Fingerprint
  routingGeneration : UInt64

/-- `requestBackendWithIntentAndWitness`. -/
def requestBackend (target : Backend) (knownLegacyBackupAndMigrate : Bool)
    (witness : Option RequestWitness) : Op (Except Err Unit) :=
  if !validBackend target || target = .localAppleContainer then refuse .recoveryRequired else
  if knownLegacyBackupAndMigrate && target ≠ .external then refuse .recoveryRequired else
  c.interlocked .recoveryRequired <| withoutJournal <| .read fun d =>
  match c.boundState d with
  | .error e => refuse e
  | .ok (s, legacy) =>
    if mentionsApple s then refuse .recoveryRequired else
    if witness.any fun w => s.generation ≠ w.routingGeneration then
      refuse .gatewayRoutingChanged
    else if witness.any fun w => c.fingerprintOptional d.relay ≠ .ok w.configDigest then
      refuse .gatewayConfigChanged
    else match requestBackendTransition s target with
      | .error e => refuse e
      | .ok (staged, changed) =>
        attempt (if changed && target ≠ s.appliedBackend then c.preflightRequestedBackend target
          else pure (.ok ())) fun _ =>
        if knownLegacyBackupAndMigrate && (!changed || target = s.appliedBackend) then
          refuse .transitionPending
        else
        let next := { staged with
          knownLegacyBackupAndMigrate := if knownLegacyBackupAndMigrate then true
            else if changed then false
            else staged.knownLegacyBackupAndMigrate }
        if changed || legacy then
          c.store.save { next with generation := nextGeneration s legacy }
        else pure (.ok ())

def cancel : Op (Except Err Unit) :=
  c.interlocked .recoveryRequired <| withoutJournal <| .read fun d =>
  match c.boundState d with
  | .error e => refuse e
  | .ok (_, true) => refuse .transitionPending
  | .ok (s, false) => match cancelTransition s with
    | .error e => refuse e
    | .ok next => c.store.save { next with generation := s.generation + 1 }

/-- The native state a repair or an installer seed writes over `s`. -/
def nativeState (s : State) : State :=
  { s with
    desiredMode := .native
    appliedMode := .native
    desiredBackend := .none
    appliedBackend := .none
    phase := .nativeActive }

/-- `SeedNativeParked`: the first durable state of an installer that owns no Codex config yet. -/
def seedNativeParked : Op (Except Err Unit) :=
  c.interlocked .recoveryRequired <| withoutJournal <| .read fun d =>
  match c.store.read d with
  | .error e => refuse e
  | .ok (s, false) =>
    match s.validateForCodexConfig c.store.paths c.store.configPath c.codexConfigPath with
    | .error e => refuse e
    | .ok () =>
      if s.phase ≠ .nativeActive ∨ s.desiredBackend ≠ .none ∨ s.appliedBackend ≠ .none then
        refuse .transitionPending
      else pure (.ok ())
  | .ok (s, true) =>
    c.store.save { nativeState s with boundCodexConfigPath := c.codexConfigPath }

/-! ## Native repair -/

/-- The parked state a repair may replace. -/
def repairableState (d : Disk) (expectedGeneration : UInt64) : Except Err State :=
  match loadJournal d, c.store.read d with
  | .ok none, .ok (s, false) =>
    if s.validateForCodexConfig c.store.paths c.store.configPath c.codexConfigPath ≠ .ok () ∨
        s.phase ≠ .recoveryRequired then .error .nativeRepairUnavailable
    else if s.generation ≠ expectedGeneration ∨ s.generation = maxGeneration then
      .error .nativeRepairGenerationStale
    else .ok s
  | _, _ => .error .nativeRepairUnavailable

/-- Commit `native_active` over the parked state `s`, look again, and put `s` back if the second
    look fails. -/
def commitNative (s : State) (unavailable unproven : Err) : Op (Except Err Unit) :=
  let repaired := { nativeState s with generation := s.generation + 1 }
  guarded (c.store.replace repaired) (fun _ => refuse unavailable) fun _ => do
  let unedited ← ask Query.codexUnedited
  .read fun d =>
  if c.store.read d = .ok (repaired, false) ∧ c.validateNative d ∧ unedited then pure (.ok ())
  else guarded (c.store.replace s) (fun _ => refuse unavailable) fun _ => refuse unproven

def repairNative (expectedGeneration : UInt64) (confirmed : Bool) : Op (Except Err Unit) :=
  if !c.localDevelopmentOwner || !confirmed || expectedGeneration = 0 then
    refuse .nativeRepairUnavailable
  else
  c.interlocked .nativeRepairUnavailable <| .read fun d =>
  match c.repairableState d expectedGeneration with
  | .error e => refuse e
  | .ok s =>
    if !c.validateNative d then refuse .nativeVerification else
    c.commitNative s .nativeRepairUnavailable .nativeVerification

/-- `inspectNativeRepairLocked` and the comparison with an earlier inspection. -/
def inspectNativeRepair (expectedGeneration : UInt64) (owner : NativeRepairKind) :
    Op (Except Err State) :=
  c.interlocked .nativeRepairUnavailable <| .read fun d =>
  match c.repairableState d expectedGeneration with
  | .error e => refuse e
  | .ok s =>
    if c.codexText.nativeRepairKind d.codex d.profile ≠ some owner then
      refuse .nativeRepairUnavailable
    else attempt (require .codexUnedited .nativeRepairUnavailable) fun _ => pure (.ok s)

/-- Ask the other owner once to restore native routing, and go on with `again` if it says that it
    changed nothing.  `restored` is the Codex config it leaves behind. -/
def askNativeOwner (expectedGeneration : UInt64) (restored : String)
    (again : Op (Except Err Unit)) : Op (Except Err Unit) :=
  attempt (c.inspectNativeRepair expectedGeneration .openCodex) fun _ =>
  attempt (require .nativeOwnerReady .nativeRepairUnavailable) fun _ => do
  if ← ask Query.nativeOwnerRestored then Routing.store (.codex restored)
  else if ← ask Query.nativeOwnerRetryable then
    attempt (c.inspectNativeRepair expectedGeneration .openCodex) fun _ => again
  else refuse .nativeRepairUnavailable

/-- The retry loop around `askNativeOwner`. -/
def restoreNativeOwner (expectedGeneration : UInt64) (restored : String) :
    Nat → Op (Except Err Unit)
  | 0 => c.askNativeOwner expectedGeneration restored (refuse .nativeRepairUnavailable)
  | retries + 1 =>
    c.askNativeOwner expectedGeneration restored
      (restoreNativeOwner expectedGeneration restored retries)

def maxNativeOwnerRetryCount : Nat := 3

/-- The part of `RepairNativeRouting` that makes the Codex files native. -/
def restoreNativeFiles (expectedGeneration : UInt64) (owner : NativeRepairKind)
    (restored : String) : Op (Except Err Unit) :=
  match owner with
  | .localRelay => c.disableWithInteractiveProfile
  | .openCodex => c.restoreNativeOwner expectedGeneration restored maxNativeOwnerRetryCount
  | .other => refuse .nativeRepairUnavailable

def repairNativeRouting (expectedGeneration : UInt64) (owner : NativeRepairKind)
    (confirmed desktopExited : Bool) (restored : String) : Op (Except Err Unit) :=
  if !c.localDevelopmentOwner || expectedGeneration = 0 || !confirmed || !desktopExited ||
      owner = .other then refuse .nativeRepairUnavailable
  else
  attempt (c.inspectNativeRepair expectedGeneration owner) fun s =>
  attempt (if owner = .openCodex then require .nativeOwnerReady .nativeRepairUnavailable
    else pure (.ok ())) fun _ =>
  attempt (require .createNativeRepairBackup .nativeRepairUnavailable) fun _ =>
  attempt (c.inspectNativeRepair expectedGeneration owner) fun _ =>
  attempt (c.restoreNativeFiles expectedGeneration owner restored) fun _ =>
  .read fun d =>
  if !c.validateNative d then refuse .nativeVerification else
  attempt (if owner = .openCodex then require .nativeOwnerDisabled .nativeRepairUnavailable
    else pure (.ok ())) fun _ =>
  c.commitNative s .nativeRepairUnavailable .nativeRepairUnavailable

end Controller

/-! ## One request after the other -/

namespace State

variable (P : Paths) (bound : String) (s : State) {target : Backend}

/-- A request in the state alone: what it stages, checked as `Save` checks it. -/
def request (target : Backend) : Except Err State := do
  let (staged, changed) ← requestBackendTransition s target
  let next := { staged with
    knownLegacyBackupAndMigrate := if changed then false else staged.knownLegacyBackupAndMigrate }
  if changed then
    next.validateForBound P bound
    validateTransition s next
  pure next

/-- The state in which a backend is asked for. -/
def asking (target : Backend) : State :=
  { s with
    desiredBackend := target
    desiredMode := modeForBackend target
    appliedMode := modeForBackend s.appliedBackend
    phase := (pendingPhaseForBackends target s.appliedBackend).getD (activePhaseForBackend target)
    knownLegacyBackupAndMigrate := false }

/-- A state that takes requests. -/
structure Asks : Prop extends s.WellFormed P bound where
  quiet : s.phase ≠ .applying
  trusted : s.phase ≠ .recoveryRequired
  consumer : s.knownLegacyBackupAndMigrate = false

variable {P bound s} (h : s.Asks P bound)

include h

/-- Its phase and modes follow from its backends, so that these and the target decide everything. -/
theorem Asks.staged (htarget : validBackend target) :
    s = s.asking s.desiredBackend ∧
    (s.desiredBackend ≠ s.appliedBackend → cancelTransition s = .ok (s.asking s.appliedBackend)) ∧
    (∃ staged changed, requestBackendTransition s target = .ok (staged, changed) ∧ { staged with
      knownLegacyBackupAndMigrate := if changed then false else staged.knownLegacyBackupAndMigrate } =
        s.asking target) ∧
    (s.asking target).phaseShape ∧ (s.asking target).phase ≠ .applying ∧
    (s.asking target).phase ≠ .recoveryRequired ∧ validateTransition s (s.asking target) = .ok () := by
  obtain ⟨⟨-, -, -, -, hdesired, happlied, -, hshape⟩, hquiet, htrusted, hconsumer⟩ := h
  obtain ⟨_, _, _, _, desired, applied, phase, _, _, _⟩ := s
  dsimp only at *
  subst hdesired happlied hconsumer
  -- the shape leaves few backends for each phase
  cases phase <;> cases desired <;> cases applied <;> first | contradiction | skip
  all_goals
    cases target <;> first | contradiction | skip
  all_goals
    refine ⟨rfl, fun hne => ?_, ⟨_, _, rfl, rfl⟩, rfl, nofun, nofun, rfl⟩
    first | exact absurd rfl hne | rfl

/-- **One request** is granted, and the state takes the next one. -/
theorem Asks.request_eq (htarget : validBackend target) :
    s.request P bound target = .ok (s.asking target) ∧ (s.asking target).Asks P bound := by
  obtain ⟨-, -, ⟨staged, changed, hstaged, hnext⟩, hshape, hquiet, htrusted, hfollows⟩ := h.staged htarget
  obtain ⟨hschema, hgeneration, hconfig, hcodex, -⟩ := h.toWellFormed
  have hformed : (s.asking target).WellFormed P bound :=
    ⟨hschema, hgeneration, hconfig, hcodex, rfl, rfl, nofun, hshape⟩
  refine ⟨?_, hformed, hquiet, htrusted, rfl⟩
  have hvalid := validateForBound_eq_ok_iff.2 hformed
  simp only [request, hstaged, bind, Except.bind, hnext, hvalid, hfollows, ite_self]
  rfl

end State

end OpenCodexRelay.Routing
