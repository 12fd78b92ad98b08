/-
  The resident relay beside the controller.

  The controller is a program that is run now and then; the relay is a process that stays.  They meet
  in two places: the files, which the relay polls, and a socket, over which the controller asks the
  relay to exchange its runtime.

      start · read relay.json and the files · choose the first runtime · build it · serve
      serve · poll the files
            · a connection: check the request against the LAST POLL · wait for the manager · Apply

  A connection is served by a goroutine of its own.  Between its check and its `Apply` anything may
  happen, and a controller that gives up or dies does not take its request back.

  1. `Process` is the process from its start to its end, `Process.Step` one step of it; what a run is
     allowed to contain is a parameter (`Conduct`).
  2. `Deployment.system` puts the controller's operations beside it.
  3. `Linked` binds the files to the process: the runtime they rely on is the one that is there, or is
     about to be, for a notion of being there that is left open.  `linked_coupled` says what the
     process has to keep; what the controller has to keep is `ControllerCall.backed`.
-/
import OpenCodexRelay.Hosted
import OpenCodexRelay.Proxy.Installed
import OpenCodexRelay.Routing.Generations

namespace OpenCodexRelay.Resident

open Durable Proxy
open Routing (Backend Config ControllerCall Disk Honest Observed Snapshot State Store progress progress_concat)

/-! ## Choosing a runtime -/

/-- The runtime of a backend.  No runtime is ever asked for under an unknown label. -/
def runtimeProfile : Backend → RuntimeProfile
  | .external => .external
  | .localOpenCodex => .localOpenCodex
  | .localAppleContainer => .localAppleContainer
  | .none | .unknown => .none

/-- `specFor`: a local profile has its probe, the container its lease. -/
def specFor (backend : Backend) : RuntimeSpec where
  profile := runtimeProfile backend
  startParked := false
  localProbe := backend = .localOpenCodex || backend = .localAppleContainer
  connectionLease := backend = .localAppleContainer

def initialRuntimeBackend (snapshot : Snapshot) : Backend :=
  if snapshot.invalid || !snapshot.allowsDataPlane then .none else
  match snapshot.state.appliedBackend with
  | .external => .external
  | .localOpenCodex => .localOpenCodex
  | .localAppleContainer => .localAppleContainer
  | _ => .none

/-- The controller, the relay's watcher and the machine they run on. -/
structure Deployment where
  controller : Routing.Controller
  coordinator : Routing.MaintenanceCoordinator
  watcher : Routing.Watcher
  /-- Both look at the same files. -/
  shared : watcher.store = controller.store
  /-- `GOOS` is darwin and `GOARCH` arm64. -/
  appleSilicon : Bool

namespace Deployment

variable (D : Deployment)

/-- The configuration for a backend's runtime, if there is one. -/
def runtimeConfig (canonical : Config) : Backend → Option Config
  | .external => if canonical.upstreamMode = .externalGateway then some canonical else none
  | .localOpenCodex =>
    if D.appleSilicon then canonical.localOpenCodexRuntimeConfig D.controller.codec else none
  | .localAppleContainer =>
    if D.appleSilicon then canonical.localAppleContainerRuntimeConfig D.controller.codec else none
  | .none => some canonical
  | .unknown => none

/-- `MaintenanceRecoveryState` finds a maintenance. -/
def maintenancePending (d : Disk) : Bool :=
  match D.watcher.store.read d with
  | .ok (s, false) =>
    match D.watcher.store.loadRuntimeRouting s.boundCodexConfigPath d,
        D.watcher.store.loadMaintenance d, Routing.loadJournal d with
    | .ok none, .ok (some j), .ok none => j.matchesState s
    | _, _, _ => false
  | _ => false

/-- `newRelayRuntime`: the first runtime.  A backend without a configuration starts parked, never as
    another one; so does a relay that finds a maintenance. -/
def initialSpec (cfg : Config) (snapshot : Snapshot) (d : Disk) :
    RuntimeSpec :=
  let backend := initialRuntimeBackend snapshot
  let parked := backend = .none && D.maintenancePending d
  let backend := if parked then .localAppleContainer else backend
  if (D.runtimeConfig cfg backend).isSome then { specFor backend with startParked := parked }
  else specFor .none

end Deployment

/-! ## The process -/

/-- How far the goroutine of a connection has got. -/
inductive CallPhase where
  | sent
  /-- The last poll authorises the request, and there is a configuration for it. -/
  | checked
  | applying
  | done (ok : Bool)
  deriving DecidableEq, Repr

/-- A request to apply `backend`. -/
structure ControlCall where
  generation : UInt64
  backend : Backend
  phase : CallPhase
  deriving DecidableEq, Repr

/-- The check of `relayRuntime.apply`. -/
def ControlCall.authorised (call : ControlCall) (snapshot : Snapshot) : Bool :=
  !snapshot.invalid && snapshot.state.phase = .applying &&
    snapshot.state.generation = call.generation && snapshot.state.desiredBackend = call.backend

/-- The relay while it serves. -/
structure Relay where
  manager : RuntimeManager
  /-- The connection whose `Apply` holds the manager's lock, and what is left of it. -/
  pending : Option (Nat × Proxy.Op (Except Proxy.Err Unit))
  snapshot : Snapshot
  /-- Every request since the start of the process. -/
  calls : List ControlCall

inductive Process where
  | down
  /-- `relay.json` has been read, and the files have been polled. -/
  | starting (cfg : Config) (snapshot : Snapshot)
  /-- The first runtime has been chosen. -/
  | building (spec : RuntimeSpec) (snapshot : Snapshot)
  | serving (relay : Relay)

/-- The controller's latest request. -/
def Process.latest : Process → Option ControlCall
  | .serving relay => relay.calls.getLast?
  | _ => none

/-- What a run may contain. -/
structure Conduct where
  /-- The answers the manager is given. -/
  env : Env RuntimeManager Proxy.Query Proxy.Query.Answer
  /-- Those around it take a step. -/
  other : RuntimeManager → RuntimeManager → Prop
  /-- An operation of the controller is started. -/
  call : ControllerCall → Disk → Prop
  /-- The `Apply` of a connection takes a step, which leaves the manager as given. -/
  own : Disk → Relay → RuntimeManager → Prop
  /-- The process ends. -/
  crash : Disk → Process → Prop
  /-- It chooses its first runtime. -/
  choose : Disk → RuntimeSpec → Prop
  /-- The first probe of a local backend. -/
  probed : LocalAvailability → Prop

/-- The manager under it. -/
def Conduct.machine (K : Conduct) : Machine RuntimeManager Proxy.Query Proxy.Query.Answer :=
  machineFor K.env K.other

/-- Set the phase of the `i`th request. -/
def Relay.advance (relay : Relay) (i : Nat) (phase : CallPhase) : Relay :=
  { relay with calls := relay.calls.modify i fun call => { call with phase := phase } }

/-- **A step of the process**, beside the files `d`. -/
inductive Deployment.Step (D : Deployment) (K : Conduct) (d : Disk) :
    Process → Process → Prop where
  | crash (p) (h : K.crash d p) : Deployment.Step D K d p .down
  | start (cfg) (h : D.controller.codec.loadFile d.relay = some cfg)
      (hmode : cfg.upstreamMode = .externalGateway) :
      Deployment.Step D K d .down (.starting cfg (D.watcher.refresh d))
  | pollStarting (cfg snapshot) :
      Deployment.Step D K d (.starting cfg snapshot) (.starting cfg (D.watcher.refresh d))
  | choose (cfg snapshot) (h : K.choose d (D.initialSpec cfg snapshot d)) :
      Deployment.Step D K d (.starting cfg snapshot) (.building (D.initialSpec cfg snapshot d) snapshot)
  | pollBuilding (spec snapshot) :
      Deployment.Step D K d (.building spec snapshot) (.building spec (D.watcher.refresh d))
  | build (spec snapshot) (initial : Runtime) (probed : LocalAvailability) (m : RuntimeManager)
      (hprobed : K.probed probed) (h : newRuntimeManager spec initial probed = .ok m) :
      Deployment.Step D K d (.building spec snapshot) (.serving ⟨m, none, snapshot, []⟩)
  | poll (relay) :
      Deployment.Step D K d (.serving relay)
        (.serving { relay with snapshot := D.watcher.refresh d })
  | check (relay i call) (h : relay.calls[i]? = some call) (hphase : call.phase = .sent) :
      Deployment.Step D K d (.serving relay) (.serving (relay.advance i
        (if call.authorised relay.snapshot &&
            ((D.controller.codec.loadFile d.relay).bind (D.runtimeConfig · call.backend)).isSome then
          .checked else .done false)))
  | lock (relay i call) (h : relay.calls[i]? = some call) (hphase : call.phase = .checked)
      (hfree : relay.pending = none) :
      Deployment.Step D K d (.serving relay)
        (.serving { relay.advance i .applying with
          pending := some (i, Proxy.apply (specFor call.backend)) })
  | own (relay i p p' m) (h : relay.pending = some (i, p))
      (hmove : K.machine.Move p relay.manager p' m) (hown : K.own d relay m) :
      Deployment.Step D K d (.serving relay)
        (.serving { relay with pending := some (i, p'), manager := m })
  | unlock (relay i r) (h : relay.pending = some (i, .ret r)) :
      Deployment.Step D K d (.serving relay)
        (.serving { relay.advance i (.done r.isOk) with pending := none })
  | other (relay m) (h : K.other relay.manager m) :
      Deployment.Step D K d (.serving relay) (.serving { relay with manager := m })

/-! ## The controller beside it -/

/-- A request arrives.  One that is lost on the way is never looked at. -/
def Process.put (q : Routing.Query) : Process → Process
  | .serving relay => match q with
    | .runtimeApply generation backend =>
      .serving { relay with calls := relay.calls ++ [⟨generation, backend, .sent⟩] }
    | _ => .serving relay
  | p => p

/-- `healthAcknowledgesForStatus`, on what the health surface shows of the last poll. -/
def acknowledges (snapshot : Snapshot) (s : State) : Bool :=
  !snapshot.invalid && snapshot.state.generation = s.generation &&
    snapshot.state.desiredMode = s.desiredMode && snapshot.state.appliedMode = s.appliedMode &&
    snapshot.state.phase = s.phase

/-- **What an affirmative answer takes.**  A no is always possible: a deadline passes, a request is
    refused.  Of the health surface only the routing part is modelled; a catalog that has yet to pause
    or to run makes for a no. -/
def Process.confirms : Routing.Query → Process → Prop
  | .runtimeApply generation backend, p =>
    ∃ call, p.latest = some call ∧ call.generation = generation ∧ call.backend = backend ∧
      call.phase = .done true
  | .awaitParked s, p => ∃ relay, p = .serving relay ∧ acknowledges relay.snapshot s = true ∧
      relay.snapshot.allowsDataPlane = false
  | .awaitFinalized s, p => ∃ relay, p = .serving relay ∧ acknowledges relay.snapshot s = true ∧
      (s.phase = .nativeActive ∨ s.phase = .relayActive)
  | _, _ => True

/-- **The controller's operations beside the relay.**  One operation is under way at a time: they hold
    the routing lock. -/
def Deployment.system (D : Deployment) (K : Conduct) :
    Hosted Disk Process Routing.Query (fun _ => Bool) ControllerCall where
  Result := Routing.ControllerCall.Result
  prog := Routing.ControllerCall.prog D.controller D.coordinator
  allowed := fun call d _ => call.ofController = true ∧ K.call call d
  step := D.Step K
  ask := fun q _ p p' => p' = p.put q
  reply := fun q _ p answer => answer = true → p.confirms q

/-! ## Files and process together -/

/-- The latest request has applied `b`. -/
def Process.Applied (b : Backend) (p : Process) : Prop :=
  ∃ call, p.latest = some call ∧ call.backend = b ∧ call.phase = .done true

/-- **A notion of a runtime being there**, at each stage of the process. -/
structure Presence where
  starting : Backend → Snapshot → Prop
  building : Backend → RuntimeSpec → Prop
  serving : Backend → RuntimeManager → Prop
  /-- A confirmation is worth something only while the process that gave it is there. -/
  strict : Prop

def Presence.There (G : Presence) (b : Backend) : Process → Prop
  | .down => True
  | .starting _ snapshot => G.starting b snapshot
  | .building spec _ => G.building b spec
  | .serving relay => G.serving b relay.manager

/-- The `Apply` that holds the lock does what it is there for. -/
def Relay.Sound (K : Conduct) (G : Presence) (relay : Relay) : Prop :=
  ∀ i p, relay.pending = some (i, p) → ∃ call, relay.calls[i]? = some call ∧
    call.phase = .applying ∧ K.machine.Keeps (Moves Unswapped) p (fun r m => r = .ok () →
      runtimeProfile call.backend ≠ .none → G.serving call.backend m) relay.manager

def Process.Sound (K : Conduct) (G : Presence) : Process → Prop
  | .serving relay => relay.Sound K G
  | _ => True

/-- **The files are bound to the process**, given what the operation under way has done so far. -/
structure Linked (st : Store) (K : Conduct) (G : Presence) (past : List Observed)
    (d : Disk) (p : Process) : Prop where
  relied : runtimeProfile (st.backing d) ≠ .none → G.There (st.backing d) p
  confirmed : ∀ b, progress st past = .confirmed b → st.owed d = b ∧
    (runtimeProfile b ≠ .none → G.There b p) ∧ (st.switching d = true → G.strict → p.Applied b)
  asked : ∀ generation b, progress st past = .asked generation b →
    st.Authorised generation b d ∧ ∀ call, p.latest = some call →
      call.generation = generation ∧ call.backend = b ∧
        (call.phase = .done true → runtimeProfile b ≠ .none → G.There b p)
  sound : p.Sound K G

section Linked

variable {st : Store} {K : Conduct} {G : Presence} {past : List Observed}
variable {d d' : Disk} {p : Process} {b : Backend} {generation : UInt64}

theorem Linked.down : Linked st K G [] d .down :=
  ⟨fun _ => trivial, fun _ => nofun, fun _ _ => nofun, trivial⟩

theorem Linked.forget (h : Linked st K G past d p) : Linked st K G [] d p :=
  ⟨h.relied, fun _ => nofun, fun _ _ => nofun, h.sound⟩

/-- The progress after a write is a confirmation that has survived it, or none. -/
theorem progress_wrote (h : progress st (past ++ [.wrote d d']) ≠ .idle) :
    ∃ b, progress st (past ++ [.wrote d d']) = .confirmed b ∧
      progress st past = .confirmed b ∧ st.owed d' = b ∧
      (st.switching d' = true → st.switching d = true) := by
  rw [progress_concat] at h ⊢
  cases hp : progress st past with
  | idle | asked =>
    rw [hp] at h
    exact absurd rfl h
  | confirmed b =>
    rw [hp] at h
    simp only [Routing.Progress.after] at h ⊢
    split_ifs at h ⊢ with hkeep
    · exact ⟨b, rfl, rfl, hkeep⟩
    · exact absurd rfl h

theorem Linked.write (h : Linked st K G past d p) (hw : Honest st past (.wrote d d')) :
    Linked st K G (past ++ [.wrote d d']) d' p := by
  refine ⟨fun hneeded => ?_, fun b hb => ?_, fun generation b hb => ?_, h.sound⟩
  · rcases hw with hnone | hsame | hconfirmed
    · rw [hnone] at hneeded
      exact absurd rfl hneeded
    · rw [hsame] at hneeded ⊢
      exact h.relied hneeded
    · exact (h.confirmed _ hconfirmed).2.1 hneeded
  · obtain ⟨b', hb', hbefore, howed, hswitch⟩ := progress_wrote (by rw [hb]; nofun)
    rw [hb] at hb'
    cases hb'
    obtain ⟨-, hthere, hconfirmed⟩ := h.confirmed b hbefore
    exact ⟨howed, hthere, fun hs => hconfirmed (hswitch hs)⟩
  · obtain ⟨b', hb', -⟩ := progress_wrote (by rw [hb]; nofun)
    rw [hb] at hb'
    cases hb'

variable {q : Routing.Query}

theorem Process.put_aside (hq : q.aside = true) (p : Process) : p.put q = p := by
  cases p with
  | serving relay => cases q <;> first | rfl | cases hq
  | _ => rfl

/-- A request arrives behind all others, and has yet to be looked at. -/
theorem Process.latest_put {call : ControlCall}
    (h : (p.put (.runtimeApply generation b)).latest = some call) :
    call = ⟨generation, b, .sent⟩ := by
  cases p with
  | serving relay =>
    simp only [put, latest, List.getLast?_append, List.getLast?_singleton,
      Option.some_or, Option.some.injEq] at h
    exact h.symm
  | _ => cases h

theorem Process.there_put (q : Routing.Query) : G.There b (p.put q) ↔ G.There b p := by
  cases p with
  | serving relay => cases q <;> exact Iff.rfl
  | _ => exact Iff.rfl

theorem Process.sound_put (q : Routing.Query) (h : p.Sound K G) : (p.put q).Sound K G := by
  cases p with
  | serving relay =>
    cases q with
    | runtimeApply generation backend =>
      intro i prog hpending
      obtain ⟨call, hcall, hrest⟩ := h i prog hpending
      refine ⟨call, ?_, hrest⟩
      show (relay.calls ++ [_])[i]? = some call
      rw [List.getElem?_append_left (List.getElem?_eq_some_iff.mp hcall).1]
      exact hcall
    | _ => exact h
  | _ => trivial

theorem Linked.ask (h : Linked st K G past d p) (hq : Honest st past (.asked q d)) :
    Linked st K G (past ++ [.asked q d]) d (p.put q) := by
  by_cases haside : q.aside = true
  · have hsame : progress st (past ++ [.asked q d]) = progress st past := by
      rw [progress_concat]
      cases q <;> first | rfl | cases haside
    rw [Process.put_aside haside]
    exact ⟨h.relied, by rw [hsame]; exact h.confirmed, by rw [hsame]; exact h.asked, h.sound⟩
  · cases q with
    | runtimeApply generation b =>
      have hprogress : progress st (past ++ [.asked (.runtimeApply generation b) d]) =
          .asked generation b := by
        rw [progress_concat]
        rfl
      refine ⟨fun hneeded => (Process.there_put _).mpr (h.relied hneeded), ?_, ?_,
        Process.sound_put _ h.sound⟩
      · rw [hprogress]
        nofun
      · rw [hprogress]
        rintro _ _ ⟨⟩
        refine ⟨hq, fun call hcall => ?_⟩
        rw [Process.latest_put hcall]
        exact ⟨rfl, rfl, nofun⟩
    | _ => exact absurd rfl haside

theorem Linked.answer {answer : Bool} (h : Linked st K G (past ++ [.asked q d]) d p)
    (hq : answer = true → p.confirms q) :
    Linked st K G (past ++ [.asked q d, .answered q answer]) d p := by
  have hprogress : progress st (past ++ [.asked q d, .answered q answer]) =
      (progress st (past ++ [.asked q d])).after st (.answered q answer) := by
    rw [Routing.progress_answered, progress_concat]
  by_cases haside : q.aside = true
  · have hsame : ∀ x : Routing.Progress, x.after st (.answered q answer) = x := by
      intro x
      cases q <;> first | rfl | cases haside
    rw [hsame] at hprogress
    exact ⟨h.relied, by rw [hprogress]; exact h.confirmed, by rw [hprogress]; exact h.asked, h.sound⟩
  · cases q with
    | runtimeApply generation b =>
      refine ⟨h.relied, ?_, ?_, h.sound⟩
      · rw [hprogress]
        cases answer with
        | false => nofun
        | true =>
          rintro _ ⟨⟩
          have hasked : progress st (past ++ [.asked (.runtimeApply generation b) d]) =
              .asked generation b := by
            rw [progress_concat]
            rfl
          obtain ⟨hauthorised, hlatest⟩ := h.asked generation b hasked
          obtain ⟨call, hcall, -, hbackend, hdone⟩ := hq rfl
          exact ⟨hauthorised.owed, (hlatest call hcall).2.2 hdone,
            fun _ _ => ⟨call, hcall, hbackend, hdone⟩⟩
      · rw [hprogress]
        cases answer with
        | false => nofun
        | true => nofun
    | _ => exact absurd rfl haside

/-- **What the process has to keep.** -/
theorem linked_coupled {D : Deployment}
    (hstep : ∀ {past d p p'}, Linked st K G past d p → D.Step K d p p' → Linked st K G past d p') :
    (D.system K).Coupled (Honest st) (Linked st K G) where
  host := hstep
  write := Linked.write
  ask := by
    rintro past q d p _ h hq rfl
    exact h.ask hq
  answer := Linked.answer
  forget := Linked.forget

/-- **Every run**, from a relay that has yet to be started. -/
theorem linked_leads {D : Deployment} (hcontrol : D.controller.runtimeControl = true)
    (hplain : ∀ call d, K.call call d → call.Plain D.controller d)
    (hstep : ∀ {past d p p'}, Linked D.controller.store K G past d p → D.Step K d p p' →
      Linked D.controller.store K G past d p')
    {x : (D.system K).Position} (h : (D.system K).Leads ⟨none, false, d, .down⟩ x) :
    x.Bound (Honest D.controller.store) (Linked D.controller.store K G)
      (fun call r d' _ => call.succeeded r = true → d'.journal = .absent) := by
  refine Hosted.Coupled.leads (linked_coupled hstep) (fun call d p hallowed _ => ?_) Linked.down h
  exact Routing.ControllerCall.backed hcontrol call hallowed.1 (hplain call d hallowed.2) []

end Linked

/-! ## Exhibiting runs -/

/-- The process polls before its health surface answers for a final state; the exchange of a runtime
    is left open. -/
def Deployment.react (D : Deployment) :
    Reaction Disk Process Routing.Query (fun _ => Bool)
  | .runtimeApply _ _, _, _ => none
  | .awaitParked _, _, _ => none
  | .awaitFinalized s, d, .serving relay =>
    if acknowledges (D.watcher.refresh d) s ∧ (s.phase = .nativeActive ∨ s.phase = .relayActive) then
      some (.serving { relay with snapshot := D.watcher.refresh d }, true)
    else none
  | .awaitFinalized _, _, _ => none
  | _, _, p => some (p, true)

theorem Deployment.react_possible (D : Deployment) (K : Conduct) : (D.system K).Possible D.react := by
  intro q d p p' answer h
  by_cases hserves : ∃ s, q = .awaitFinalized s
  · obtain ⟨s, rfl⟩ := hserves
    cases p with
    | serving relay =>
      simp only [react] at h
      split_ifs at h with hshown
      cases h
      exact ⟨.serving relay, rfl, .single (.poll relay), fun _ => ⟨_, rfl, hshown⟩⟩
    | _ => cases h
  · -- any other question leaves the process as it is
    cases q with
    | runtimeApply | awaitParked => cases h
    | awaitFinalized s => exact absurd ⟨s, rfl⟩ hserves
    | _ =>
      cases h
      exact ⟨p, (Process.put_aside rfl p).symm, .refl, fun _ => trivial⟩

/-- A process starts, while the files stay as they are. -/
theorem Deployment.started (D : Deployment) {K : Conduct} {d : Disk} (cfg : Config)
    (initial : Runtime) (probed : LocalAvailability) {m : RuntimeManager}
    (hload : D.controller.codec.loadFile d.relay = some cfg)
    (hmode : cfg.upstreamMode = .externalGateway)
    (hchoose : K.choose d (D.initialSpec cfg (D.watcher.refresh d) d)) (hprobed : K.probed probed)
    (hnew : newRuntimeManager (D.initialSpec cfg (D.watcher.refresh d) d) initial probed = .ok m) :
    Relation.ReflTransGen (D.Step K d) .down (.serving ⟨m, none, D.watcher.refresh d, []⟩) :=
  Relation.ReflTransGen.single (.start cfg hload hmode)
    |>.tail (.choose cfg _ hchoose)
    |>.tail (.build _ _ initial probed m hprobed hnew)

namespace Sample

/-- The installation of the routing samples, with the watcher's own drift check. -/
def deployment : Deployment where
  controller := Routing.Sample.controller
  coordinator := Routing.Sample.coordinator
  watcher := ⟨Routing.Sample.store,
    some fun s d => Routing.Sample.controller.appliedRoutingDriftCheck d s, none, none⟩
  shared := rfl
  appleSilicon := true

/-- The manager of a relay that has started with this spec. -/
def managerOf (spec : RuntimeSpec) : RuntimeManager :=
  match newRuntimeManager spec Proxy.Sample.runtime .ready with
  | .ok m => m
  | .error _ => vacant .unknown

/-- The relay right after its start beside `d`. -/
def started (spec : RuntimeSpec) (d : Disk) : Process :=
  .serving ⟨managerOf spec, none, deployment.watcher.refresh d, []⟩

end Sample

end OpenCodexRelay.Resident
