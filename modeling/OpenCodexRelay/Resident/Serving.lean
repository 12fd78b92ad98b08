/-
  Which runtime serves.

  The files name an applied backend, and the manager has a current profile.  Two questions:

  1. While the files admit traffic and the manager does, is it the same backend?  It is
     (`admitted_profile_is_applied`), in every run in which an exchange is completed only while the
     files still ask for it and the first request of a legacy deployment does not discover another
     backend.  `legacy_request_misroutes` is such a discovery.
  2. When a switch reports success, does the manager admit traffic?  It does
     (`successful_switch_serves`), if the process that confirmed the exchange is not replaced before
     the final state is durable, and if a new process finds files that let it start where the
     operations rely on it.  `reconciled_behind_a_parked_relay` is a process that does not.

  Both are instances of `Linked`: the first for a process that serves AT MOST the backend in question
  (`atMost`), the second for one that does serve it (`exactly`).  Connections only move their own
  request (`Linked.connections`); what is left for each is the manager's own steps, those around it,
  and the start of a process.
-/
import OpenCodexRelay.Resident.Maintenance
import OpenCodexRelay.Resident.Relay

namespace OpenCodexRelay.Resident

open Durable Proxy
open Routing (Backend Config ControllerCall Disk Observed Paths State Store Watcher progress validRelayBackend)
open Routing.Store (backing_of_read owed_of_backing read_legacy read_wellFormed)
open Routing.State (allowsDataPlane backing phaseShape)
open RuntimeManager (profile)
open Routing.Sample (config externalActive routed store)
open Proxy.Sample (runtime)

/-! ## Connections -/

variable {relay : Relay} {i : Nat} {d : Disk} {m m' : RuntimeManager} {p p' : Process} {b : Backend}
variable {past : List Observed} {D : Deployment}

section Connections

variable {st : Store} {K : Conduct} {G : Presence}
variable {relay' : Relay} {call : ControlCall} {phase : CallPhase}

/-- The manager stays, and so does every request but for its phase. -/
theorem Linked.connections (h : Linked st K G past d (.serving relay))
    (hmanager : relay'.manager = relay.manager)
    (hlatest : ∀ call', relay'.calls.getLast? = some call' → ∃ call,
      relay.calls.getLast? = some call ∧ call'.generation = call.generation ∧
        call'.backend = call.backend ∧ (call'.phase = .done true → call.phase = .done true ∨
          (runtimeProfile call.backend ≠ .none → G.serving call.backend relay.manager)))
    (happlied : ∀ b, Process.Applied b (.serving relay) → Process.Applied b (.serving relay'))
    (hsound : relay'.Sound K G) : Linked st K G past d (.serving relay') := by
  have hthere : ∀ b, G.There b (.serving relay') ↔ G.There b (.serving relay) := by
    intro b
    show G.serving b relay'.manager ↔ G.serving b relay.manager
    rw [hmanager]
  refine ⟨fun hneeded => (hthere _).mpr (h.relied hneeded), fun b hb => ?_,
    fun generation b hb => ?_, hsound⟩
  · obtain ⟨howed, hpresent, hstrict⟩ := h.confirmed b hb
    exact ⟨howed, fun hprofile => (hthere b).mpr (hpresent hprofile),
      fun hs hg => happlied b (hstrict hs hg)⟩
  · obtain ⟨hauthorised, hcalls⟩ := h.asked generation b hb
    refine ⟨hauthorised, fun call' hcall' => ?_⟩
    obtain ⟨call, hcall, hgeneration, hbackend, hphase⟩ := hlatest call' hcall'
    obtain ⟨hg, hb', hdone⟩ := hcalls call hcall
    refine ⟨hgeneration.trans hg, hbackend.trans hb', fun hd hprofile => ?_⟩
    rcases hphase hd with hwas | hserving
    · exact (hthere b).mpr (hdone hwas hprofile)
    · rw [hb'] at hserving
      exact (hthere b).mpr (hserving hprofile)

theorem Relay.getElem?_advance (relay : Relay) (i j : Nat) (phase : CallPhase) :
    (relay.advance i phase).calls[j]? =
      if i = j then relay.calls[j]?.map fun call => { call with phase := phase }
      else relay.calls[j]? := by
  unfold advance
  rw [List.getElem?_modify]
  split_ifs with hij
  · rfl
  · simp

theorem Relay.getLast?_advance (relay : Relay) (i : Nat) (phase : CallPhase) :
    (relay.advance i phase).calls.getLast? =
      if i = relay.calls.length - 1 then
        relay.calls.getLast?.map fun call => { call with phase := phase }
      else relay.calls.getLast? := by
  have hlength : (relay.advance i phase).calls.length = relay.calls.length := by
    simp [advance]
  rw [List.getLast?_eq_getElem?, hlength, getElem?_advance, List.getLast?_eq_getElem?]

/-- The latest request is the one that moves, or stays. -/
theorem Relay.latest_advance (hcall : relay.calls[i]? = some call) {last : ControlCall}
    (h : (relay.advance i phase).calls.getLast? = some last) :
    relay.calls.getLast? = some last ∨
      relay.calls.getLast? = some call ∧ last = { call with phase := phase } := by
  rw [getLast?_advance] at h
  split_ifs at h with hi
  · rw [hi, ← List.getLast?_eq_getElem?] at hcall
    rw [hcall] at h
    exact .inr ⟨hcall, (Option.some.inj h).symm⟩
  · exact .inl h

/-- A request that has been applied does not move. -/
theorem Relay.applied_advance (hcall : relay.calls[i]? = some call)
    (hphase : call.phase ≠ .done true) (b : Backend)
    (h : Process.Applied b (.serving relay)) :
    Process.Applied b (.serving (relay.advance i phase)) := by
  obtain ⟨last, hlast, hb, hdone⟩ := h
  refine ⟨last, ?_, hb, hdone⟩
  show (relay.advance i phase).calls.getLast? = some last
  rw [getLast?_advance, if_neg]
  · exact hlast
  · intro hi
    rw [hi, ← List.getLast?_eq_getElem?] at hcall
    have hlast' : relay.calls.getLast? = some last := hlast
    rw [hcall] at hlast'
    cases hlast'
    exact hphase hdone

theorem Relay.Sound.advance (h : relay.Sound K G) (hcall : relay.calls[i]? = some call)
    (hphase : call.phase ≠ .applying) : (relay.advance i phase).Sound K G := by
  intro j p hpending
  obtain ⟨own, hown, happlying, hkeeps⟩ := h j p hpending
  refine ⟨own, ?_, happlying, hkeeps⟩
  rw [Relay.getElem?_advance, if_neg]
  · exact hown
  · rintro rfl
    rw [hcall] at hown
    cases hown
    exact hphase happlying

/-- A request that is refused, or has passed its check. -/
theorem Linked.check (h : Linked st K G past d (.serving relay)) (hcall : relay.calls[i]? = some call)
    (hsent : call.phase = .sent) (hphase : phase ≠ .done true) :
    Linked st K G past d (.serving (relay.advance i phase)) := by
  have hsound : relay.Sound K G := h.sound
  refine h.connections rfl (fun last hlast => ?_)
    (Relay.applied_advance hcall (by rw [hsent]; nofun)) (hsound.advance hcall (by rw [hsent]; nofun))
  rcases Relay.latest_advance hcall hlast with hsame | ⟨hmoved, rfl⟩
  · exact ⟨last, hsame, rfl, rfl, .inl⟩
  · exact ⟨call, hmoved, rfl, rfl, fun hdone => absurd hdone hphase⟩

/-- A request takes the manager's lock. -/
theorem Linked.lock {may : LocalAvailability → Prop} (hother : Observes may K.other)
    (hserving : ∀ b m, Installed may (specFor b) m.view → runtimeProfile b ≠ .none → G.serving b m)
    (h : Linked st K G past d (.serving relay)) (hcall : relay.calls[i]? = some call)
    (hchecked : call.phase = .checked) :
    Linked st K G past d (.serving { relay.advance i .applying with
      pending := some (i, Proxy.apply (specFor call.backend)) }) := by
  refine h.connections rfl (fun last hlast => ?_)
    (Relay.applied_advance hcall (by rw [hchecked]; nofun)) ?_
  · rcases Relay.latest_advance hcall hlast with hsame | ⟨hmoved, rfl⟩
    · exact ⟨last, hsame, rfl, rfl, .inl⟩
    · exact ⟨call, hmoved, rfl, rfl, nofun⟩
  · rintro _ _ ⟨⟩
    refine ⟨{ call with phase := .applying }, ?_, rfl, ?_⟩
    · show (relay.advance i .applying).calls[i]? = _
      rw [Relay.getElem?_advance, if_pos rfl, hcall]
      rfl
    · exact (apply_installed hother relay.manager trivial).mono (fun _ _ => id)
        fun r m hm hr hprofile => hserving _ m (hm hr) hprofile

/-- Its `Apply` is over. -/
theorem Linked.unlock (h : Linked st K G past d (.serving relay)) {r : Except Proxy.Err Unit}
    (hpending : relay.pending = some (i, .ret r)) :
    Linked st K G past d (.serving { relay.advance i (.done r.isOk) with pending := none }) := by
  have hsound : relay.Sound K G := h.sound
  obtain ⟨call, hcall, happlying, hkeeps⟩ := hsound i (.ret r) hpending
  refine h.connections rfl (fun last hlast => ?_)
    (Relay.applied_advance hcall (by rw [happlying]; nofun)) (fun _ _ => nofun)
  rcases Relay.latest_advance hcall hlast with hsame | ⟨hmoved, rfl⟩
  · exact ⟨last, hsame, rfl, rfl, .inl⟩
  · refine ⟨call, hmoved, rfl, rfl, fun hdone => .inr ?_⟩
    have hok : r = .ok () := by
      cases r with
      | ok u => rfl
      | error e => cases hdone
    exact hkeeps relay.manager .refl hok

/-- Somebody around the manager has taken a step. -/
theorem Linked.beside (h : Linked st K G past d (.serving relay)) (hother : K.other relay.manager m)
    (hthere : ∀ b, G.serving b relay.manager → G.serving b m) :
    Linked st K G past d (.serving { relay with manager := m }) := by
  refine ⟨fun hneeded => hthere _ (h.relied hneeded), fun b hb => ?_, fun generation b hb => ?_, ?_⟩
  · obtain ⟨howed, hpresent, hstrict⟩ := h.confirmed b hb
    exact ⟨howed, fun hprofile => hthere b (hpresent hprofile), hstrict⟩
  · obtain ⟨hauthorised, hcalls⟩ := h.asked generation b hb
    refine ⟨hauthorised, fun last hlast => ?_⟩
    obtain ⟨hg, hb', hdone⟩ := hcalls last hlast
    exact ⟨hg, hb', fun hd hprofile => hthere b (hdone hd hprofile)⟩
  · intro i q hq
    have hsound : relay.Sound K G := h.sound
    obtain ⟨call, hcall, happlying, hkeeps⟩ := hsound i q hq
    exact ⟨call, hcall, happlying, hkeeps.drifts (.single hother)⟩

/-- What is relied on, or has been confirmed, is there. -/
theorem Linked.there (h : Linked st K G past d p) (hprofile : runtimeProfile b ≠ .none)
    (hb : st.backing d = b ∨ progress st past = .confirmed b) : G.There b p := by
  rcases hb with rfl | hconfirmed
  · exact h.relied hprofile
  · exact (h.confirmed b hconfirmed).2.1 hprofile

/-- A process without connections. -/
theorem Linked.fresh (h : Linked st K G past d p) (hlatest : p'.latest = none)
    (hsound : p'.Sound K G) (hrelied : ∀ b, runtimeProfile b ≠ .none → st.owed d = b →
      st.backing d = b ∨ progress st past = .confirmed b → G.There b p')
    (hstrict : st.switching d = true → G.strict → ¬ p.Applied (st.owed d)) :
    Linked st K G past d p' := by
  refine ⟨fun hneeded => ?_, fun b hb => ?_, fun generation b hb => ?_, hsound⟩
  · refine hrelied _ hneeded (owed_of_backing fun hnone => ?_) (.inl rfl)
    rw [hnone] at hneeded
    exact hneeded rfl
  · obtain ⟨howed, -, happlied⟩ := h.confirmed b hb
    refine ⟨howed, fun hprofile => hrelied b hprofile howed (.inr hb), fun hs hg => ?_⟩
    exact absurd (by rw [howed]; exact happlied hs hg) (hstrict hs hg)
  · refine ⟨(h.asked generation b hb).1, fun call hcall => ?_⟩
    rw [hlatest] at hcall
    cases hcall

end Connections

/-! ## Files that admit traffic -/

theorem runtimeProfile_ne_none (h : validRelayBackend b = true) :
    runtimeProfile b ≠ .none := by
  cases b with
  | external | localOpenCodex | localAppleContainer => nofun
  | none | unknown => cases h

theorem validRelayBackend_of_allows {P : Paths} {bound : String} {s : State}
    (hs : s.WellFormed P bound) (h : s.allowsDataPlane = true) :
    validRelayBackend s.appliedBackend = true := by
  have hshape := hs.shape
  unfold phaseShape at hshape
  cases hp : s.phase with
  | relayActive =>
    simp only [hp, Bool.and_eq_true, decide_eq_true_eq] at hshape
    rw [← hshape.2]
    exact hshape.1.2
  | nativePendingRestart | backendPendingRestart =>
    simp only [hp, Bool.and_eq_true, decide_eq_true_eq] at hshape
    simp [hshape]
  | relayPendingRestart | applying | nativeActive | recoveryRequired =>
    simp [allowsDataPlane, hp] at h

/-- **A poll that admits traffic** shows the durable state, and the files rely on its backend. -/
theorem refresh_allows {w : Watcher} (h : (w.refresh d).allowsDataPlane = true) :
    ∃ s legacy, w.store.read d = .ok (s, legacy) ∧ w.refresh d = ⟨s, legacy, false⟩ ∧
      w.store.backing d = s.appliedBackend ∧ validRelayBackend s.appliedBackend = true := by
  unfold Routing.Watcher.refresh at h ⊢
  cases hr : w.store.read d with
  | error e =>
    rw [hr] at h
    cases h
  | ok r =>
    obtain ⟨s, legacy⟩ := r
    rw [hr] at h
    simp only at h ⊢
    split_ifs at h ⊢ with ha
    · have hallows : s.allowsDataPlane = true := h
      have hj : d.journal = .absent := by
        by_contra hj
        have hphase : s.phase ≠ .applying := by
          intro hphase
          simp [allowsDataPlane, hphase] at hallows
        rw [Routing.Watcher.not_accepts_of_journal hj hphase] at ha
        cases ha
      refine ⟨s, legacy, rfl, rfl, ?_, ?_⟩
      · rw [backing_of_read hr, hj]
        simp [backing, hallows]
      · cases legacy with
        | true => rw [(read_legacy hr).2.2]; rfl
        | false => exact validRelayBackend_of_allows (read_wellFormed hr) hallows
    · cases h

/-- The first runtime is that of a backend the files rely on. -/
theorem initialRuntimeBackend_refresh {w : Watcher} :
    initialRuntimeBackend (w.refresh d) = .none ∨
      initialRuntimeBackend (w.refresh d) = w.store.backing d ∧ w.store.backing d ≠ .none := by
  by_cases h : (w.refresh d).allowsDataPlane = true
  · obtain ⟨s, legacy, -, hshown, hbacking, hvalid⟩ := refresh_allows h
    right
    rw [hbacking]
    unfold initialRuntimeBackend
    rw [h, hshown]
    cases hs : s.appliedBackend with
    | external | localOpenCodex | localAppleContainer => exact ⟨rfl, nofun⟩
    | none | unknown =>
      rw [hs] at hvalid
      cases hvalid
  · left
    unfold initialRuntimeBackend
    rw [if_pos (by simp [h])]

/-! ## At most the applied backend -/

/-- Anything that can happen. -/
def Conduct.any : Conduct where
  env := answers
  other := Elsewhere
  call := fun _ _ => True
  own := fun _ _ _ => True
  crash := fun _ _ => True
  choose := fun _ _ => True
  probed := fun _ => True

/-- The process serves `b`, or nothing. -/
def atMost : Presence where
  starting b snapshot := initialRuntimeBackend snapshot = .none ∨ initialRuntimeBackend snapshot = b
  building b spec := spec.profile = .none ∨ spec.startParked = true ∨ spec.profile = runtimeProfile b
  serving b m := m.admission = .active → m.profile = some (runtimeProfile b)
  strict := False

/-- **No exchange out of time**: an `Apply` opens the admission only while the files still ask for the
    runtime it has made current.  And no request discovers, on a deployment without a state, that the
    Codex artifacts are those of another backend than the relay's. -/
def Deployment.timely (D : Deployment) : Conduct :=
  { Conduct.any with
    call := fun call d => call.Plain D.controller d
    own := fun d relay m => relay.manager.admission ≠ .active → m.admission = .active →
      ∃ generation b, D.controller.store.Authorised generation b d ∧
        relay.manager.profile = some (runtimeProfile b) }

theorem observes_elsewhere : Observes (fun _ => True) Elsewhere := by
  intro m m' h
  rcases h.view with hsame | ⟨availability, rfl⟩
  · exact .inl hsame
  · exact .inr ⟨availability, trivial, rfl⟩

/-- Losing the admission is no harm. -/
theorem atMost_unswapped (h : atMost.serving b m)
    (hadmission : m'.admission = .active → m.admission = .active)
    (hcurrent : m'.admission = .active → m'.current = m.current) : atMost.serving b m' := by
  intro hactive
  unfold profile
  rw [hcurrent hactive]
  exact h (hadmission hactive)

theorem atMost_installed (b : Backend) (m : RuntimeManager)
    (h : Installed (fun _ => True) (specFor b) m.view) (hprofile : runtimeProfile b ≠ .none) :
    atMost.serving b m := by
  obtain ⟨slot, hslot, hspec⟩ := h.current hprofile
  intro _
  unfold profile
  rw [show m.current = some slot from hslot]
  simp [hspec, specFor]

/-- A manager that has changed hands behind its admission. -/
theorem Linked.exchanged {q q' : Proxy.Op (Except Proxy.Err Unit)}
    (h : Linked D.controller.store D.timely atMost past d (.serving relay))
    (hpending : relay.pending = some (i, q)) (hmove : D.timely.machine.Move q relay.manager q' m)
    (hown : D.timely.own d relay m) :
    Linked D.controller.store D.timely atMost past d
      (.serving { relay with pending := some (i, q'), manager := m }) := by
  have hsound : relay.Sound D.timely atMost := h.sound
  obtain ⟨call, hcall, happlying, hkeeps⟩ := hsound i q hpending
  obtain ⟨hmoved, hkeeps'⟩ := hkeeps.move hmove
  have hcurrent : m.admission = .active → m.current = relay.manager.current := by
    rcases hmoved with rfl | hunswapped
    · exact fun _ => rfl
    · exact hunswapped
  -- an admission that opens here belongs to the backend the files owe
  have hthere : ∀ b, D.controller.store.owed d = b →
      atMost.serving b relay.manager → atMost.serving b m := by
    intro b howed hb hactive
    by_cases hwas : relay.manager.admission = .active
    · exact atMost_unswapped hb (fun _ => hwas) hcurrent hactive
    · obtain ⟨generation, b', hauthorised, hprofile⟩ := hown hwas hactive
      have hsame : b' = b := hauthorised.owed.symm.trans howed
      subst hsame
      unfold profile at hprofile ⊢
      rw [hcurrent hactive]
      exact hprofile
  refine ⟨fun hneeded => ?_, fun b hb => ?_, fun generation b hb => ?_, ?_⟩
  · refine hthere _ (owed_of_backing fun hnone => ?_) (h.relied hneeded)
    rw [hnone] at hneeded
    exact hneeded rfl
  · obtain ⟨howed, hpresent, -⟩ := h.confirmed b hb
    exact ⟨howed, fun hprofile => hthere b howed (hpresent hprofile), fun _ => False.elim⟩
  · obtain ⟨hauthorised, hcalls⟩ := h.asked generation b hb
    refine ⟨hauthorised, fun last hlast => ?_⟩
    obtain ⟨hg, hb', hdone⟩ := hcalls last hlast
    exact ⟨hg, hb', fun hd hprofile => hthere b hauthorised.owed (hdone hd hprofile)⟩
  · rintro _ _ ⟨⟩
    exact ⟨call, hcall, happlying, hkeeps'⟩

/-- Those around the manager open no admission. -/
theorem atMost_elsewhere (hstep : Elsewhere m m') (b : Backend) (h : atMost.serving b m) :
    atMost.serving b m' := by
  refine atMost_unswapped h (fun hactive => ?_) fun _ => hstep.kept.current
  rcases hstep.view with hsame | ⟨availability, rfl⟩
  · have hview := congrArg View.admission hsame
    exact hview.symm.trans hactive
  · by_contra hwas
    have hkept : (m.view.observe availability).admission = m.admission :=
      View.observe_admission hwas
    have hview := congrArg View.admission (view_observe availability m)
    exact hwas ((hview.trans hkept).symm.trans hactive)

/-- The files have been polled by a process that starts. -/
theorem polled_atMost {cfg : Config} (howed : D.controller.store.owed d = b) :
    atMost.There b (.starting cfg (D.watcher.refresh d)) := by
  rcases initialRuntimeBackend_refresh (w := D.watcher) (d := d) with hnone | ⟨hsame, hbacking⟩
  · exact .inl hnone
  · right
    rw [hsame, D.shared, ← howed, owed_of_backing]
    rw [← D.shared]
    exact hbacking

/-- The first runtime is that of the poll, or admits nothing. -/
theorem chosen_atMost {cfg : Config} {snapshot : Routing.Snapshot}
    (h : atMost.starting b snapshot) : atMost.building b (D.initialSpec cfg snapshot d) := by
  unfold Deployment.initialSpec
  simp only
  split_ifs with hparked hconfig hconfig
  · exact .inr (.inl hparked)
  · exact .inl rfl
  · rcases h with hnone | hsame
    · left
      rw [hnone]
      rfl
    · right; right
      rw [hsame]
      rfl
  · exact .inl rfl

theorem built_atMost {spec : RuntimeSpec} {initial : Runtime} {probed : LocalAvailability}
    (h : atMost.building b spec) (hnew : newRuntimeManager spec initial probed = .ok m) :
    atMost.serving b m := by
  obtain ⟨hopen, hprofile, -⟩ := newRuntimeManager_admission hnew
  intro hactive
  obtain ⟨hparked, hnone⟩ := hopen hactive
  rcases h with h | h | h
  · exact absurd h hnone
  · rw [hparked] at h
    cases h
  · rw [hprofile hnone, h]

/-- **Every step of the process** leaves it serving at most what the files rely on. -/
theorem timely_step (h : Linked D.controller.store D.timely atMost past d p)
    (hstep : D.Step D.timely d p p') : Linked D.controller.store D.timely atMost past d p' := by
  cases hstep with
  | crash => exact h.fresh rfl trivial (fun _ _ _ _ => trivial) fun _ => False.elim
  | start cfg | pollStarting cfg snapshot =>
    exact h.fresh rfl trivial (fun _ _ howed _ => polled_atMost howed) fun _ => False.elim
  | choose cfg snapshot =>
    exact h.fresh rfl trivial (fun _ hprofile _ hb => chosen_atMost (h.there hprofile hb))
      fun _ => False.elim
  | pollBuilding spec snapshot =>
    exact h.fresh rfl trivial (fun _ hprofile _ hb => h.there hprofile hb) fun _ => False.elim
  | build spec snapshot initial probed m _ hnew =>
    exact h.fresh rfl (fun _ _ => nofun)
      (fun _ hprofile _ hb => built_atMost (h.there hprofile hb) hnew) fun _ => False.elim
  | poll relay =>
    have hsound : relay.Sound D.timely atMost := h.sound
    exact h.connections rfl (fun call hcall => ⟨call, hcall, rfl, rfl, .inl⟩) (fun _ => id) hsound
  | check relay i call hcall hsent => exact h.check hcall hsent (by split_ifs <;> nofun)
  | lock relay i call hcall hchecked _ => exact h.lock observes_elsewhere atMost_installed hcall hchecked
  | own relay i q q' m hpending hmove hown => exact h.exchanged hpending hmove hown
  | unlock relay i r hpending => exact h.unlock hpending
  | other relay m hother => exact h.beside hother (atMost_elsewhere hother)

/-- **No request is served through the wrong backend.**  Operations of the controller that die
    anywhere, polls, restarts, requests to the relay, in any order: whenever the files admit traffic
    and the manager does, its profile is that of the durable applied backend — as long as no exchange
    is completed out of time, and the controller has the control socket. -/
theorem admitted_profile_is_applied (D : Deployment)
    (hcontrol : D.controller.runtimeControl = true) {d₀ : Disk}
    {x : (D.system D.timely).Position}
    (h : (D.system D.timely).Leads ⟨none, false, d₀, .down⟩ x) {relay : Relay}
    (hserving : x.host = .serving relay)
    (hallows : (D.watcher.refresh x.store).allowsDataPlane = true)
    (hactive : relay.manager.admission = .active) :
    ∃ s legacy, D.controller.store.read x.store = .ok (s, legacy) ∧
      relay.manager.profile = some (runtimeProfile s.appliedBackend) := by
  obtain ⟨past, hlinked, -⟩ := linked_leads hcontrol (fun _ _ h => h) timely_step h
  obtain ⟨s, legacy, hread, -, hbacking, hvalid⟩ := refresh_allows hallows
  rw [D.shared] at hread hbacking
  refine ⟨s, legacy, hread, ?_⟩
  have hthere := hlinked.relied (by rw [hbacking]; exact runtimeProfile_ne_none hvalid)
  rw [hserving, hbacking] at hthere
  exact hthere hactive

/-- The start of a relay beside an External route. -/
theorem Sample.leads_started {K : Conduct} (hchoose : K.choose externalActive Proxy.Sample.external)
    (hprobed : K.probed .ready) :
    (deployment.system K).Leads ⟨none, false, externalActive, .down⟩
      ⟨none, false, externalActive, started Proxy.Sample.external externalActive⟩ :=
  Hosted.leads_host (deployment.started (config "https://old")
    runtime .ready rfl rfl hchoose hprobed rfl)

/-- A relay that has just started beside an External route. -/
theorem admitted_profile_is_applied_started :
    (Sample.deployment.watcher.refresh externalActive).allowsDataPlane = true ∧
      ∃ s legacy, store.read externalActive = .ok (s, legacy) ∧
        (Sample.managerOf Proxy.Sample.external).profile = some (runtimeProfile s.appliedBackend) := by
  have hallows : (Sample.deployment.watcher.refresh externalActive).allowsDataPlane =
      true := by decide +kernel
  have hrun := Sample.leads_started (K := Sample.deployment.timely) trivial trivial
  exact ⟨hallows, admitted_profile_is_applied Sample.deployment rfl hrun rfl hallows rfl⟩

namespace Sample

/-- A deployment without a state, whose Codex artifacts are those of the local runtime. -/
def legacyLocal : Disk :=
  { routed "local" (Routing.Sample.state 5 .external .external .relayActive) with
    state := .absent, marker := .absent }

/-- The relay has started, and a request for the local runtime has been carried out. -/
def discovered : (deployment.system .any).Position :=
  Hosted.Position.advance deployment.react 9
    ⟨some ⟨.requestBackend .localOpenCodex false none,
      Routing.ControllerCall.prog deployment.controller deployment.coordinator
        (.requestBackend .localOpenCodex false none)⟩,
      false, legacyLocal, started Proxy.Sample.external legacyLocal⟩

end Sample

open Sample

/-- **A request that misroutes.**  The relay starts beside a deployment without a state: that stands for
    External.  The first request finds the artifacts of the local runtime and records what it has
    found as applied and active; the relay goes on serving External. -/
theorem legacy_request_misroutes :
    (deployment.system .any).Leads ⟨none, false, legacyLocal, .down⟩ discovered ∧
    ∃ relay s, discovered.host = .serving relay ∧
      (deployment.watcher.refresh discovered.store).allowsDataPlane = true ∧
      relay.manager.admission = .active ∧ relay.manager.profile = some .external ∧
      store.read discovered.store = .ok (s, false) ∧
      s.appliedBackend = .localOpenCodex := by
  have hstarted : (deployment.system .any).Leads ⟨none, false, legacyLocal, .down⟩
      ⟨none, false, legacyLocal, started Proxy.Sample.external legacyLocal⟩ :=
    Hosted.leads_host (deployment.started (config "https://old")
      runtime .ready rfl rfl trivial trivial rfl)
  have hrun := (hstarted.tail (.start (.requestBackend .localOpenCodex false none) ⟨rfl, trivial⟩)).trans
    (Hosted.leads_advance (deployment.react_possible .any) 9 _)
  exact ⟨hrun, _, _, rfl, by decide +kernel, rfl, rfl, rfl, rfl⟩

/-! ## Exactly the applied backend -/

/-- The backend is ready throughout: every probe says so, and nobody reports anything else. -/
def readyAnswers : Env RuntimeManager Proxy.Query Proxy.Query.Answer
  | .probe, _, a => a = LocalAvailability.ready
  | q, m, a => answers q m a

def Conduct.ready : Conduct :=
  { any with env := readyAnswers, other := Calm, probed := fun probed => probed = .ready }

/-- The process serves `b`. -/
def exactly : Presence where
  starting _ _ := True
  building b spec := spec.startParked = false ∧ spec.profile = runtimeProfile b
  serving b m := m.admission = .active ∧ m.profile = some (runtimeProfile b)
  strict := True

/-- **No exchange and no process out of time.**

    1. An `Apply` runs only for the latest request, and only while the files ask for it.
    2. A process does not end between the exchange it has confirmed and the end of the switch.
    3. A new one starts with the runtime some operation relies on, unless there is none or the
       exchange has yet to be made. -/
def Deployment.steady (D : Deployment) : Conduct :=
  { Conduct.ready with
    call := fun call d => call.Plain D.controller d
    own := fun d relay _ => ∃ call p, relay.calls.getLast? = some call ∧
      relay.pending = some (relay.calls.length - 1, p) ∧
      D.controller.store.Authorised call.generation call.backend d
    crash := fun d p => D.controller.store.switching d = true →
      ¬ p.Applied (D.controller.store.owed d)
    choose := fun d spec => runtimeProfile (D.controller.store.owed d) = .none ∨
      (∃ generation b, D.controller.store.Authorised generation b d) ∨
      spec.startParked = false ∧ spec.profile = runtimeProfile (D.controller.store.owed d) }

theorem exactly_installed (b : Backend) (m : RuntimeManager)
    (h : Installed (fun availability => availability = .ready) (specFor b) m.view)
    (hprofile : runtimeProfile b ≠ .none) : exactly.serving b m := by
  obtain ⟨slot, hslot, hspec⟩ := h.current hprofile
  refine ⟨h.admitted hprofile fun _ => id, ?_⟩
  unfold profile
  rw [show m.current = some slot from hslot]
  simp [hspec, specFor]

theorem exactly_calm (h : exactly.serving b m) (hstep : Calm m m') : exactly.serving b m' := by
  refine ⟨?_, ?_⟩
  · have hadmission : m'.view.admission = m.view.admission := by
      rcases hstep.view with hsame | ⟨availability, rfl, rfl⟩
      · rw [hsame]
      · rw [view_observe, observe_ready_admission]
    exact hadmission.trans h.1
  · unfold profile
    rw [hstep.1.kept.current]
    exact h.2

/-- The latest request works on the manager, as the files ask. -/
theorem Linked.exchanging {q q' : Proxy.Op (Except Proxy.Err Unit)}
    (h : Linked D.controller.store D.steady exactly past d (.serving relay))
    (hpending : relay.pending = some (i, q)) (hmove : D.steady.machine.Move q relay.manager q' m)
    (hown : D.steady.own d relay m) :
    Linked D.controller.store D.steady exactly past d
      (.serving { relay with pending := some (i, q'), manager := m }) := by
  have hsound : relay.Sound D.steady exactly := h.sound
  obtain ⟨call, hcall, happlying, hkeeps⟩ := hsound i q hpending
  obtain ⟨-, hkeeps'⟩ := hkeeps.move hmove
  obtain ⟨latest, _, hlatest, hi, hauthorised⟩ := hown
  have hsame : latest = call := by
    rw [hpending, Option.some.injEq, Prod.mk.injEq] at hi
    rw [hi.1, ← List.getLast?_eq_getElem?, hlatest] at hcall
    exact Option.some.inj hcall
  subst hsame
  refine ⟨fun hneeded => ?_, fun b hb => ?_, fun generation b hb => ?_, ?_⟩
  · rw [hauthorised.backing] at hneeded
    exact absurd rfl hneeded
  · -- a confirmed exchange is not under way any more
    obtain ⟨last, hlast, -, hdone⟩ := (h.confirmed b hb).2.2 hauthorised.switching trivial
    have hlast' : relay.calls.getLast? = some last := hlast
    rw [hlatest] at hlast'
    cases hlast'
    rw [happlying] at hdone
    cases hdone
  · obtain ⟨hasked, hcalls⟩ := h.asked generation b hb
    refine ⟨hasked, fun last hlast => ?_⟩
    obtain ⟨hg, hb', -⟩ := hcalls last hlast
    refine ⟨hg, hb', fun hdone => ?_⟩
    have hlast' : relay.calls.getLast? = some last := hlast
    rw [hlatest] at hlast'
    cases hlast'
    rw [happlying] at hdone
    cases hdone
  · rintro _ _ ⟨⟩
    exact ⟨latest, hcall, happlying, hkeeps'⟩

theorem built_exactly {spec : RuntimeSpec} {initial : Runtime} (h : exactly.building b spec)
    (hprofile : runtimeProfile b ≠ .none) (hnew : newRuntimeManager spec initial .ready = .ok m) :
    exactly.serving b m := by
  obtain ⟨-, hcurrent, hopen⟩ := newRuntimeManager_admission hnew
  have hnone : spec.profile ≠ .none := by
    rw [h.2]
    exact hprofile
  exact ⟨hopen hnone h.1 rfl, by rw [hcurrent hnone, h.2]⟩

/-- **Every step of the process** leaves it serving what the files rely on. -/
theorem steady_step (h : Linked D.controller.store D.steady exactly past d p)
    (hstep : D.Step D.steady d p p') : Linked D.controller.store D.steady exactly past d p' := by
  cases hstep with
  | crash _ hcrash => exact h.fresh rfl trivial (fun _ _ _ _ => trivial) fun hs _ => hcrash hs
  | start cfg | pollStarting cfg snapshot =>
    exact h.fresh rfl trivial (fun _ _ _ _ => trivial) fun _ _ ⟨_, hcall, _⟩ => nomatch hcall
  | choose cfg snapshot hchoose =>
    refine h.fresh rfl trivial (fun b hprofile howed hb => ?_) fun _ _ ⟨_, hcall, _⟩ => nomatch hcall
    rcases hchoose with hnone | ⟨generation, b', hauthorised⟩ | hserves
    · rw [howed] at hnone
      exact absurd hnone hprofile
    · rcases hb with hbacking | hconfirmed
      · rw [← hbacking, hauthorised.backing] at hprofile
        exact absurd rfl hprofile
      · obtain ⟨_, hcall, _⟩ := (h.confirmed b hconfirmed).2.2 hauthorised.switching trivial
        cases hcall
    · rw [howed] at hserves
      exact hserves
  | pollBuilding spec snapshot =>
    exact h.fresh rfl trivial (fun _ hprofile _ hb => h.there hprofile hb)
      fun _ _ ⟨_, hcall, _⟩ => nomatch hcall
  | build spec snapshot initial probed m hprobed hnew =>
    have hready : probed = .ready := hprobed
    subst hready
    exact h.fresh rfl (fun _ _ => nofun)
      (fun _ hprofile _ hb => built_exactly (h.there hprofile hb) hprofile hnew)
      fun _ _ ⟨_, hcall, _⟩ => nomatch hcall
  | poll relay =>
    have hsound : relay.Sound D.steady exactly := h.sound
    exact h.connections rfl (fun call hcall => ⟨call, hcall, rfl, rfl, .inl⟩) (fun _ => id) hsound
  | check relay i call hcall hsent => exact h.check hcall hsent (by split_ifs <;> nofun)
  | lock relay i call hcall hchecked _ =>
    exact h.lock (fun _ _ => Calm.view) exactly_installed hcall hchecked
  | own relay i q q' m hpending hmove hown => exact h.exchanging hpending hmove hown
  | unlock relay i r hpending => exact h.unlock hpending
  | other relay m hother => exact h.beside hother fun _ hb => exactly_calm hb hother

/-- **A successful switch leaves the relay serving.**  In every run without an exchange or a process
    out of time: when `Apply`, `Recover`, `SwitchRuntimeRouting` or `ReconcileRuntimeRouting` has
    succeeded and the durable state is active on a backend, the manager admits traffic with its
    profile. -/
theorem successful_switch_serves (D : Deployment) (hcontrol : D.controller.runtimeControl = true)
    {d₀ : Disk} {x : (D.system D.steady).Position}
    (h : (D.system D.steady).Leads ⟨none, false, d₀, .down⟩ x) {call : ControllerCall}
    {r : call.Result} (hreturned : x.pending = some ⟨call, .ret r⟩)
    (hsuccess : call.succeeded r = true) {s : State}
    (hread : D.controller.store.read x.store = .ok (s, false)) (hphase : s.phase = .relayActive)
    {relay : Relay} (hserving : x.host = .serving relay) :
    relay.manager.admission = .active ∧
      relay.manager.profile = some (runtimeProfile s.appliedBackend) := by
  obtain ⟨past, hlinked, hpost⟩ :=
    (linked_leads hcontrol (fun _ _ h => h) steady_step h).returned hreturned
  have hallows : s.allowsDataPlane = true := by simp [allowsDataPlane, hphase]
  have hbacking : D.controller.store.backing x.store = s.appliedBackend := by
    rw [backing_of_read hread, hpost hsuccess]
    simp [backing, hallows]
  have hvalid := validRelayBackend_of_allows (read_wellFormed hread) hallows
  have hthere := hlinked.relied (by rw [hbacking]; exact runtimeProfile_ne_none hvalid)
  rw [hserving, hbacking] at hthere
  exact hthere

namespace Sample

def request (direction : Routing.RuntimeRoutingDirection) : ControllerCall :=
  .runtimeRouting (.reconcile (Routing.Sample.request direction) true)

/-- The operation `call` is started beside `d`, and takes `n` steps. -/
def beside (K : Conduct) (call : ControllerCall) (n : Nat) (d : Disk) (p : Process) :
    (deployment.system K).Position :=
  Hosted.Position.advance deployment.react n
    ⟨some ⟨call, Routing.ControllerCall.prog deployment.controller deployment.coordinator call⟩,
      false, d, p⟩

theorem leads_beside {K : Conduct} (call : ControllerCall) (n : Nat) {d : Disk}
    {p : Process} (hcall : call.ofController = true) (hK : K.call call d) :
    (deployment.system K).Leads ⟨none, false, d, p⟩ (beside K call n d p) :=
  .head (.start call ⟨hcall, hK⟩) (Hosted.leads_advance (deployment.react_possible K) n _)

/-- The activation of a container, up to its `n`th step. -/
def activation (K : Conduct) (n : Nat) : (deployment.system K).Position :=
  beside K (.runtimeRouting (.switch (Routing.Sample.request .completeTarget) true)) n
    externalActive (started Proxy.Sample.external externalActive)

end Sample

/-- An activation dies once its switch is staged; the External route it came from is restored. -/
theorem successful_switch_serves_restored :
    (beside deployment.steady (request .restoreOrigin) 20
        (activation deployment.steady 9).store
        (activation deployment.steady 9).host).pending =
          some ⟨request .restoreOrigin, .ret (.ok 7)⟩ ∧
      (managerOf Proxy.Sample.external).admission = .active ∧
      (managerOf Proxy.Sample.external).profile = some .external := by
  have hstarted := leads_started (K := deployment.steady) (.inr (.inr ⟨rfl, rfl⟩)) rfl
  have hdied := (hstarted.trans (leads_beside
    (.runtimeRouting (.switch (Routing.Sample.request .completeTarget) true)) 9 rfl trivial)).tail
      .crash
  have hrun := hdied.trans (leads_beside (request .restoreOrigin) 20 rfl trivial)
  have hreturned : (beside deployment.steady (request .restoreOrigin) 20
      (activation deployment.steady 9).store
      (activation deployment.steady 9).host).pending =
        some ⟨request .restoreOrigin, .ret (.ok 7)⟩ := rfl
  exact ⟨hreturned, successful_switch_serves deployment rfl hrun hreturned rfl
    (s := Routing.Sample.state 7 .external .external .relayActive) rfl rfl rfl⟩

namespace Sample

/-- An activation has saved `applying` and dies before its journal; the relay is restarted. -/
def restarted : (deployment.system .ready).Position :=
  ⟨none, false, (activation .ready 18).store,
    started (specFor .none) (activation .ready 18).store⟩

/-- Then the External route is restored. -/
def restored : (deployment.system .ready).Position :=
  beside .ready (request .restoreOrigin) 20 restarted.store restarted.host

end Sample

/-- **Success behind a parked relay.**  An activation dies between its state and its journal, and the
    relay is restarted: beside `applying` it starts parked.  To restore the External route there is
    nothing to undo but the state; the relay shows the new one, and the operation succeeds — with a
    manager that admits nothing. -/
theorem reconciled_behind_a_parked_relay :
    (deployment.system .ready).Leads ⟨none, false, externalActive, .down⟩
      restored ∧
    ∃ generation s relay,
      restored.pending = some ⟨request .restoreOrigin, .ret (.ok generation)⟩ ∧
      store.read restored.store = .ok (s, false) ∧ s.phase = .relayActive ∧
      s.appliedBackend = .external ∧ restored.host = .serving relay ∧
      relay.manager.admission = .paused ∧ relay.manager.profile = some .none := by
  have hstarted := leads_started (K := .ready) trivial rfl
  have hdied := (hstarted.trans (leads_beside
    (.runtimeRouting (.switch (Routing.Sample.request .completeTarget) true)) 18 rfl trivial)).tail
      .crash
  have hrestarted : (deployment.system .ready).Leads
      ⟨none, false, externalActive, .down⟩ restarted :=
    (hdied.tail (.host (.crash _ trivial))).trans
      (Hosted.leads_host (deployment.started (config "https://old")
        runtime .ready rfl rfl trivial rfl rfl))
  have hrun := hrestarted.trans (leads_beside (request .restoreOrigin) 20 rfl trivial)
  exact ⟨hrun, _, _, _, rfl, rfl, rfl, rfl, rfl, rfl, rfl⟩

end OpenCodexRelay.Resident
