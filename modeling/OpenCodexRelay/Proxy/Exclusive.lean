/-
  Replacing a slot is exclusive.

  Three families of goroutines meet at the runtime manager: the operation that holds the locks, the
  requests, and the workers.  What keeps them apart is spread over the gate, the tracker, two `done`
  channels and the current pointer.  The invariant `Inv` ties them together:

  1. a worker that runs works for the current slot, and is the one the slot has the handle of;
  2. a request whose handler runs, runs on the current slot;
  3. while the write side of the gate is held, nobody holds the read side.

  `Elsewhere` keeps it because every step looks again before it acts.  The operations keep it because
  they change the current slot only behind the gate (no request) and after both `done` channels (no
  worker): `Standing` says for each place of an operation how far it has got, and `Next.standing` that
  each step takes it there.  Between operations `Between` holds: the gate is open, and a prepared
  maintenance remembers the current slot, which has no worker.
-/
import OpenCodexRelay.Proxy.Phases

namespace OpenCodexRelay.Proxy

open Durable
open Function (update update_self)

/-! ## The invariant -/

/-- The handle a slot has of its worker of this kind. -/
def RuntimeManager.handle (m : RuntimeManager) : WorkerKind → Nat → Option Nat
  | .catalog => m.lifecycle
  | .monitor => m.monitor

/-- The worker with this handle runs. -/
def RuntimeManager.Runs (m : RuntimeManager) (i : Nat) (w : Worker) : Prop :=
  m.workers[i]? = some w ∧ w.running = true

/-- No worker runs. -/
def RuntimeManager.Idle (m : RuntimeManager) : Prop := ∀ i w, ¬ m.Runs i w

structure Inv (m : RuntimeManager) : Prop where
  owned : ∀ i w, m.Runs i w → m.current = some w.slot ∧ m.handle w.kind w.slot.id = some i
  served : ∀ r slot, (m.requests r).runsOn = some slot → m.current = some slot
  gate : m.gateHeld = true → ∀ r, (m.requests r).holdsGate = false

/-- What a worker does not change by being cancelled. -/
def Worker.core (w : Worker) : WorkerKind × Slot × Bool := (w.kind, w.slot, w.running)

/-- **The frame of most steps**: nothing that the invariant speaks about moves. -/
structure Frame (m m' : RuntimeManager) : Prop where
  current : m'.current = m.current
  requests : m'.requests = m.requests
  gateHeld : m'.gateHeld = m.gateHeld
  lifecycle : m'.lifecycle = m.lifecycle
  monitor : m'.monitor = m.monitor
  cores : m'.workers.map Worker.core = m.workers.map Worker.core
  prepared : m'.maintenancePrepared = m.maintenancePrepared
  slot : m'.maintenanceSlot = m.maintenanceSlot
  slots : m'.slots = m.slots

variable {m' m : RuntimeManager} {r : Nat} {slot : Slot} {resumed : Bool}

section Frames

variable {m'' : RuntimeManager}

theorem Frame.refl (m : RuntimeManager) : Frame m m := ⟨rfl, rfl, rfl, rfl, rfl, rfl, rfl, rfl, rfl⟩

theorem Frame.trans (h : Frame m m') (h' : Frame m' m'') : Frame m m'' :=
  ⟨h'.current.trans h.current, h'.requests.trans h.requests, h'.gateHeld.trans h.gateHeld,
    h'.lifecycle.trans h.lifecycle, h'.monitor.trans h.monitor, h'.cores.trans h.cores,
    h'.prepared.trans h.prepared, h'.slot.trans h.slot, h'.slots.trans h.slots⟩

theorem map_core_modify (l : List Worker) (i : Nat) :
    (l.modify i fun w => { w with cancelled := true }).map Worker.core = l.map Worker.core := by
  apply List.ext_getElem?
  intro j
  simp only [List.getElem?_map, List.getElem?_modify]
  cases l[j]? with
  | none => rfl
  | some w =>
    by_cases hij : i = j
    · simp [hij, Worker.core]
    · simp [hij]

theorem frame_cancelHandle (handle : Option Nat) (m : RuntimeManager) :
    Frame m (m.cancelHandle handle) := by
  cases handle with
  | none => exact .refl m
  | some i => exact ⟨rfl, rfl, rfl, rfl, rfl, map_core_modify _ i, rfl, rfl, rfl⟩

theorem frame_cancelWorkers (slot : Option Slot) (m : RuntimeManager) :
    Frame m (m.cancelWorkers slot) := by
  cases slot with
  | none => exact .refl m
  | some s => exact (frame_cancelHandle _ m).trans (frame_cancelHandle _ _)

theorem frame_observe (availability : LocalAvailability) (m : RuntimeManager) :
    Frame m (m.observeLocalAvailability availability) := by
  unfold RuntimeManager.observeLocalAvailability
  split_ifs with hloss hactive
  · refine Frame.trans ?_ (frame_cancelHandle _ _)
    exact ⟨rfl, rfl, rfl, rfl, rfl, rfl, rfl, rfl, rfl⟩
  · refine Frame.trans ?_ (frame_cancelHandle _ _)
    exact ⟨rfl, rfl, rfl, rfl, rfl, rfl, rfl, rfl, rfl⟩
  · exact ⟨rfl, rfl, rfl, rfl, rfl, rfl, rfl, rfl, rfl⟩

theorem frame_observeForSlot (slot : Slot) (availability : LocalAvailability)
    (m : RuntimeManager) : Frame m (m.observeLocalAvailabilityForSlot slot availability) := by
  unfold RuntimeManager.observeLocalAvailabilityForSlot
  split_ifs
  · exact .refl m
  · exact frame_observe availability m

theorem frame_park (old : Option Slot) (m : RuntimeManager) :
    Frame m (m.parkAfterFailedDrain old) := by
  unfold RuntimeManager.parkAfterFailedDrain
  split_ifs
  · refine Frame.trans ?_ (frame_cancelWorkers _ _)
    exact ⟨rfl, rfl, rfl, rfl, rfl, rfl, rfl, rfl, rfl⟩
  · exact .refl m

theorem frame_activate (slot : Option Slot) (m : RuntimeManager) : Frame m (m.activate slot) := by
  unfold RuntimeManager.activate
  split_ifs
  · exact ⟨rfl, rfl, rfl, rfl, rfl, rfl, rfl, rfl, rfl⟩
  · exact .refl m

theorem frame_reactivate (slot : Slot) (m : RuntimeManager) : Frame m (m.reactivate slot) := by
  unfold RuntimeManager.reactivate
  split_ifs
  · exact ⟨rfl, rfl, rfl, rfl, rfl, rfl, rfl, rfl, rfl⟩
  · exact .refl m

theorem frame_cancelParent (m : RuntimeManager) : Frame m m.cancelParent := by
  refine ⟨rfl, rfl, rfl, rfl, rfl, ?_, rfl, rfl, rfl⟩
  simp [RuntimeManager.cancelParent, Worker.core]

/-- A worker that runs afterwards ran before, under the same handle. -/
theorem Frame.runs (h : Frame m m') {i : Nat} {w' : Worker} (hw : m'.Runs i w') :
    ∃ w, m.Runs i w ∧ w.kind = w'.kind ∧ w.slot = w'.slot := by
  have hcore := congrArg (fun l => l[i]?) h.cores
  simp only [List.getElem?_map, hw.1, Option.map_some] at hcore
  obtain ⟨w, hw', heq⟩ := Option.map_eq_some_iff.mp hcore.symm
  simp only [Worker.core, Prod.mk.injEq] at heq
  exact ⟨w, ⟨hw', heq.2.2.trans hw.2⟩, heq.1, heq.2.1⟩

theorem Frame.handle (h : Frame m m') (kind : WorkerKind) : m'.handle kind = m.handle kind := by
  cases kind with
  | catalog => exact h.lifecycle
  | monitor => exact h.monitor

theorem Frame.inv (h : Frame m m') (hI : Inv m) : Inv m' := by
  refine ⟨fun i w' hw' => ?_, fun r slot hr => ?_, fun hg r => ?_⟩
  · obtain ⟨w, hw, hk, hs⟩ := h.runs hw'
    rw [h.current, h.handle, ← hk, ← hs]
    exact hI.owned i w hw
  · rw [h.requests] at hr
    rw [h.current]
    exact hI.served r slot hr
  · rw [h.requests]
    rw [h.gateHeld] at hg
    exact hI.gate hg r

end Frames

/-! ## Everybody else keeps it -/

/-- **What only the operation that holds the locks changes**; and no worker starts without it. -/
structure Kept (m m' : RuntimeManager) : Prop where
  current : m'.current = m.current
  gateHeld : m'.gateHeld = m.gateHeld
  prepared : m'.maintenancePrepared = m.maintenancePrepared
  slot : m'.maintenanceSlot = m.maintenanceSlot
  slots : m'.slots = m.slots
  lifecycle : m'.lifecycle = m.lifecycle
  monitor : m'.monitor = m.monitor
  started : m'.workers.length = m.workers.length
  runs : ∀ i w', m'.Runs i w' → ∃ w, m.Runs i w ∧ w.kind = w'.kind ∧ w.slot = w'.slot

theorem Frame.kept (h : Frame m m') : Kept m m' where
  __ := h
  started := by
    have hlen := congrArg List.length h.cores
    simpa using hlen
  runs := fun _ _ => h.runs

theorem Elsewhere.kept (h : Elsewhere m m') : Kept m m' := by
  have hrequest : ∀ f, Kept m { m with requests := f } := fun f =>
    ⟨rfl, rfl, rfl, rfl, rfl, rfl, rfl, rfl, fun i w hw => ⟨w, hw, rfl, rfl⟩⟩
  cases h with
  | choose r slot _ _ _ => exact hrequest _
  | enter r slot _ _ => exact hrequest _
  | proceed r slot _ _ _ => exact hrequest _
  | retry r slot _ _ => exact hrequest _
  | track r slot _ => exact hrequest _
  | leave r => exact hrequest _
  | observe availability => exact (frame_observe availability m).kept
  | monitor i w availability _ _ _ => exact (frame_observeForSlot w.slot availability m).kept
  | finish i =>
    refine ⟨rfl, rfl, rfl, rfl, rfl, rfl, rfl, List.length_modify _ _ _, fun j w hw => ?_⟩
    obtain ⟨hget, hrun⟩ := hw
    simp only [List.getElem?_modify] at hget
    cases hj : m.workers[j]? with
    | none =>
      rw [hj] at hget
      cases hget
    | some v =>
      rw [hj] at hget
      by_cases hij : i = j
      · simp only [hij, if_true] at hget
        cases hget
        cases hrun
      · simp only [hij, if_false] at hget
        cases hget
        exact ⟨v, ⟨hj, hrun⟩, rfl, rfl⟩
  | cancel i => exact (frame_cancelHandle (some i) m).kept

/-- A request moves: it runs only on the current slot and holds the gate only when it is open. -/
theorem Inv.request (hI : Inv m) {q : Request}
    (hrun : ∀ slot, q.runsOn = some slot → m.current = some slot)
    (hgate : q.holdsGate = true → m.gateHeld = false) :
    Inv { m with requests := update m.requests r q } := by
  have hupdate : ∀ r', update m.requests r q r' = q ∨
      update m.requests r q r' = m.requests r' := by
    intro r'
    by_cases hrr : r' = r
    · subst hrr
      exact .inl (update_self ..)
    · exact .inr (Function.update_of_ne hrr ..)
  refine ⟨hI.owned, fun r' slot hr => ?_, fun hg r' => ?_⟩
  · change (update m.requests r q r').runsOn = some slot at hr
    rcases hupdate r' with h | h <;> rw [h] at hr
    · exact hrun slot hr
    · exact hI.served r' slot hr
  · change (update m.requests r q r').holdsGate = false
    rcases hupdate r' with h | h <;> rw [h]
    · by_contra hq
      have hopen := hgate (Bool.of_not_eq_false hq)
      rw [show m.gateHeld = true from hg] at hopen
      cases hopen
    · exact hI.gate hg r'

/-- Somebody inside keeps the gate from being taken. -/
theorem Inv.gate_open (hI : Inv m) (h : (m.requests r).holdsGate = true) :
    m.gateHeld = false := by
  cases hg : m.gateHeld with
  | false => rfl
  | true =>
    rw [hI.gate hg r] at h
    cases h

/-- Behind the gate nobody runs on any slot. -/
theorem Inv.nobody (hI : Inv m) (hg : m.gateHeld = true) (r : Nat) :
    (m.requests r).runsOn = none := by
  have hfree := hI.gate hg r
  cases hr : m.requests r with
  | idle | chosen slot | entered slot => rfl
  | serving slot | tracked slot =>
    rw [hr] at hfree
    cases hfree

theorem Elsewhere.inv (h : Elsewhere m m') (hI : Inv m) : Inv m' := by
  cases h with
  | choose r slot _ _ _ => exact hI.request nofun nofun
  | enter r slot _ hopen => exact hI.request nofun fun _ => hopen
  | proceed r slot hr _ hc =>
    refine hI.request (fun slot' hs => ?_) fun _ => hI.gate_open (r := r) ?_
    · cases hs
      exact hc
    · rw [hr]
      rfl
  | retry r slot _ _ => exact hI.request nofun nofun
  | track r slot hr =>
    refine hI.request (fun slot' hs => ?_) fun _ => hI.gate_open (r := r) ?_
    · cases hs
      refine hI.served r slot ?_
      rw [hr]
      rfl
    · rw [hr]
      rfl
  | leave r => exact hI.request nofun nofun
  | observe availability => exact (frame_observe availability m).inv hI
  | monitor i w availability _ _ _ => exact (frame_observeForSlot w.slot availability m).inv hI
  | finish i =>
    have hkept := kept (.finish m i)
    have hrec : Inv { m with workers := m.workers.modify i fun w => { w with running := false } } := by
      refine ⟨fun j w' hw' => ?_, hI.served, hI.gate⟩
      obtain ⟨w, hw, hk, hs⟩ := hkept.runs j w' hw'
      have hown := hI.owned j w hw
      rw [hk, hs] at hown
      exact hown
    exact hrec
  | cancel i => exact (frame_cancelHandle (some i) m).inv hI

theorem Kept.idle (h : Kept m m') (hi : m.Idle) : m'.Idle := by
  intro i w' hw'
  obtain ⟨w, hw, -⟩ := h.runs i w' hw'
  exact hi i w hw

/-! ## The operations keep it -/

/-- **Between operations** the gate is open, and a prepared maintenance remembers the current slot,
    which has no worker. -/
structure Between (m : RuntimeManager) : Prop where
  inv : Inv m
  gate : m.gateHeld = false
  prepared : m.maintenancePrepared = true → m.maintenanceSlot = m.current ∧ m.Idle

/-- An operation holds on to `old`, which a prepared maintenance, if there is one, remembers. -/
structure Holding (old : Option Slot) (gate : Bool) (purpose : Purpose) (m : RuntimeManager) :
    Prop where
  inv : Inv m
  current : m.current = old
  gate : m.gateHeld = gate
  rest : m.maintenancePrepared = true → m.maintenanceSlot = m.current ∧ m.Idle
  fresh : purpose ≠ .close → m.maintenancePrepared = false

/-- It is about to start `slot`, after an exchange or to resume a maintenance. -/
structure Loose (slot : Slot) (resumed : Bool) (m : RuntimeManager) : Prop where
  inv : Inv m
  current : m.current = some slot
  gate : m.gateHeld = !resumed
  fresh : resumed = false → m.maintenancePrepared = false

/-- No worker of this kind runs. -/
def RuntimeManager.Without (m : RuntimeManager) (kind : WorkerKind) : Prop :=
  ∀ i w, m.Runs i w → w.kind ≠ kind

/-- **How far an operation has got.** -/
def Standing : Phase → RuntimeManager → Prop
  | .called _, m | .verifying, m | .ended _, m => Between m
  | .admitted _ _, m | .probed _ _ _, m => Between m ∧ m.maintenancePrepared = false
  | .chosen old purpose, m | .transitioning old purpose, m | .draining old purpose, m =>
    Holding old false purpose m
  | .gated old purpose, m => Holding old true purpose m
  | .waiting slot monitor lifecycle ended purpose, m => Holding (some slot) true purpose m ∧
    m.monitor slot.id = monitor ∧ m.lifecycle slot.id = lifecycle ∧
      (ended = true → m.Without .monitor)
  | .stopped old purpose, m => Holding old true purpose m ∧ m.Idle
  | .published, m => Inv m ∧ m.gateHeld = true ∧ m.maintenancePrepared = false ∧ m.Idle
  | .starting slot resumed, m => Loose slot resumed m ∧ m.Idle
  | .halfStarted slot resumed, m => Loose slot resumed m ∧ m.Without .monitor
  | .started slot resumed, m => Loose slot resumed m
  | .forgetting held, m => Inv m ∧ m.gateHeld = held
  | .leaving _, m =>
    Inv m ∧ (m.maintenancePrepared = true → m.maintenanceSlot = m.current ∧ m.Idle)

/-- What every own step does: it ends in the invariant, and leaves the requests alone. -/
abbrev Own (m m' : RuntimeManager) : Prop := Inv m' ∧ m'.requests = m.requests

section Operations

variable {old : Option Slot} {p p' : Phase}

theorem Kept.rest (h : Kept m m')
    (hr : m.maintenancePrepared = true → m.maintenanceSlot = m.current ∧ m.Idle)
    (hp : m'.maintenancePrepared = true) : m'.maintenanceSlot = m'.current ∧ m'.Idle := by
  rw [h.prepared] at hp
  rw [h.slot, h.current]
  exact ⟨(hr hp).1, h.idle (hr hp).2⟩

theorem Kept.between (h : Kept m m') (hI : Inv m') (hb : Between m) : Between m' :=
  ⟨hI, h.gateHeld.trans hb.gate, h.rest hb.prepared⟩

theorem Kept.holding (h : Kept m m') (hI : Inv m') {gate : Bool} {purpose : Purpose}
    (hb : Holding old gate purpose m) : Holding old gate purpose m' :=
  ⟨hI, h.current.trans hb.current, h.gateHeld.trans hb.gate, h.rest hb.rest,
    fun hp => h.prepared.trans (hb.fresh hp)⟩

theorem Kept.loose (h : Kept m m') (hI : Inv m') (hb : Loose slot resumed m) :
    Loose slot resumed m' :=
  ⟨hI, h.current.trans hb.current, h.gateHeld.trans hb.gate,
    fun hp => h.prepared.trans (hb.fresh hp)⟩

theorem Kept.without (h : Kept m m') {kind : WorkerKind} (hw : m.Without kind) : m'.Without kind := by
  intro i w' hw'
  obtain ⟨w, hrun, hk, -⟩ := h.runs i w' hw'
  rw [← hk]
  exact hw i w hrun

theorem Standing.inv (h : Standing p m) : Inv m := by
  cases p with
  | called | verifying | ended | chosen | transitioning | draining | gated | started => exact h.inv
  | admitted | probed | waiting | stopped | starting | halfStarted => exact h.1.inv
  | published | forgetting | leaving => exact h.1

/-- **Whoever leaves slot, gate and handles alone** leaves the operation where it is. -/
theorem Kept.standing (h : Kept m m') (hI : Inv m') (hm : Standing p m) : Standing p m' := by
  cases p with
  | called | verifying | ended => exact h.between hI hm
  | admitted | probed => exact ⟨h.between hI hm.1, h.prepared.trans hm.2⟩
  | chosen | transitioning | draining | gated => exact h.holding hI hm
  | waiting slot monitor lifecycle ended purpose =>
    obtain ⟨hb, hmon, hlife, hleft⟩ := hm
    exact ⟨h.holding hI hb, by rw [h.monitor, hmon], by rw [h.lifecycle, hlife],
      fun he => h.without (hleft he)⟩
  | stopped => exact ⟨h.holding hI hm.1, h.idle hm.2⟩
  | published =>
    obtain ⟨-, hgate, hp, hidle⟩ := hm
    exact ⟨hI, h.gateHeld.trans hgate, h.prepared.trans hp, h.idle hidle⟩
  | starting => exact ⟨h.loose hI hm.1, h.idle hm.2⟩
  | halfStarted => exact ⟨h.loose hI hm.1, h.without hm.2⟩
  | started => exact h.loose hI hm
  | forgetting => exact ⟨hI, h.gateHeld.trans hm.2⟩
  | leaving => exact ⟨hI, h.rest hm.2⟩

theorem Frame.standing (h : Frame m m') (hm : Standing p m) : Own m m' ∧ Standing p m' :=
  ⟨⟨h.inv hm.inv, h.requests⟩, h.kept.standing (h.inv hm.inv) hm⟩

/-- The exchange of a slot, where there is neither a request nor a worker. -/
theorem Inv.exchange (hI : Inv m) (m' : RuntimeManager) (hg : m.gateHeld = true)
    (hidle : m.Idle) (hworkers : m'.workers = m.workers) (hreq : m'.requests = m.requests) :
    Inv m' ∧ m'.Idle := by
  have hidle' : m'.Idle := fun i w hw => hidle i w ⟨hworkers ▸ hw.1, hw.2⟩
  refine ⟨⟨fun i w hw => absurd hw (hidle' i w), fun r slot hr => ?_, fun _ r => ?_⟩, hidle'⟩
  · rw [hreq, hI.nobody hg r] at hr
    cases hr
  · rw [hreq]
    exact hI.gate hg r

/-- The worker that was just started is the only one of its kind, and the slot has its handle. -/
theorem inv_started (hI : Inv m) (hc : m.current = some slot) (kind : WorkerKind)
    (hleft : m.Without kind) (hkind : m'.handle kind slot.id = some m.workers.length)
    (hother : ∀ k, k ≠ kind → m'.handle k = m.handle k)
    (hworkers : m'.workers = m.workers ++ [⟨kind, slot, m.parentCancelled, true⟩])
    (hcur : m'.current = m.current) (hreq : m'.requests = m.requests)
    (hgate : m'.gateHeld = m.gateHeld) : Inv m' := by
  refine ⟨fun i w hw => ?_, fun r slot' hr => ?_, fun hg r => ?_⟩
  · rw [hcur]
    have hget := hw.1
    rw [hworkers] at hget
    by_cases hi : i < m.workers.length
    · rw [List.getElem?_append_left hi] at hget
      have hrun : m.Runs i w := ⟨hget, hw.2⟩
      rw [hother _ (hleft i w hrun)]
      exact hI.owned i w hrun
    · rw [List.getElem?_append_right (Nat.le_of_not_lt hi), List.getElem?_singleton] at hget
      split_ifs at hget with hz
      cases hget
      have hlen : i = m.workers.length := by omega
      subst hlen
      exact ⟨hc, hkind⟩
  · rw [hreq] at hr
    rw [hcur]
    exact hI.served r slot' hr
  · rw [hreq]
    rw [hgate] at hg
    exact hI.gate hg r

/-- Starting the catalog moves nothing but the worker and its handle. -/
theorem startLifecycle_eq (slot : Slot) (m : RuntimeManager) : ∃ workers lifecycle,
    m.startLifecycle slot = { m with workers := workers, lifecycle := lifecycle } := by
  unfold RuntimeManager.startLifecycle
  split_ifs
  · exact ⟨_, _, rfl⟩
  · exact ⟨_, _, rfl⟩

theorem Loose.startLifecycle (hm : Loose slot resumed m) (hidle : m.Idle) :
    Loose slot resumed (m.startLifecycle slot) ∧ (m.startLifecycle slot).Without .monitor := by
  unfold RuntimeManager.startLifecycle
  split_ifs with hcatalog
  · have hI : Inv { m.startWorker .catalog slot with
        lifecycle := update m.lifecycle slot.id (some m.workers.length) } := by
      refine inv_started hm.inv hm.current .catalog (fun i w hw => absurd hw (hidle i w))
        (update_self ..) (fun k hk => ?_) rfl rfl rfl rfl
      cases k with
      | catalog => exact absurd rfl hk
      | monitor => rfl
    refine ⟨⟨hI, hm.current, hm.gate, hm.fresh⟩, fun i w hw hmon => ?_⟩
    -- the only worker that runs is the new one
    have hget : (m.workers ++ [⟨.catalog, slot, m.parentCancelled, true⟩])[i]? = some w := hw.1
    rcases List.mem_append.mp (List.mem_of_getElem? hget) with hmem | hmem
    · obtain ⟨j, hj⟩ := List.mem_iff_getElem?.mp hmem
      exact hidle j w ⟨hj, hw.2⟩
    · rw [List.mem_singleton] at hmem
      subst hmem
      cases hmon
  · have hI : Inv { m with lifecycle := update m.lifecycle slot.id none } :=
      ⟨fun i w hw => absurd hw (hidle i w), hm.inv.served, hm.inv.gate⟩
    exact ⟨⟨hI, hm.current, hm.gate, hm.fresh⟩, fun i w hw => absurd hw (hidle i w)⟩

theorem Loose.startLocalMonitor (hm : Loose slot resumed m) (hleft : m.Without .monitor) :
    Loose slot resumed (m.startLocalMonitor slot) := by
  have hI : Inv (m.startLocalMonitor slot) := by
    refine inv_started hm.inv hm.current .monitor hleft (update_self ..) (fun k hk => ?_)
      rfl rfl rfl rfl
    cases k with
    | catalog => rfl
    | monitor => exact absurd rfl hk
  exact ⟨hI, hm.current, hm.gate, hm.fresh⟩

/-- A closed `done` channel: the worker of this kind no longer runs. -/
theorem Inv.without (hI : Inv m) (kind : WorkerKind) (hc : m.current = some slot) {handle : Option Nat}
    (hhandle : m.handle kind slot.id = handle) (hdone : answers (.done handle) m true) :
    m.Without kind := by
  rintro i w hw rfl
  obtain ⟨hcur, hown⟩ := hI.owned i w hw
  rw [hc, Option.some.injEq] at hcur
  rw [← hcur, hhandle] at hown
  have hstopped := hdone rfl i w hown hw.1
  rw [hw.2] at hstopped
  cases hstopped

/-- **Each step of an operation** gets it where it is meant to be. -/
theorem Next.standing (h : Next answers m p p' m') (hm : Standing p m) :
    Own m m' ∧ Standing p' m' := by
  have hown : Own m m := ⟨hm.inv, rfl⟩
  cases h with
  | stay | refuse e | nothing h | unprobed | verify hp => exact ⟨hown, hm⟩
  | unfinished | unmonitored | lost e => exact ⟨hown, hm.1⟩
  | accept hp hc => exact ⟨hown, hm, hp⟩
  | probe => exact Frame.standing (frame_observe _ m) hm
  | choose => exact ⟨hown, hm.1.inv, rfl, hm.1.gate, hm.1.prepared, fun _ => hm.2⟩
  | prepare hp => exact ⟨hown, hm.inv, rfl, hm.gate, hm.prepared, fun _ => hp⟩
  | close => exact ⟨hown, hm.inv, rfl, hm.gate, hm.prepared, fun h => absurd rfl h⟩
  | begin => exact Frame.standing ⟨rfl, rfl, rfl, rfl, rfl, rfl, rfl, rfl, rfl⟩ hm
  | cancel _ => exact Frame.standing (frame_cancelWorkers _ m) hm
  | cancelParent => exact Frame.standing (frame_cancelParent m) hm
  | undrained e =>
    obtain ⟨hown', hm'⟩ := Frame.standing (frame_park _ m) hm
    exact ⟨hown', hm'.inv, hm'.gate, hm'.rest⟩
  | gate hfree =>
    have hI : Inv { m with gateHeld := true } := ⟨hm.inv.owned, hm.inv.served, fun _ => hfree rfl⟩
    exact ⟨⟨hI, rfl⟩, hI, hm.current, rfl, hm.rest, hm.fresh⟩
  | hurry => exact Frame.standing (frame_cancelWorkers _ m) hm
  | wait => exact ⟨hown, hm, rfl, rfl, nofun⟩
  | monitorDone hdone =>
    obtain ⟨hb, hmon, hlife, -⟩ := hm
    exact ⟨hown, hb, hmon, hlife, fun _ => hb.inv.without .monitor hb.current hmon hdone⟩
  | lifecycleDone hdone =>
    obtain ⟨hb, -, hlife, hleft⟩ := hm
    have hcatalog := hb.inv.without .catalog hb.current hlife hdone
    refine ⟨hown, hb, fun i w hw => ?_⟩
    cases hk : w.kind with
    | monitor => exact hleft rfl i w hw hk
    | catalog => exact hcatalog i w hw hk
  | slotless =>
    -- without a slot there is no worker to wait for
    refine ⟨hown, hm, fun i w hw => ?_⟩
    have howned := (hm.inv.owned i w hw).1
    rw [hm.current] at howned
    cases howned
  | unstopped e =>
    obtain ⟨hown', hm'⟩ := Frame.standing (frame_park _ m) hm
    exact ⟨hown', hm'.inv, hm'.rest⟩
  | @pause old spec candidate a _ =>
    obtain ⟨hb, hidle⟩ := hm
    have hI := (hb.inv.exchange (m.commitPaused old) hb.gate hidle rfl rfl).1
    exact ⟨⟨hI, rfl⟩, hI, fun hp => absurd (hp.symm.trans (hb.fresh nofun)) nofun⟩
  | @publish old spec candidate a _ =>
    obtain ⟨hb, hidle⟩ := hm
    obtain ⟨hI, hidle'⟩ := hb.inv.exchange (m.publish candidate spec a) hb.gate hidle rfl rfl
    exact ⟨⟨hI, rfl⟩, hI, hb.gate, hb.fresh nofun, hidle'⟩
  | unpublished _ => exact ⟨hown, hm.1, fun hp => absurd (hp.symm.trans hm.2.2.1) nofun⟩
  | start hc => exact ⟨hown, ⟨hm.1, hc, hm.2.1, fun _ => hm.2.2.1⟩, hm.2.2.2⟩
  | resume hp hs =>
    obtain ⟨hslot, hidle⟩ := hm.prepared hp
    exact ⟨hown, ⟨hm.inv, hslot.symm.trans hs, hm.gate, nofun⟩, hidle⟩
  | @catalog slot resumed =>
    obtain ⟨hb, hleft⟩ := hm.1.startLifecycle hm.2
    obtain ⟨workers, lifecycle, heq⟩ := startLifecycle_eq slot m
    exact ⟨⟨hb.inv, by rw [heq]⟩, hb, hleft⟩
  | monitor =>
    have hb := hm.1.startLocalMonitor hm.2
    exact ⟨⟨hb.inv, rfl⟩, hb⟩
  | activate =>
    obtain ⟨hown', hm'⟩ := Frame.standing (frame_activate _ m) hm
    exact ⟨hown', hm'.inv, fun hp => absurd (hp.symm.trans (hm'.fresh rfl)) nofun⟩
  | reactivate =>
    obtain ⟨hown', hm'⟩ := Frame.standing (frame_reactivate _ m) hm
    exact ⟨hown', hm'.inv, hm'.gate⟩
  | @remember old =>
    obtain ⟨hb, hidle⟩ := hm
    have hI : Inv { m with maintenancePrepared := true, maintenanceSlot := old } :=
      { hb.inv with }
    exact ⟨⟨hI, rfl⟩, hI, fun _ => ⟨hb.current.symm, hidle⟩⟩
  | shut =>
    obtain ⟨hb, hidle⟩ := hm
    have hI := (hb.inv.exchange (RuntimeManager.settle .closed { m with current := none })
      hb.gate hidle rfl rfl).1
    exact ⟨⟨hI, rfl⟩, hI, hb.gate⟩
  | @forget held =>
    have hI : Inv { m with maintenancePrepared := false, maintenanceSlot := none } :=
      { hm.1 with }
    refine ⟨⟨hI, rfl⟩, ?_⟩
    cases held with
    | false => exact ⟨hI, hm.2, nofun⟩
    | true => exact ⟨hI, nofun⟩
  | verified => exact Frame.standing ⟨rfl, rfl, rfl, rfl, rfl, rfl, rfl, rfl, rfl⟩ hm
  | unlock =>
    have hI : Inv m.unlockGate := ⟨hm.1.owned, hm.1.served, nofun⟩
    exact ⟨⟨hI, rfl⟩, hI, rfl, hm.2⟩

/-- The outline of all operations. -/
def standing : Outline where
  env := answers
  other := Elsewhere
  C := Own
  At := Standing
  stable := fun _ _ _ hm h => h.kept.standing (h.inv hm.inv) hm
  next := Next.standing

end Operations

/-! ## The start -/

/-- Nobody has come yet, and nothing has been started. -/
theorem inv_installed (hw : m.workers = []) (hr : ∀ r, m.requests r = .idle) : Inv m ∧ m.Idle := by
  have hidle : m.Idle := by
    rintro i w ⟨hget, -⟩
    rw [hw] at hget
    cases hget
  refine ⟨⟨fun i w h => absurd h (hidle i w), fun r slot h => ?_, fun _ r => ?_⟩, hidle⟩
  · rw [hr r] at h
    cases h
  · rw [hr r]
    rfl

/-- **How a manager comes up**: parked without a worker, or with those of an active slot. -/
theorem newRuntimeManager_cases {spec : RuntimeSpec} {initial : Runtime} {probed : LocalAvailability}
    (h : newRuntimeManager spec initial probed = .ok m) :
    (∃ seen current slots admission, admission ≠ .active ∧
      (spec.profile ≠ .none → current = some ⟨0, initial, spec⟩ ∧
        (spec.startParked = false → probed ≠ .ready)) ∧
      m = { vacant seen with current := current, slots := slots, admission := admission }) ∨
    ∃ seen slot, slot = ⟨0, initial, spec⟩ ∧ spec.profile ≠ .none ∧ spec.startParked = false ∧
      (slot.local = true → seen = .ready) ∧ ∃ started, started = { vacant seen with
          current := some slot, slots := 1, admission := .active }.startLifecycle slot ∧
        m = if slot.local then started.startLocalMonitor slot else started := by
  unfold newRuntimeManager at h
  split at h
  · cases h
  rename_i spec' hnormal
  obtain rfl := RuntimeSpec.normalized_eq hnormal
  simp only at h
  generalize hseen : (if (isLocalRuntimeProfile spec'.profile && !spec'.startParked) = true
    then probed else LocalAvailability.unknown) = seen at h
  split_ifs at h with hbad hnone hhandled hparked hlost hlocal
  · cases h
    exact .inl ⟨seen, some _, 1, .paused, nofun, fun hp => absurd hnone hp, rfl⟩
  · cases h
    exact .inl ⟨seen, none, 0, .paused, nofun, fun hp => absurd hnone hp, rfl⟩
  · cases h
    exact .inl ⟨seen, some _, 1, .paused, nofun,
      fun _ => ⟨rfl, fun hp => absurd hparked (by simp [hp])⟩, rfl⟩
  · cases h
    exact .inl ⟨seen, some _, 1, .localUnavailable, nofun,
      fun _ => ⟨rfl, fun _ hp => by simp [hp] at hlost⟩, rfl⟩
  all_goals
    cases h
    refine .inr ⟨seen, _, rfl, hnone, by simpa using hparked, fun hslot => ?_, _, rfl, ?_⟩
  · have hslot' : isLocalRuntimeProfile spec'.profile = true := hslot
    rw [← hseen, if_pos (by simp [hslot', hparked])]
    by_contra hne
    exact hlost (by simp [hslot', hne])
  · rw [if_pos hlocal]
  · exact absurd hslot hlocal
  · rw [if_neg hlocal]

theorem between_new {spec : RuntimeSpec} {initial : Runtime} {probed : LocalAvailability}
    (h : newRuntimeManager spec initial probed = .ok m) : Between m ∧ m.parentCancelled = false := by
  rcases newRuntimeManager_cases h with ⟨seen, _, _, _, -, -, rfl⟩ |
    ⟨seen, slot, -, -, -, -, started, hstarted, rfl⟩
  · exact ⟨⟨(inv_installed rfl fun _ => rfl).1, rfl, nofun⟩, rfl⟩
  have hinstalled := inv_installed (m := { vacant seen with
    current := some slot, slots := 1, admission := .active }) rfl fun _ => rfl
  have hloose : Loose slot true _ := ⟨hinstalled.1, rfl, rfl, nofun⟩
  obtain ⟨hb, hleft⟩ := hloose.startLifecycle hinstalled.2
  obtain ⟨workers, lifecycle, heq⟩ := startLifecycle_eq slot { vacant seen with
    current := some slot, slots := 1, admission := .active }
  rw [heq] at hstarted hb hleft
  subst hstarted
  split_ifs
  · exact ⟨⟨(hb.startLocalMonitor hleft).inv, rfl, nofun⟩, rfl⟩
  · exact ⟨⟨hb.inv, rfl, nofun⟩, rfl⟩

/-! ## Every interleaving -/

theorem inv_reached {spec : RuntimeSpec} {initial : Runtime} {probed : LocalAvailability}
    {allowed : Call → RuntimeManager → Prop}
    {c : Config RuntimeManager Query Query.Answer (Except Err Unit)}
    (hnew : newRuntimeManager spec initial probed = .ok m)
    (h : machine.Leads Call.prog allowed ⟨none, m⟩ c) :
    Inv c.store ∧ c.Kept machine Own Between := by
  have hstable : machine.Stable Inv := fun _ _ hI h => Elsewhere.inv h hI
  refine Machine.reachable_inv hstable (standing.stable (.ended (.ok ()))) (fun _ _ h => h.1)
    (fun call s _ hs => standing.call call s hs) ?_ ?_ h
  · exact (between_new hnew).1.inv
  · exact (between_new hnew).1

/-- A request begins to run: it was inside the gate, and looked again. -/
theorem Elsewhere.admitted (h : Elsewhere m m') (hbefore : (m.requests r).runsOn = none)
    (hafter : (m'.requests r).runsOn = some slot) :
    m.requests r = .entered slot ∧ m.admission = .active ∧ m.current = some slot := by
  -- nobody but the request itself moves it
  have hsame : m'.requests = m.requests → False := by
    intro heq
    rw [heq, hbefore] at hafter
    cases hafter
  have hmoved : ∀ {r' : Nat} {q : Request}, m'.requests = update m.requests r' q →
      r = r' ∧ q.runsOn = some slot := by
    intro r' q heq
    rw [heq] at hafter
    by_cases hr : r = r'
    · subst hr
      rw [update_self] at hafter
      exact ⟨rfl, hafter⟩
    · rw [Function.update_of_ne hr, hbefore] at hafter
      cases hafter
  cases h with
  | choose r' slot' _ _ _ => cases (hmoved rfl).2
  | enter r' slot' _ _ => cases (hmoved rfl).2
  | proceed r' slot' hentered hactive hcurrent =>
    obtain ⟨rfl, hq⟩ := hmoved rfl
    cases hq
    exact ⟨hentered, hactive, hcurrent⟩
  | retry r' slot' _ _ => cases (hmoved rfl).2
  | track r' slot' hserving =>
    obtain ⟨rfl, -⟩ := hmoved rfl
    rw [hserving] at hbefore
    cases hbefore
  | leave r' => cases (hmoved rfl).2
  | observe availability => exact (hsame (frame_observe availability m).requests).elim
  | monitor i w availability _ _ _ =>
    exact (hsame (frame_observeForSlot w.slot availability m).requests).elim
  | finish i => exact (hsame rfl).elim
  | cancel i => exact (hsame (frame_cancelHandle (some i) m).requests).elim

/-- **Replacing a slot is exclusive.**  In every configuration of every run: no two catalog workers
    run; the workers of a slot that is not current have finished, so those of a retired slot have
    before the next one's start; a request runs only on the current slot; and it begins to run only
    while that slot is current, the admission is active and the gate is open. -/
theorem replacement_exclusive {spec : RuntimeSpec} {initial : Runtime} {probed : LocalAvailability}
    {m : RuntimeManager} {c : Config RuntimeManager Query Query.Answer (Except Err Unit)}
    (hnew : newRuntimeManager spec initial probed = .ok m)
    (h : machine.Leads Call.prog (fun _ _ => True) ⟨none, m⟩ c) :
    (∀ i j v w, c.store.Runs i v → c.store.Runs j w → v.kind = .catalog → w.kind = .catalog →
      i = j) ∧
    (∀ (i : Nat) (w : Worker), c.store.workers[i]? = some w → c.store.current ≠ some w.slot →
      w.running = false) ∧
    (∀ r slot, (c.store.requests r).runsOn = some slot → c.store.current = some slot) ∧
    ∀ c', machine.Step Call.prog (fun _ _ => True) c c' → ∀ r slot,
      (c.store.requests r).runsOn = none → (c'.store.requests r).runsOn = some slot →
      c.store.current = some slot ∧ c.store.admission = .active ∧ c.store.gateHeld = false := by
  obtain ⟨hI, hkept⟩ := inv_reached hnew h
  refine ⟨fun i j v w hv hw hkv hkw => ?_, fun i w hw hretired => ?_, hI.served,
    fun c' hstep r slot hbefore hafter => ?_⟩
  · obtain ⟨hcv, hhv⟩ := hI.owned i v hv
    obtain ⟨hcw, hhw⟩ := hI.owned j w hw
    -- both are the catalog of the current slot, which has one handle for it
    have hslot : v.slot = w.slot := Option.some.inj (hcv.symm.trans hcw)
    rw [hkv, hslot] at hhv
    rw [hkw] at hhw
    exact Option.some.inj (hhv.symm.trans hhw)
  · cases hrun : w.running with
    | false => rfl
    | true => exact absurd (hI.owned i w ⟨hw, hrun⟩).1 hretired
  · rcases hkept.step_cases hstep with hother | hsame | hown
    · obtain ⟨hentered, hactive, hcurrent⟩ := Elsewhere.admitted hother hbefore hafter
      refine ⟨hcurrent, hactive, hI.gate_open (r := r) ?_⟩
      rw [hentered]
      rfl
    · rw [hsame, hbefore] at hafter
      cases hafter
    · rw [hown.2, hbefore] at hafter
      cases hafter

namespace Sample

def runtime : Runtime := ⟨true, true, true⟩

def external : RuntimeSpec := ⟨.external, false, false, false⟩

def localOpenCodex : RuntimeSpec := ⟨.localOpenCodex, false, true, false⟩

/-- A relay that has just started with an external runtime. -/
def manager : RuntimeManager :=
  { vacant .unknown with
    current := some ⟨0, runtime, external⟩
    slots := 1
    admission := .active
    workers := [⟨.catalog, ⟨0, runtime, external⟩, false, true⟩]
    lifecycle := update (fun _ => none) 0 (some 0) }

/-- Everything goes well. -/
def obliging : (q : Query) → RuntimeManager → q.Answer
  | .probe, _ => LocalAvailability.ready
  | .factory, _ => some runtime
  | .lockGate, _ => true
  | .quiesce, _ => true
  | .done _, _ => true

end Sample

open Sample

/-- A `done` channel is closed if its worker, if there is one, has returned. -/
theorem answers_done {handle : Option Nat}
    (h : ((handle.bind fun i => m.workers[i]?).all fun w => !w.running) = true) :
    answers (.done handle) m true := by
  rintro - i w rfl hw
  simpa [hw] using h

/-- The catalog of the first slot returns while the second is being applied; then the second slot is
    current, and its two workers are the only ones that run. -/
theorem replacement_exclusive_applied :
    newRuntimeManager external runtime .unknown = .ok manager ∧
    ∃ c, machine.Leads Call.prog (fun _ _ => True) ⟨none, manager⟩ c ∧
      c.store.current = some ⟨1, runtime, localOpenCodex⟩ ∧
      c.store.admission = .active ∧
      (c.store.workers.map Worker.running) = [false, true, true] ∧
      (∀ (i : Nat) (w : Worker), c.store.workers[i]? = some w → c.store.current ≠ some w.slot →
        w.running = false) := by
  have hnew : newRuntimeManager external runtime .unknown = .ok manager := rfl
  have hrun : machine.Leads Call.prog (fun _ _ => True) ⟨none, manager⟩
      (Config.advance machine obliging 40 ⟨some (Call.apply localOpenCodex).prog,
        { manager with workers := manager.workers.modify 0 fun w =>
          { w with running := false } }⟩) := by
    refine .head (.start (.apply localOpenCodex) trivial) ?_
    refine .head (.other (.finish _ 0)) (Machine.leads_advance 40 _ ?_)
    refine And.intro trivial (And.intro trivial (And.intro (fun _ _ => rfl) ?_))
    refine And.intro (fun _ _ _ => nofun) ?_
    exact And.intro (answers_done rfl) (And.intro (answers_done rfl) trivial)
  exact ⟨hnew, _, hrun, rfl, rfl, rfl, (replacement_exclusive hnew hrun).2.1⟩

end OpenCodexRelay.Proxy
