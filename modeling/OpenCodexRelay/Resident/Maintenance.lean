/-
  The maintenance coordinator on top of the runtime manager.

  The coordinator keeps the durable half of a maintenance, the manager the half in memory; the relay
  process connects them: the coordinator's `runtime.Prepare`, `runtime.Verify` and `runtime.Resume`
  ARE the manager's three maintenance operations.

  1. `runtimeHandler` is that connection, `relayMachine` the composition.
  2. `prepare_granted`, `verify_granted`, `resume_granted`: what the manager does when its requests
     drain and the backend is ready.
  3. `finish_granted`: from any position of the transaction, and any manager that can be prepared,
     `Commit` and `Rollback` go through; `finish_refused`: a manager that cannot be prepared refuses
     them, whatever else goes well.
  4. `pending_maintenance_finishes_iff`: in every reachable state the second is decided by the
     admission, and `maintenance_never_finishes` reaches a state where it says no.
-/
import OpenCodexRelay.Composition
import OpenCodexRelay.Proxy.Readiness
import OpenCodexRelay.Routing.MaintenanceProgress

namespace OpenCodexRelay.Resident

open Durable Proxy
open Machine (keeps_serve_bind pair pair_drifts triple_bind triple_read triple_ret)
open Routing (Continuable ControlOperation Disk Intent MaintenanceCoordinator MaintenanceJournal Plain State anyReply)
open Routing.Sample (appleActive configPath maintainer state underMaintenance upgrade upgradeWitness)
open Sample (apple appleManager)

/-! ## When the manager is given what it asks for -/

/-- The answer one hopes for: the requests drain, the workers end, the backend is ready. -/
def Favourable : (q : Proxy.Query) → q.Answer → Prop
  | .probe, a => a = LocalAvailability.ready
  | .factory, _ => True
  | .lockGate, a => a = true
  | .quiesce, a => a = true
  | .done _, a => a = true

def granted : Env RuntimeManager Proxy.Query Proxy.Query.Answer := fun q _ a => Favourable q a

/-- A step of somebody else, which is not the report of a loss. -/
def Calm (m m' : RuntimeManager) : Prop :=
  Elsewhere m m' ∧ ∀ availability, availability ≠ .ready →
    m' ≠ m.observeLocalAvailability availability

/-- An assertion that survives whatever the others do. -/
abbrev Lasting (P : View → Prop) : Prop := (machineFor granted Calm).Stable (Shown P)

abbrev Granted {α : Type} (P : View → Prop) (p : Proxy.Op α) (post : α → RuntimeManager → Prop) :
    Prop :=
  (machineFor granted Calm).Triple (fun _ _ => True) (Shown P) p post

variable {m : RuntimeManager} {P R : View → Prop} {slot : Slot} {α : Type} {j : MaintenanceJournal}
variable {s : State} {d : Disk} {c : MaintenanceCoordinator}

theorem Calm.view {m' : RuntimeManager} (h : Calm m m') : m'.view = m.view ∨
    ∃ availability, availability = .ready ∧ m' = m.observeLocalAvailability availability := by
  rcases h.1.view with hsame | ⟨availability, rfl⟩
  · exact .inl hsame
  · refine .inr ⟨availability, ?_, rfl⟩
    by_contra hloss
    exact h.2 availability hloss rfl

theorem lasting_of (h : ∀ v, P v → P (v.observe .ready)) : Lasting P := by
  refine stable_of_observations (fun _ availability => availability = .ready) (fun _ _ => Calm.view)
    fun v availability hv ha => ?_
  rw [ha]
  exact h v hv

/-- A `ready` changes no admission. -/
theorem observe_ready_admission (v : View) : (v.observe .ready).admission = v.admission := by
  unfold View.observe
  simp

/-- A precondition that does not depend on the manager. -/
theorem granted_given {φ : Prop} {p : Proxy.Op α} {post : α → RuntimeManager → Prop}
    (h : φ → Granted P p post) :
    (machineFor granted Calm).Triple (fun _ _ => True) (fun m => φ ∧ Shown P m) p post :=
  fun m hm => h hm.1 m hm.2

theorem stable_given (hP : Lasting P) (φ : Prop) :
    (machineFor granted Calm).Stable fun m => φ ∧ Shown P m :=
  fun m m' hm hstep => ⟨hm.1, hP m m' hm.2 hstep⟩

theorem modify_granted (hP : Lasting P) (hR : Lasting R) {f : RuntimeManager → RuntimeManager}
    (h : ∀ m, Shown P m → Shown R (f m)) : Granted P (modify f) (fun _ => Shown R) :=
  Machine.triple_modify hP hR fun m hm => ⟨trivial, h m hm⟩

theorem cancelWorkers_granted (hP : Lasting P) (old : Option Slot) :
    Granted P (modify (RuntimeManager.cancelWorkers old)) (fun _ => Shown P) :=
  modify_granted hP hP fun m hm => by rwa [Shown, view_cancelWorkers]

theorem ask_granted (hP : Lasting P) (q : Proxy.Query) :
    Granted P (ask q : Proxy.Op q.Answer) (fun a m => Favourable q a ∧ Shown P m) := by
  refine Machine.triple_ask hP (fun a => stable_given hP _) fun m a hm ha => ⟨trivial, ha, ?_⟩
  have hview : (answered q a m).view = m.view := by
    cases q with
    | probe | factory | quiesce | done handle => rfl
    | lockGate => cases a <;> rfl
  show P (answered q a m).view
  rw [hview]
  exact hm

theorem return_granted (hP : Lasting P) (a : α) :
    Granted P (pure a : Proxy.Op α) (fun r m => r = a ∧ Shown P m) :=
  triple_ret (stable_given hP _) fun _ hm => ⟨rfl, hm⟩

theorem startSlot_granted (hP : Lasting P) (hstart : ∀ v, P v → P v.start) :
    Granted P (startSlot slot) (fun _ => Shown P) := by
  refine triple_bind (modify_granted hP hP fun m hm => ?_) fun _ => ?_
  · rcases view_startLifecycle slot m with h | h
    · rwa [Shown, h]
    · rw [Shown, h]
      exact hstart _ hm
  · refine Machine.triple_ite (fun _ => modify_granted hP hP fun m hm => ?_) fun _ =>
      triple_ret hP fun _ hm => hm
    rw [Shown, view_startLocalMonitor]
    exact hstart _ hm

theorem stop_granted (hP : Lasting P) :
    Granted P (stop slot) (fun r m => r = true ∧ Shown P m) := by
  refine triple_bind (cancelWorkers_granted hP (some slot)) fun _ => ?_
  refine triple_read hP fun seen hseen => ?_
  refine triple_bind (ask_granted hP _) (fun finished => granted_given fun ha => ?_)
    seen hseen
  have ha' : finished = true := ha
  subst ha'
  exact ask_granted hP _

theorem quiesceAndStop_granted (hP : Lasting P) (old : Option Slot) :
    Granted P (quiesceAndStop old) (fun r m => r = true ∧ Shown P m) := by
  refine triple_bind (ask_granted hP _) fun quiet => granted_given fun ha => ?_
  have ha' : quiet = true := ha
  subst ha'
  cases old with
  | none => exact return_granted hP true
  | some slot => exact stop_granted hP

theorem drain_granted (hP : Lasting P) (old : Option Slot) :
    Granted P (drain old) (fun r m => r = .ok () ∧ Shown P m) := by
  refine triple_bind (ask_granted hP _) fun acquired => granted_given fun ha => ?_
  have ha' : acquired = true := ha
  subst ha'
  refine triple_bind (quiesceAndStop_granted hP old) fun stopped => granted_given fun hs => ?_
  subst hs
  exact return_granted hP _

/-! ## The three maintenance operations -/

/-- The manager is behind a maintenance of `slot`. -/
structure Held (slot : Slot) (v : View) : Prop where
  current : v.current = some slot
  prepared : v.prepared = true
  maintenanceSlot : v.maintenanceSlot = some slot

/-- It can be put there, or is. -/
def Preparable (slot : Slot) (v : View) : Prop :=
  Held slot v ∨ v.current = some slot ∧ v.prepared = false ∧
    (v.admission = .active ∨ v.admission = .paused)

/-- It admits requests again. -/
def Readmitted (v : View) : Prop := v.admission = .active

/-- It is not, and cannot be: what the code accepts as an origin of a maintenance it is not at. -/
structure Barred (v : View) : Prop where
  prepared : v.prepared = false
  notActive : v.admission ≠ .active
  notPaused : v.admission ≠ .paused

theorem lasting_held : Lasting (Held slot) :=
  lasting_of fun _ h => { h with }

theorem lasting_preparable : Lasting (Preparable slot) := by
  refine lasting_of fun v h => ?_
  rcases h with h | ⟨hc, hp, ha⟩
  · exact .inl { h with }
  · exact .inr ⟨hc, hp, by rw [observe_ready_admission]; exact ha⟩

theorem lasting_readmitted : Lasting Readmitted :=
  lasting_of fun v h => (observe_ready_admission v).trans h

theorem lasting_barred : Lasting Barred :=
  lasting_of fun v h => ⟨h.prepared, by rw [observe_ready_admission]; exact h.notActive,
    by rw [observe_ready_admission]; exact h.notPaused⟩

theorem lasting_current : Lasting fun v => v.current = some slot := lasting_of fun _ h => h

theorem prepare_granted (happle : slot.spec.profile = .localAppleContainer) :
    Granted (Preparable slot) prepareMaintenance (fun r m => r = .ok () ∧ Shown (Held slot) m) := by
  refine triple_read lasting_preparable fun m hm => ?_
  rcases hm with hheld | ⟨hc, hp, ha⟩
  · rw [if_pos (show m.maintenancePrepared = true from hheld.prepared)]
    exact return_granted lasting_held _ m hheld
  · have hcurrent : m.current = some slot := hc
    have heligible : eligible m = true := by
      have ha' : m.admission = .active ∨ m.admission = .paused := ha
      simp [eligible, hcurrent, happle, ha']
    rw [if_neg (show ¬ m.maintenancePrepared = true by rw [show m.maintenancePrepared = false from hp]; nofun),
      if_neg (by simp [heligible])]
    -- the slot stays current while its workers are told to end and waited for
    have hstart : Granted (fun v => v.current = some slot) (modify RuntimeManager.beginTransition)
        (fun _ => Shown fun v => v.current = some slot) :=
      modify_granted lasting_current lasting_current fun _ hm' => hm'
    refine triple_bind hstart (fun _ => ?_) m hc
    refine triple_bind (cancelWorkers_granted lasting_current m.current) fun _ => ?_
    refine triple_bind (drain_granted lasting_current m.current) fun r => granted_given fun hr => ?_
    subst hr
    have hremember : Granted (fun v => v.current = some slot)
        (modify fun m' => { m' with maintenancePrepared := true, maintenanceSlot := m.current })
        (fun _ => Shown (Held slot)) :=
      modify_granted lasting_current lasting_held fun _ hm' => ⟨hm', rfl, hcurrent⟩
    refine triple_bind hremember fun _ => ?_
    exact triple_bind (modify_granted lasting_held lasting_held fun _ h => h)
      fun _ => return_granted lasting_held _

theorem prepare_barred :
    Granted Barred prepareMaintenance (fun r m => r = .error .runtimeMaintenanceState ∧ Shown Barred m) := by
  refine triple_read lasting_barred fun m hm => ?_
  have hineligible : eligible m = false := by
    have h1 : m.admission ≠ .active := hm.notActive
    have h2 : m.admission ≠ .paused := hm.notPaused
    simp [eligible, h1, h2]
  rw [if_neg (show ¬ m.maintenancePrepared = true by
      rw [show m.maintenancePrepared = false from hm.prepared]; nofun), if_pos (by simp [hineligible])]
  exact return_granted lasting_barred _ m hm

theorem verify_granted (happle : slot.spec.profile = .localAppleContainer) :
    Granted (Held slot) verifyMaintenance (fun r m => r = .ok () ∧ Shown (Held slot) m) := by
  refine triple_read lasting_held fun m hm => ?_
  have hp : m.maintenancePrepared = true := hm.prepared
  have hs : m.maintenanceSlot = some slot := hm.maintenanceSlot
  rw [if_neg (by simp [hp, hs, happle])]
  refine triple_bind (ask_granted lasting_held _) (fun a => granted_given fun ha => ?_) m hm
  have ha' : a = LocalAvailability.ready := ha
  subst ha'
  have hrecord : Granted (Held slot) (modify (RuntimeManager.verified .ready))
      (fun _ => Shown (Held slot)) :=
    modify_granted lasting_held lasting_held fun _ h => { h with }
  exact triple_bind hrecord fun _ => return_granted lasting_held _

theorem resume_granted :
    Granted (Held slot) resumeMaintenance (fun r m => r = .ok () ∧ Shown Readmitted m) := by
  refine triple_read lasting_held fun m hm => ?_
  have hp : m.maintenancePrepared = true := hm.prepared
  have hs : m.maintenanceSlot = some slot := hm.maintenanceSlot
  rw [hp, hs]
  have hstart : Granted (Held slot) (startSlot slot) (fun _ => Shown (Held slot)) :=
    startSlot_granted lasting_held fun _ h => { h with }
  refine triple_bind hstart (fun _ => ?_) m hm
  have hreactivate : Granted (Held slot) (modify (RuntimeManager.reactivate slot))
      (fun _ => Shown Readmitted) := by
    refine modify_granted lasting_held lasting_readmitted fun m' hm' => ?_
    rw [Shown, view_reactivate]
    unfold View.reactivate
    rw [if_pos hm'.current]
    rfl
  refine triple_bind hreactivate fun _ => ?_
  have hforget : Granted Readmitted
      (modify fun m => { m with maintenancePrepared := false, maintenanceSlot := none })
      (fun _ => Shown Readmitted) :=
    modify_granted lasting_readmitted lasting_readmitted fun _ h => h
  exact triple_bind hforget fun _ => return_granted lasting_readmitted _

/-! ## The composition -/

/-- The coordinator's runtime is the manager. -/
def runtimeHandler : Routing.Query → Option (Proxy.Op Bool)
  | .runtimePrepare => some do pure (← prepareMaintenance).isOk
  | .runtimeVerify _ => some do pure (← verifyMaintenance).isOk
  | .runtimeResume => some do pure (← resumeMaintenance).isOk
  | _ => none

/-- The two together, when nothing they ask for is refused. -/
def relayMachine : Machine (Disk × RuntimeManager) (Routing.Query ⊕ Proxy.Query)
    (PairAnswer (fun _ => Bool) Proxy.Query.Answer) :=
  pair Routing.everythingSucceeds (machineFor granted Calm)

/-- **The maintenance can be finished**: from here the operation succeeds, removes the journal and
    leaves an active admission, provided the requests drain and the backend is ready. -/
def Finishes (c : MaintenanceCoordinator) (operation : ControlOperation)
    (w : Routing.MaintenanceWitness) (d : Disk) (m : RuntimeManager) : Prop :=
  relayMachine.Keeps (fun _ _ => True) ((c.finish operation w).serve runtimeHandler)
    (fun r x => r = .ok () ∧ x.1.maintenance = .absent ∧ x.2.admission = .active) (d, m)

section Composition

variable {operation : ControlOperation}

/-- The manager serves none of the questions of a plain part. -/
theorem plain_unserved (q : Routing.Query) (d : Disk)
    (h : Plain c.store (.asked q d)) : runtimeHandler q = none := by
  cases q with
  | runtimePrepare | runtimeVerify | runtimeResume => exact h.elim
  | _ => rfl

/-- A question to the manager whose answer is known. -/
theorem keeps_operation {op : Proxy.Op (Except Proxy.Err Unit)} {q : Routing.Query}
    {result : Except Proxy.Err Unit} {k : Bool → Routing.Op α}
    {post : α → Disk × RuntimeManager → Prop} (hq : runtimeHandler q = some do pure (← op).isOk)
    (hop : Granted P op (fun r m => r = result ∧ Shown R m)) (hR : Lasting R) (hm : P m.view)
    (hk : ∀ m', R m'.view → relayMachine.Keeps (fun _ _ => True) ((k result.isOk).serve runtimeHandler) post (d, m')) :
    relayMachine.Keeps (fun _ _ => True) ((Prog.call q k).serve runtimeHandler) post (d, m) := by
  have hserved : Granted P (do pure (← op).isOk : Proxy.Op Bool)
      (fun a m => a = result.isOk ∧ Shown R m) := by
    refine triple_bind hop fun r => granted_given fun hr => ?_
    subst hr
    exact return_granted hR _
  refine Machine.keeps_asked hq (hserved m hm) ?_
  rintro a m' ⟨rfl, hm'⟩
  exact hk m' hm'

/-- An error check after such a question. -/
theorem keeps_required {op : Proxy.Op (Except Proxy.Err Unit)} {q : Routing.Query} {e : Routing.Err}
    {fail : Routing.Err → Routing.Op α} {k : Unit → Routing.Op α}
    {post : α → Disk × RuntimeManager → Prop} (hq : runtimeHandler q = some do pure (← op).isOk)
    (hop : Granted P op (fun r m => r = .ok () ∧ Shown R m)) (hR : Lasting R) (hm : P m.view)
    (hk : ∀ m', R m'.view → relayMachine.Keeps (fun _ _ => True) ((k ()).serve runtimeHandler) post (d, m')) :
    relayMachine.Keeps (fun _ _ => True)
      ((guarded (Routing.require q e) fail k).serve runtimeHandler) post (d, m) :=
  keeps_operation hq hop hR hm hk

/-- **From a manager that can be prepared**, the second half of a maintenance goes through. -/
theorem finishFrom_granted (happle : slot.spec.profile = .localAppleContainer)
    (h : Continuable c.store j s d) (hm : Preparable slot m.view) :
    relayMachine.Keeps (fun _ _ => True)
      ((c.finishFrom operation j.witness s).serve runtimeHandler)
      (fun r x => r = .ok () ∧ x.1.maintenance = .absent ∧ x.2.admission = .active) (d, m) := by
  refine keeps_serve_bind (Routing.enterMaintenance_succeeds h) plain_unserved
    lasting_preparable hm ?_
  rintro r d1 m1 ⟨s1, rfl, h₁, hlater⟩ hm1
  refine keeps_required rfl (prepare_granted happle) lasting_held hm1 fun m2 hm2 => ?_
  refine keeps_required rfl (verify_granted happle) lasting_held hm2 fun m3 hm3 => ?_
  refine keeps_serve_bind (Routing.saveFinal_succeeds h₁ hlater) plain_unserved
    lasting_held hm3 ?_
  rintro r d2 m4 ⟨rfl, h₂⟩ hm4
  refine keeps_serve_bind (Routing.removeMaintenance_succeeds h₂) plain_unserved
    lasting_held hm4 ?_
  rintro r d3 m5 ⟨rfl, habsent⟩ hm5
  refine keeps_operation rfl resume_granted lasting_readmitted hm5 fun m6 hm6 => ?_
  intro x hx
  obtain ⟨h1, h2⟩ := pair_drifts hx
  have hend := Machine.Stable.drifts lasting_readmitted hm6 h2
  exact ⟨rfl, by rw [h1]; exact habsent, hend⟩

/-- **A manager that cannot be prepared** refuses, and `finish` reports it. -/
theorem finishFrom_refused (h : Continuable c.store j s d) (hm : Barred m.view) :
    relayMachine.Keeps (fun _ _ => True)
      ((c.finishFrom operation j.witness s).serve runtimeHandler)
      (fun r _ => r = .error .maintenanceRecoveryRequired) (d, m) := by
  refine keeps_serve_bind (Routing.enterMaintenance_succeeds h) plain_unserved
    lasting_barred hm ?_
  rintro r d1 m1 ⟨s1, rfl, h1, -⟩ hm1
  exact keeps_operation rfl prepare_barred lasting_barred hm1 fun m2 _ => fun _ _ => rfl

/-- The checks of `finish` find the transaction as it is. -/
theorem finish_keeps {post : Except Routing.Err Unit → Disk × RuntimeManager → Prop}
    (h : Routing.InMaintenance c.store j s d) (hP : Lasting P) (hm : P m.view)
    (hk : ∀ m', P m'.view → relayMachine.Keeps (fun _ _ => True) ((c.finishFrom operation j.witness s).serve runtimeHandler) post (d, m')) :
    relayMachine.Keeps (fun _ _ => True) ((c.finish operation j.witness).serve runtimeHandler)
      post (d, m) := by
  unfold Routing.MaintenanceCoordinator.finish
  rw [if_neg (by simp [h.witness_valid])]
  rintro ⟨d', m'⟩ hx
  obtain ⟨hd, hdrift⟩ := pair_drifts hx
  have hd' : d' = d := hd
  subst hd'
  have hm' := Machine.Stable.drifts hP hm hdrift
  simp only [h.load, h.read, h.position, ne_eq, not_true_eq_false, if_false, Bool.not_true,
    Bool.false_eq_true]
  exact hk m' hm'

end Composition

/-! ## Reachable states -/

/-- The manager, and what is left of the operation that holds its lock. -/
abbrev ManagerConfig := Config RuntimeManager Proxy.Query Proxy.Query.Answer (Except Proxy.Err Unit)

/-- **A step of the relay.** A request of the coordinator that dies or ends anywhere, a step of the
    manager — whoever calls it — or of those around it, and a new process. -/
inductive RelayStep (c : MaintenanceCoordinator) :
    Disk × ManagerConfig → Disk × ManagerConfig → Prop where
  | coordinator {d d' x} (h : c.maintenanceSystem.Step d d') : RelayStep c (d, x) (d', x)
  | manager {d x x'} (h : machine.Step Call.prog (fun _ _ => True) x x') : RelayStep c (d, x) (d, x')
  | restart {d x m} (spec : RuntimeSpec) (initial : Runtime) (probed : LocalAvailability)
      (h : newRuntimeManager spec initial probed = .ok m) : RelayStep c (d, x) (d, ⟨none, m⟩)

def RelayReachable (c : MaintenanceCoordinator) :
    Disk × ManagerConfig → Disk × ManagerConfig → Prop :=
  Relation.ReflTransGen (RelayStep c)

/-- What holds in every state of the relay. -/
structure RelayInv (c : MaintenanceCoordinator) (x : Disk × ManagerConfig) : Prop where
  tracked : Routing.Tracked c.store x.1
  marker : x.1.marker ≠ .malformed
  manager : x.2.Kept machine (fun _ m => Inv m) Between

section Reachable

variable {x y : Disk × ManagerConfig}

theorem marker_reachable {d' : Disk} (h0 : d.marker ≠ .malformed)
    (h : c.maintenanceSystem.Reachable d d') : d'.marker ≠ .malformed := by
  refine System.reachable_inv (I := fun d => d.marker ≠ .malformed) _ h0
    (fun r d d' _ hd hstop => ?_) (fun _ _ _ (hno : False) => hno.elim) h
  have hsafe : Safe anyReply Routing.MarkerKept (r.prog c) (fun _ _ => True) d :=
    (Routing.request_marker r).safe d
  exact stops_of_safe (I := fun d : Disk => d.marker ≠ .malformed) hsafe
    (fun _ _ hkept hd => hkept hd) hd hstop

theorem RelayInv.step (h : RelayInv c x) (hstep : RelayStep c x y) : RelayInv c y := by
  cases hstep with
  | coordinator hd =>
    exact ⟨Routing.tracked_reachable h.tracked (.single hd), marker_reachable h.marker (.single hd),
      h.manager⟩
  | manager hm =>
    exact ⟨h.tracked, h.marker, h.manager.step (standing.stable (.ended (.ok ())))
      (fun call m _ hb => (standing.call call m hb).mono (fun _ _ h => h.1) fun _ _ h => h) hm⟩
  | restart spec initial probed hnew => exact ⟨h.tracked, h.marker, (between_new hnew).1⟩

theorem relayInv_reachable (h0 : RelayInv c x) (h : RelayReachable c x y) : RelayInv c y := by
  induction h with
  | refl => exact h0
  | tail _ hstep ih => exact ih.step hstep

end Reachable

/-- Answers that meet every hope. -/
def favourable : (q : Routing.Query ⊕ Proxy.Query) → Disk × RuntimeManager →
    PairAnswer (fun _ => Bool) Proxy.Query.Answer q
  | .inl _, _ => true
  | .inr q, x => Sample.obliging q x.2

theorem favourable_possible (q : Routing.Query ⊕ Proxy.Query) (x : Disk × RuntimeManager) :
    relayMachine.env q x (favourable q x) := by
  cases q with
  | inl q => exact rfl
  | inr q =>
    cases q with
    | probe | lockGate | quiesce | done => exact rfl
    | factory => exact trivial

theorem finishes_of_preparable (happle : slot.spec.profile = .localAppleContainer)
    (h : Continuable c.store j s d) (hm : Preparable slot m.view) (operation : ControlOperation) :
    Finishes c operation j.witness d m :=
  finish_keeps h.opened lasting_preparable hm fun _ hm' => finishFrom_granted happle h hm'

theorem not_finishes_of_barred (h : Continuable c.store j s d) (hm : Barred m.view)
    (operation : ControlOperation) :
    ¬ Finishes c operation j.witness d m := by
  intro hfinishes
  have hrefused : relayMachine.Keeps (fun _ _ => True)
      ((c.finish operation j.witness).serve runtimeHandler)
      (fun r _ => r = .error .maintenanceRecoveryRequired) (d, m) :=
    finish_keeps h.opened lasting_barred hm fun _ hm' => finishFrom_refused h hm'
  obtain ⟨r, x, ⟨hok, -⟩, herr⟩ := hfinishes.meet favourable favourable_possible hrefused
  rw [hok] at herr
  cases herr

/-- **A pending maintenance can be finished exactly when the manager can be prepared.**  The journal
    is pending and the resident slot is the Apple one, after any history of requests, crashes, calls,
    observations and restarts: then `Commit` and `Rollback` with the recorded witness go through, with
    the journal removed and the admission active, if and only if the maintenance is still prepared
    or the admission is active or paused. -/
theorem pending_maintenance_finishes_iff (c : MaintenanceCoordinator)
    {d₀ d : Disk} {s₀ : State} {spec : RuntimeSpec} {initial : Runtime}
    {probed : LocalAvailability} {m₀ m : RuntimeManager} {j : MaintenanceJournal}
    (hstart : c.store.read d₀ = .ok (s₀, false)) (hstable : Routing.stableAppleState s₀ = true)
    (hnone : d₀.maintenance = .absent) (hmarker : d₀.marker ≠ .malformed)
    (hnew : newRuntimeManager spec initial probed = .ok m₀)
    (h : RelayReachable c (d₀, ⟨none, m₀⟩) (d, ⟨none, m⟩))
    (hpending : c.store.loadMaintenance d = .ok (some j))
    (happle : m.current.any (fun slot => slot.spec.profile = .localAppleContainer) = true) :
    (Finishes c .maintenanceCommit j.witness d m ∧ Finishes c .maintenanceRollback j.witness d m) ↔
      (m.maintenancePrepared = true ∨ m.admission = .active ∨ m.admission = .paused) := by
  have hinv0 : RelayInv c (d₀, ⟨none, m₀⟩) :=
    ⟨Routing.Idle.tracked ⟨hstart, hnone, hstable⟩, hmarker, (between_new hnew).1⟩
  have hinv : RelayInv c (d, ⟨none, m⟩) := relayInv_reachable hinv0 h
  have hbetween : Between m := hinv.manager
  obtain ⟨slot, hcurrent, hslot⟩ : ∃ slot, m.current = some slot ∧
      slot.spec.profile = .localAppleContainer := by
    simpa [Option.any_eq_true] using happle
  obtain ⟨s, hs⟩ : ∃ s, Continuable c.store j s d := by
    obtain ⟨s, hidle | ⟨j', hj'⟩⟩ := hinv.tracked
    · rw [Routing.Store.loadMaintenance, hidle.journal] at hpending
      cases hpending
    · rw [hj'.load] at hpending
      cases hpending
      exact ⟨s, hj', hinv.marker⟩
  constructor
  · intro hfinishes
    by_contra hnot
    simp only [not_or, Bool.not_eq_true] at hnot
    exact not_finishes_of_barred hs ⟨hnot.1, hnot.2.1, hnot.2.2⟩ _ hfinishes.1
  · intro hready
    have hpreparable : Preparable slot m.view := by
      by_cases hp : m.maintenancePrepared = true
      · exact .inl ⟨hcurrent, hp, (hbetween.prepared hp).1.trans hcurrent⟩
      · have hfree : m.maintenancePrepared = false := by simpa using hp
        exact .inr ⟨hcurrent, hfree, hready.resolve_left hp⟩
    exact ⟨finishes_of_preparable hslot hs hpreparable _, finishes_of_preparable hslot hs hpreparable _⟩

/-- A maintenance that died beside its journal, behind an active relay. -/
theorem pending_maintenance_finishes_active :
    RelayReachable maintainer (appleActive, ⟨none, appleManager⟩)
      (underMaintenance, ⟨none, appleManager⟩) ∧
    Finishes maintainer .maintenanceCommit upgradeWitness
      underMaintenance appleManager := by
  have hread : maintainer.store.read appleActive =
      .ok (state 5 .localAppleContainer .localAppleContainer .relayActive, false) := by
    decide +kernel
  have hreach : RelayReachable maintainer
      (appleActive, ⟨none, appleManager⟩)
      (underMaintenance, ⟨none, appleManager⟩) :=
    .single (.coordinator (.op (.prepare 5 upgrade) trivial
      (stops_halt Routing.succeed (fun _ _ => trivial) _ 2 appleActive)))
  have hpending : maintainer.store.loadMaintenance underMaintenance =
      .ok (some ⟨Routing.maintenanceSchemaVersion, configPath,
        upgradeWitness⟩) := by
    decide +kernel
  have hnew : newRuntimeManager apple Sample.runtime .ready = .ok appleManager := rfl
  exact ⟨hreach, ((pending_maintenance_finishes_iff maintainer hread (by decide) rfl
    nofun hnew hreach hpending rfl).mpr (.inr (.inl rfl))).1⟩

/-- The relay as it is, with the coordinator's preparations as its operations. -/
def residentMachine : Machine (Disk × RuntimeManager) (Routing.Query ⊕ Proxy.Query)
    (PairAnswer (fun _ => Bool) Proxy.Query.Answer) :=
  pair anyReply machine

def preparation (c : MaintenanceCoordinator) (request : UInt64 × Intent) :
    Prog (Disk × RuntimeManager) (Routing.Query ⊕ Proxy.Query)
      (PairAnswer (fun _ => Bool) Proxy.Query.Answer) (Except Routing.Err Routing.MaintenanceWitness) :=
  (c.prepare request.1 request.2).serve runtimeHandler

namespace Sample

/-- A monitor has reported the backend lost. -/
def lost : RuntimeManager := Proxy.Sample.appleManager.observeLocalAvailability .unavailable

/-- Every replacement succeeds; of the manager's questions none is answered as hoped. -/
def undrained : (q : Routing.Query ⊕ Proxy.Query) → Disk × RuntimeManager →
    PairAnswer (fun _ => Bool) Proxy.Query.Answer q
  | .inl _, _ => true
  | .inr .probe, _ => LocalAvailability.unavailable
  | .inr .factory, _ => (none : Option Runtime)
  | .inr .lockGate, _ => false
  | .inr .quiesce, _ => false
  | .inr (.done _), _ => false

/-- `Prepare` after the loss. -/
def refused := Config.advance residentMachine undrained 40
  ⟨some (preparation maintainer (5, upgrade)),
    (appleActive, lost)⟩

/-- What it leaves on disk. -/
def blocked : Disk := refused.store.1

/-- The backend is back. -/
def recovered : RuntimeManager := refused.store.2.observeLocalAvailability .ready

end Sample

open Sample

theorem undrained_possible (q : Routing.Query ⊕ Proxy.Query) (x : Disk × RuntimeManager) :
    residentMachine.env q x (undrained q x) := by
  cases q with
  | inl q => exact trivial
  | inr q =>
    cases q with
    | probe | factory => exact trivial
    | lockGate | quiesce | done => exact nofun

/-- **A maintenance that is never finished.**  The backend is lost once and comes back; in between,
    `Prepare` writes its journal and is then refused by the manager.  From there on the backend is
    ready and everything drains, and still neither `Commit` nor `Rollback` goes through. -/
theorem maintenance_never_finishes :
    ∃ d m, residentMachine.Leads (preparation maintainer) (fun _ _ => True)
        ⟨none, (appleActive, appleManager)⟩ ⟨none, (d, m)⟩ ∧
      maintainer.store.loadMaintenance d =
        .ok (some ⟨Routing.maintenanceSchemaVersion, configPath,
          upgradeWitness⟩) ∧
      m.current.any (fun slot => slot.spec.profile = .localAppleContainer) = true ∧
      ¬ Finishes maintainer .maintenanceCommit upgradeWitness d m ∧
      ¬ Finishes maintainer .maintenanceRollback upgradeWitness d m := by
  have hprepare : residentMachine.Leads (preparation maintainer) (fun _ _ => True)
      ⟨none, (appleActive, lost)⟩ ⟨none, refused.store⟩ :=
    Machine.leads_complete (5, upgrade) 40 trivial
      (Config.possible_of undrained_possible 40 _) rfl
  have hrun : residentMachine.Leads (preparation maintainer) (fun _ _ => True)
      ⟨none, (appleActive, appleManager)⟩
      ⟨none, (blocked, recovered)⟩ := by
    have hloss : residentMachine.other (appleActive, appleManager)
        (appleActive, lost) := ⟨rfl, .observe _ .unavailable⟩
    have hreturn : residentMachine.other refused.store (blocked, recovered) :=
      ⟨rfl, .observe _ .ready⟩
    exact .head (.other hloss) (hprepare.tail (.other hreturn))
  have hopen : Continuable maintainer.store
      ⟨Routing.maintenanceSchemaVersion, configPath, upgradeWitness⟩
      (state 6 .localAppleContainer .localAppleContainer .applying) blocked :=
    ⟨⟨by decide +kernel, by decide +kernel, by decide +kernel, by decide +kernel⟩, by decide +kernel⟩
  have hbarred : Barred recovered.view := ⟨rfl, by decide +kernel, by decide +kernel⟩
  exact ⟨_, _, hrun, hopen.opened.load, rfl, not_finishes_of_barred hopen hbarred _,
    not_finishes_of_barred hopen hbarred _⟩

end OpenCodexRelay.Resident
