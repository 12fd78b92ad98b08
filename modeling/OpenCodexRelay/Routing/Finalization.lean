/-
  Can the relay acknowledge what the controller waits for?

  At the end of a transaction the controller waits until the resident relay reports the final state.
  The relay reports what its watcher believes, and the watcher refuses a finished state as long as a
  journal lies next to it.  So the order of the last three steps matters:

      save final · REMOVE JOURNAL · wait     the wait can end
      save final · wait · REMOVE JOURNAL     it cannot

  1. `WaitsCleanly` says what the disk looks like at a wait of the first kind.  The walk through the
     transactions has shown all of it but the absence of witnesses, which every step keeps.
  2. `WaitsBesideJournal` is the second kind; the forward reload of the gateway is the only
     transaction that waits like this.
  3. `finalization_acknowledged_iff` puts both together with the watcher.
-/
import OpenCodexRelay.Routing.BackedCalls

namespace OpenCodexRelay.Routing

open Durable

/-! ## The transactions that wait -/

inductive Transaction where
  | apply (desktopExited : Bool)
  /-- Both the recovery of a switch and that of a gateway reload. -/
  | recover (action : RecoveryAction) (desktopExited : Bool)
  /-- The forward path of `GatewayApply` on an active External route. -/
  | gatewayReload (s : State) (candidate : Config)
  /-- Its in-line rollback. -/
  | gatewayRollback (applying : State) (origin : Config) (journal : Option TransactionJournal)
      (cause : Err)

def Transaction.body (c : Controller) : Transaction → Op (Except Err Unit)
  | .apply desktopExited => c.apply desktopExited
  | .recover action desktopExited => c.recover action desktopExited
  | .gatewayReload s candidate =>
    Except.map (fun _ => ()) <$> c.gatewayReloadWith (fun _ _ e => refuse e) s candidate
  | .gatewayRollback applying origin journal cause =>
    Except.map (fun _ => ()) <$> c.rollbackGatewayReloadLocked applying origin journal cause

/-- What `GatewayApply` has checked before it enters one of its two bodies; the other two
    transactions are entry points and check for themselves. -/
def Transaction.Admitted (c : Controller) (d : Disk) : Transaction → Prop
  | .apply _ | .recover _ _ => True
  | .gatewayReload s _ => c.maintenancePendingOrInvalid d = false ∧ s.appliedBackend = .external
  | .gatewayRollback applying _ journal _ =>
    c.maintenancePendingOrInvalid d = false ∧ applying.appliedBackend = .external ∧
      ∀ j ∈ journal, TransactionJournal.schema j = schemaVersion

def Transaction.isForwardReload : Transaction → Bool
  | .gatewayReload _ _ => true
  | _ => false

/-! ## What the disk looks like at a wait -/

/-- At each wait the final state is durable and no witness of any kind is left. -/
def WaitsCleanly (st : Store) : Observed → Prop
  | .asked (.awaitFinalized final) d =>
    st.read d = .ok (final, false) ∧ d.journal = .absent ∧ d.Unwitnessed ∧
      final.appliedBackend ≠ .localAppleContainer
  | _ => True

/-- At each wait a journal lies beside a state that is not `applying`. -/
def WaitsBesideJournal : Observed → Prop
  | .asked (.awaitFinalized final) d => d.journal ≠ .absent ∧ final.phase ≠ .applying
  | _ => True

variable {d : Disk} {c : Controller}

section Cleanly

variable {α : Type} {p : Op α} {post : α → Disk → Prop}

/-- The walk of a transaction that is to wait cleanly. -/
abbrev waiting : Aims := ⟨fun _ _ => False, False, True, False⟩

/-- Nothing on the way brings a witness back. -/
theorem waitsCleanly_of_backed (hd : d.Unwitnessed) (h : Backed c waiting none p post d) :
    Safe anyReply (WaitsCleanly c.store) p (fun _ _ => True) d := by
  have hwaits := Traced.safe (h [] (confirmed_none [])) fun _ _ hC => Conduct.waits hC trivial
  refine hwaits.invariant hd ?_ ?_ fun _ _ _ _ => trivial
  · rintro d1 d2 hu ⟨hm, hw⟩
    exact ⟨⟨hm.trans hu.maintenance, hw.trans hu.runtimeRouting⟩, trivial⟩
  · intro q d1 hu hask
    cases q with
    | awaitFinalized final => exact ⟨hask.1, hask.2.1, hu, hask.2.2⟩
    | _ => trivial

/-- Beside a witness the two entry points refuse. -/
theorem waitsCleanly_apply (desktopExited : Bool) :
    Safe anyReply (WaitsCleanly c.store) (c.apply desktopExited) (fun _ _ => True) d := by
  cases hlock : c.maintenancePendingOrInvalid d with
  | false =>
    exact waitsCleanly_of_backed (Controller.unwitnessed_of_interlock hlock)
      (apply_backed False.elim desktopExited)
  | true =>
    refine safe_if (fun _ => trivial) fun _ => safe_interlocked trivial trivial fun hclear => ?_
    rw [hlock] at hclear
    cases hclear

theorem waitsCleanly_recover (action : RecoveryAction) (desktopExited : Bool) :
    Safe anyReply (WaitsCleanly c.store) (c.recover action desktopExited) (fun _ _ => True) d := by
  cases hlock : c.maintenancePendingOrInvalid d with
  | false =>
    exact waitsCleanly_of_backed (Controller.unwitnessed_of_interlock hlock)
      (recover_backed False.elim action desktopExited False.elim)
  | true =>
    have hrefused : Safe anyReply (WaitsCleanly c.store) (c.recoverEvidence action desktopExited)
        (outcome (fun _ _ => False) fun _ _ => True) d := by
      refine safe_recoverEvidence (fun q hq => ?_) (fun _ => trivial) fun hclear => ?_
      · cases q <;> trivial
      · rw [hlock] at hclear
        cases hclear
    exact safe_attempt_ok hrefused fun _ _ h => h.elim

end Cleanly

/-- Every wait of a transaction that is not the forward reload finds a clean disk. -/
theorem Transaction.waitsCleanly {t : Transaction} (hadm : t.Admitted c d)
    (hfwd : t.isForwardReload = false) :
    Safe anyReply (WaitsCleanly c.store) (t.body c) (fun _ _ => True) d := by
  cases t with
  | apply desktopExited => exact waitsCleanly_apply desktopExited
  | recover action desktopExited => exact waitsCleanly_recover action desktopExited
  | gatewayReload s candidate => cases hfwd
  | gatewayRollback applying origin journal cause =>
    obtain ⟨hlock, hb, hj⟩ := hadm
    have hu := Controller.unwitnessed_of_interlock hlock
    show Safe anyReply _ (_ <$> _) _ d
    rw [safe_map]
    exact waitsCleanly_of_backed hu
      (rollbackReload_backed ⟨hb, hu.runtimeRouting, False.elim, False.elim⟩ hj)

/-! ## The forward reload -/

theorem besideJournal_inert : Inert WaitsBesideJournal where
  asked := fun {q} d hq => by cases q <;> trivial
  wrote := fun _ => trivial

theorem save_besideJournal (st : Store) (next : State) :
    Frames anyReply WaitsBesideJournal Disk.journal (st.save next) := by
  refine fun d => safe_save (fun _ => ⟨trivial, trivial, trivial, trivial, rfl, ?_⟩) fun _ => rfl
  rintro d' (rfl | rfl) e
  · rfl
  · rfl

theorem writeJournal_besideJournal {j : TransactionJournal} (hj : j.schema = schemaVersion) :
    Safe anyReply WaitsBesideJournal (writeJournal j)
      (outcome (fun _ d' => d'.journal ≠ .absent) fun _ _ => True) d :=
  safe_writeJournal hj (fun _ => trivial) (fun _ => trivial) (fun _ => nofun) fun _ => trivial

theorem park_besideJournal (s : State) (e : Err) : Always anyReply WaitsBesideJournal
    (c.parkGatewayReloadLocked s e : Op (Except Err GatewayApplyReceipt)) :=
  frames_bind (save_besideJournal c.store _).always fun _ => frames_pure _

/-- **The forward reload waits beside its journal**: it is written before the final state is saved
    and removed only after the wait. -/
theorem waitsBesideJournal_reload {s : State} {candidate : Config} :
    Safe anyReply WaitsBesideJournal (c.gatewayReloadWith (fun _ _ e => refuse e) s candidate)
      (fun _ _ => True) d := by
  have hinert := besideJournal_inert
  have hask : ∀ {q : Query} {e : Err} (d' : Disk), WaitsBesideJournal (.asked q d') →
      Safe anyReply WaitsBesideJournal (require q e)
        (outcome (fun _ d2 => d2 = d') fun _ _ => True) d' :=
    fun d' h => safe_require h rfl trivial
  unfold Controller.gatewayReloadWith
  refine safe_if (fun _ => trivial) fun _ => safe_read.mpr ?_
  split
  swap
  · exact trivial
  refine safe_guarded_of (Frames.outcome (createGatewayBackup_inert hinert) d) (fun _ _ _ => trivial)
    fun _ d1 _ => safe_read.mpr ?_
  refine safe_if (fun _ => trivial) fun _ => ?_
  refine safe_guarded_of ((save_besideJournal c.store _).outcome d1) (fun e d' _ => ?_)
    fun _ d2 _ => ?_
  · exact Always.safe (frames_bind (removeGatewayBackup_inert hinert).always
      fun _ => frames_pure _) d'
  refine safe_guarded_of (newJournal_fresh d2) (fun _ _ _ => trivial) ?_
  rintro fresh _ ⟨rfl, hschema⟩
  refine safe_guarded_of (writeJournal_besideJournal ?_) (fun _ _ _ => trivial) fun _ d3 _ => ?_
  · exact hschema
  refine safe_guarded_of (hask d3 trivial) (fun _ _ _ => trivial) fun _ d4 _ => ?_
  refine safe_guarded_of (Frames.outcome (writeConfig_inert hinert) d4) (fun _ _ _ => trivial)
    fun _ d5 _ => ?_
  refine safe_guarded_of (writeJournal_besideJournal ?_) (fun _ _ _ => trivial) fun _ d6 hj6 => ?_
  · exact hschema
  refine safe_guarded_of (hask d6 trivial) (fun _ _ _ => trivial) ?_
  rintro - _ rfl
  refine safe_guarded_of (hask _ trivial) (fun _ _ _ => trivial) ?_
  rintro - d6 rfl
  refine safe_guarded_of ((save_besideJournal c.store _).outcome d6)
    (fun _ d' _ => (park_besideJournal _ _).safe d') fun _ d7 hj7 => ?_
  -- the journal is still there
  rw [← hj7] at hj6
  refine safe_guarded_of (hask d7 ⟨hj6, nofun⟩) (fun _ d' _ => (park_besideJournal _ _).safe d')
    fun _ d8 _ => safe_read.mpr ?_
  refine safe_if (fun _ => (park_besideJournal _ _).safe d8) fun _ => ?_
  have hremove : Safe anyReply WaitsBesideJournal removeJournal
      (outcome (fun _ _ => True) fun _ _ => True) d8 :=
    safe_removeJournal trivial trivial trivial fun _ => trivial
  refine safe_guarded_of hremove (fun _ d' _ => (park_besideJournal _ _).safe d') fun _ d9 _ => ?_
  refine safe_guarded_of (Frames.outcome (removeGatewayBackup_inert hinert) d9) (fun _ d' _ => ?_)
    fun _ _ _ => trivial
  rw [safe_bind]
  refine (writeJournal_besideJournal ?_).post_mono fun _ d'' _ => (park_besideJournal _ _).safe d''
  exact hschema

open Sample

end OpenCodexRelay.Routing
