/-
  Routing generations only grow.

  The calls of the controller are walked through together with what they rely on.  What is left is
  the maintenance of a running container, whose coordinator has its own way to the state; then all of
  them together, one after the other and each stopping anywhere.
-/
import OpenCodexRelay.Routing.BackedCalls

namespace OpenCodexRelay.Routing

open Durable

/-! ## Maintenance -/

variable {d : Disk} {m : MaintenanceCoordinator} {c : Controller}

section Maintenance

variable {R : State → Disk → Prop}
variable {s : State} {w : MaintenanceWitness}

theorem advances_inert : Inert (Advances c R) where
  asked := fun {q} d hq => by rcases q with ⟨_ | _⟩ | _ <;> trivial
  wrote := fun h => .inl (same_state h)

theorem saveMaintenance_always {next : State} (hm : m.store = c.store)
    (hb : next.boundCodexConfigPath = c.codexConfigPath) :
    Always anyReply (Advances c R) (m.store.save next) := by
  rw [hm]
  exact always_of_safe fun d => (save_stays (A := ⟨R, True, False, False⟩) (fun _ => hb)
    False.elim).mono (fun _ he => he.grows trivial) fun _ _ _ => trivial

theorem drain_always : Always anyReply (Advances c R) (MaintenanceCoordinator.drain w) :=
  frames_attempt (require_inert advances_inert rfl) fun _ => frames_pure _

theorem enterMaintenance_spec (hm : m.store = c.store)
    (hb : s.boundCodexConfigPath = c.codexConfigPath) :
    Safe anyReply (Advances c R) (m.enterMaintenance w s)
      (outcome (fun s' _ => s'.boundCodexConfigPath = c.codexConfigPath) fun _ _ => True) d := by
  unfold MaintenanceCoordinator.enterMaintenance
  refine safe_if (fun _ => ?_) fun _ => hb
  have hsave : Always anyReply (Advances c R) (m.store.save (MaintenanceCoordinator.applyingState w s)) :=
    saveMaintenance_always hm hb
  exact safe_attempt_of (hsave.outcome d) (fun _ _ _ => trivial) fun _ _ _ => hb

theorem writeMaintenance_always {j : MaintenanceJournal} :
    Always anyReply (Advances c R) (m.store.writeMaintenance j) :=
  frames_ite (fun _ _ => safe_store trivial (.inl rfl) rfl rfl) fun _ => frames_pure _

theorem removeMaintenance_always : Always anyReply (Advances c R) removeMaintenance := by
  refine frames_read fun d => ?_
  split
  · exact frames_pure _
  · exact fun _ => safe_store trivial (.inl rfl) rfl rfl

theorem prepare_advances (hm : m.store = c.store) (hB : c.Bound d) (generation : UInt64)
    (intent : Intent) :
    Safe anyReply (Advances c R) (m.prepare generation intent) (fun _ _ => True) d := by
  unfold MaintenanceCoordinator.prepare
  refine safe_if (fun _ => trivial) fun _ => ?_
  refine safe_read.mpr ?_
  split
  · split
    · exact trivial
    split
    · rename_i s hs
      have hb := hB s (hm ▸ hs)
      split
      · split
        · unfold MaintenanceCoordinator.repeatPrepare
          simp only
          refine safe_if (fun _ => trivial) fun _ => ?_
          exact safe_guarded_of (enterMaintenance_spec hm hb) (fun _ _ _ => trivial)
            fun _ d1 _ => drain_always.safe d1
        · unfold MaintenanceCoordinator.beginPrepare
          refine safe_if (fun _ => trivial) fun _ => ?_
          split
          · exact trivial
          · refine Always.safe (frames_attempt writeMaintenance_always fun _ => ?_) d
            exact frames_guarded (saveMaintenance_always hm hb) (fun _ => frames_pure _)
              fun _ => drain_always
      · exact trivial
    · exact trivial
  · exact trivial

theorem finishMaintenance_advances (hm : m.store = c.store) (hB : c.Bound d)
    (operation : ControlOperation) (w : MaintenanceWitness) :
    Safe anyReply (Advances c R) (m.finish operation w) (fun _ _ => True) d := by
  unfold MaintenanceCoordinator.finish
  refine safe_if (fun _ => trivial) fun _ => ?_
  refine safe_read.mpr ?_
  split
  · refine safe_if (fun _ => trivial) fun _ => ?_
    split
    · rename_i s hs
      refine safe_if (fun _ => trivial) fun _ => ?_
      refine safe_guarded_of (enterMaintenance_spec hm (hB s (hm ▸ hs))) (fun _ _ _ => trivial)
        fun s' d1 hb' => ?_
      refine Always.safe (frames_guarded (require_inert advances_inert rfl) (fun _ => frames_pure _)
        fun _ => ?_) d1
      refine frames_guarded (require_inert advances_inert rfl) (fun _ => frames_pure _) fun _ => ?_
      have hfinal : Always anyReply (Advances c R) (m.saveFinal w s') :=
        frames_ite (fun _ => saveMaintenance_always hm hb') fun _ => frames_pure _
      refine frames_guarded hfinal (fun _ => frames_pure _) fun _ => ?_
      refine frames_guarded removeMaintenance_always (fun _ => frames_pure _) fun _ => ?_
      exact fun _ => ⟨trivial, fun _ _ => rfl⟩
    · exact trivial
  · exact trivial

end Maintenance

/-! ## Histories -/

/-- Any sequence of `allowed` calls, each of which may stop anywhere and be answered anything. -/
def Controller.controllerSystem (c : Controller) (m : MaintenanceCoordinator)
    (allowed : ControllerCall → Disk → Prop) : System Disk Query (fun _ => Bool) ControllerCall where
  Result := ControllerCall.Result
  prog := ControllerCall.prog c m
  env := anyReply
  allowed := allowed
  other := fun _ _ => False

/-- **Every call meets the demand** on every write it makes. -/
theorem ControllerCall.advances (hm : m.store = c.store) (call : ControllerCall)
    (hcall : call.Ordered c d) (hB : c.Bound d) :
    Safe anyReply (Advances c (call.Restored c d)) (call.prog c m) (fun _ _ => True) d := by
  cases call with
  | maintenancePrepare generation intent => exact prepare_advances hm hB generation intent
  | maintenanceFinish operation witness => exact finishMaintenance_advances hm hB operation witness
  | _ =>
    refine ((conduct (A := ⟨_, True, False, False⟩) _ rfl id False.elim fun _ =>
      ⟨hB, hcall, fun _ _ h => h⟩) [] (confirmed_none [])).safe ?_ |>.post_mono fun _ _ _ => trivial
    exact fun _ _ hC => hC.grows trivial

/-- **Generations only grow.** In every history of calls that are not made beside an overtaken
    journal, from files that are bound to this controller, a state that is about to be written over
    a readable one is newer than it; the only exception is a native repair that puts back the very
    state it found, over the one it has just committed. -/
theorem generations_grow_along_runs (c : Controller) (m : MaintenanceCoordinator)
    (hm : m.store = c.store) (d₀ d d' : Disk) (h0 : c.Bound d₀)
    (hrun : (c.controllerSystem m (ControllerCall.Ordered c)).Reachable d₀ d)
    (call : ControllerCall) (hcall : call.Ordered c d) (previous next : State)
    (hwrite : Occurs anyReply (call.prog c m) d (.asked (.store (.state next)) d'))
    (hprevious : c.store.read d' = .ok (previous, false)) :
    previous.generation < next.generation ∨
      (call.repairsNative = true ∧ c.store.read d = .ok (next, false) ∧
        previous = repairedState next) := by
  have hB : c.Bound d := by
    refine (c.controllerSystem m (ControllerCall.Ordered c)).reachable_inv h0 ?_ ?_ hrun
    · intro call d1 d2 ha hB hstop
      exact Safe.stopsBound (call.advances hm ha hB) hB hstop
    · intro d1 d2 _ ho
      exact ho.elim
  have hmeets := asked_of_safe (call.advances hm hcall hB) hwrite
  rcases hmeets.2 with ⟨hrepair, hfound, hcommitted⟩ | hlt
  · right
    rw [hprevious] at hcommitted
    cases hcommitted
    exact ⟨hrepair, hfound, rfl⟩
  · exact .inl (hlt previous hprevious)

namespace Sample

/-- The resident relay of the installation. -/
def coordinator : MaintenanceCoordinator := ⟨store, ⟨store, none, none, none⟩, Eq.refl store⟩

/-- A staged switch to native routing. -/
def staged : Disk := routed "remote" (state 5 .none .external .nativePendingRestart)

/-- The same switch, interrupted after `n` writes and answers. -/
def interrupted (n : Nat) : Disk := halt succeed (controller.apply true) n staged

/-- The owner that may repair native routing. -/
def repairer : Controller := { controller with localDevelopmentOwner := true }

/-- Somebody edits the Codex files while they are looked at. -/
def edited : Query → Disk → Bool
  | .codexUnedited, _ => false
  | _, _ => true

/-- A parked state under another Codex config. -/
def foreign : Disk :=
  routed "remote" { state 10 .none .external .recoveryRequired with
    boundCodexConfigPath := "/other.toml" }

/-- A call that dies after `n` writes and answers. -/
theorem controller_step {allowed : ControllerCall → Disk → Prop} (call : ControllerCall) (n : Nat)
    (d : Disk) (h : allowed call d) : (controller.controllerSystem coordinator allowed).Step d
      (halt succeed (call.prog controller coordinator) n d) :=
  .op call h (stops_halt succeed (fun _ _ => trivial) _ n d)

end Sample

open Sample

/-- A switch dies beside its prepared journal; the recovery parks a newer state. -/
theorem generations_grow_after_crash :
    ∃ d', Occurs anyReply (controller.recover .complete true) (interrupted 4)
        (.asked (.store (.state (state 7 .none .external .recoveryRequired))) d') ∧
      Sample.store.read d' = .ok (state 6 .none .external .applying, false) ∧
      (6 : UInt64) < 7 := by
  have hbound : controller.Bound staged := by
    intro s hs
    cases hs
    rfl
  have hrun : (controller.controllerSystem coordinator
      (ControllerCall.Ordered controller)).Reachable staged (interrupted 4) :=
    .single (controller_step (.apply true) 4 staged trivial)
  have hordered : ¬ controller.JournalBehind (interrupted 4) := by
    rintro ⟨j, s, hj, -, hs, -, hlt⟩
    cases hj
    cases hs
    exact absurd hlt (by decide)
  have hwrite : Occurs anyReply (controller.recover .complete true) (interrupted 4)
      (.asked (.store (.state (state 7 .none .external .recoveryRequired)))
        (interrupted 4)) :=
    occurs_of_trace succeed (fun _ _ => trivial) (i := 0) rfl
  refine ⟨_, hwrite, rfl, ?_⟩
  rcases generations_grow_along_runs controller coordinator rfl _ _ _ hbound hrun
    (.recover .complete true) hordered _ _ hwrite rfl with hlt | ⟨hrepair, -⟩
  · exact hlt
  · cases hrepair

/-- **Writes that are not newer.** A native repair whose second look fails goes back from 8 to 7.  A
    recovery over the state of another Codex config starts again at 2.  A recovery beside the
    journal of a switch that had already saved its final state repeats 7. -/
theorem generation_not_newer :
    (∃ d' previous next, Occurs anyReply (repairer.repairNative 7 true)
        (native (state 7 .none .external .recoveryRequired))
        (.asked (.store (.state next)) d') ∧
      Sample.store.read d' = .ok (previous, false) ∧
      previous.generation = 8 ∧ next.generation = 7) ∧
    (∃ d' previous next, Occurs anyReply (controller.recover .complete true) foreign
        (.asked (.store (.state next)) d') ∧
      Sample.store.read d' = .ok (previous, false) ∧
      previous.generation = 10 ∧ next.generation = 2) ∧
    ∃ d d' previous next, (controller.controllerSystem coordinator
        fun _ _ => True).Reachable staged d ∧
      Occurs anyReply (controller.recover .complete true) d
        (.asked (.store (.state next)) d') ∧
      Sample.store.read d' = .ok (previous, false) ∧
      previous.generation = 7 ∧ next.generation = 7 := by
  refine ⟨⟨_, _, _, occurs_of_trace edited (fun _ _ => trivial) (i := 5) rfl, rfl, rfl, rfl⟩,
    ⟨_, _, _, occurs_of_trace succeed (fun _ _ => trivial) (i := 0) rfl, rfl, rfl, rfl⟩, ?_⟩
  have hrun : (controller.controllerSystem coordinator
      fun _ _ => True).Reachable staged (interrupted 14) :=
    .single (controller_step (.apply true) 14 staged trivial)
  exact ⟨_, _, _, _, hrun, occurs_of_trace succeed (fun _ _ => trivial) (i := 0) rfl, rfl, rfl, rfl⟩

end OpenCodexRelay.Routing
