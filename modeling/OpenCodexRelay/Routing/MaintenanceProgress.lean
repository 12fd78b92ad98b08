/-
  The maintenance requests make progress.

  A request that meets no failing replacement gets through its writes: the positions of a
  transaction are two saves apart, and `Save` refuses neither of them.

  1. The initialisation marker beside the state is never damaged (`MarkerKept`), so it is never what
     stops a save.
  2. `enterMaintenance_succeeds`, `saveFinal_succeeds`, `removeMaintenance_succeeds`: the three parts
     of `finish` that write, from any position of the transaction.
-/
import OpenCodexRelay.Routing.MaintenanceProtocol
import OpenCodexRelay.Routing.Progress

namespace OpenCodexRelay.Routing

open Durable
open MaintenanceCoordinator (applyingState drain enterMaintenance finalState saveFinal save_inMaintenance)

/-! ## The marker -/

/-- No replacement damages the initialisation marker. -/
def MarkerKept : Observed → Prop
  | .wrote d d' => d.marker ≠ .malformed → d'.marker ≠ .malformed
  | _ => True

theorem store_marker (w : FileWrite) : Always anyReply MarkerKept (store w) := by
  intro d
  refine safe_store trivial (fun hm => ?_) rfl rfl
  cases w with
  | marker => nofun
  | _ => exact hm

theorem refuse_marker {α : Type} (e : Err) :
    Always anyReply MarkerKept (refuse e : Op (Except Err α)) := frames_pure _

theorem require_marker (q : Query) (e : Err) : Always anyReply MarkerKept (require q e) :=
  fun _ => safe_require trivial rfl rfl

theorem save_marker (st : Store) (next : State) : Always anyReply MarkerKept (st.save next) := by
  intro d
  refine safe_save (fun _ => ⟨trivial, fun _ => nofun, trivial, fun hm => hm, rfl, ?_⟩) fun _ => rfl
  exact fun _ _ _ => rfl

variable {c : MaintenanceCoordinator} {w : MaintenanceWitness} {s : State}

theorem enterMaintenance_marker : Always anyReply MarkerKept (c.enterMaintenance w s) :=
  frames_ite (fun _ => frames_attempt (save_marker _ _) fun _ => frames_pure _) fun _ => frames_pure _

theorem drain_marker : Always anyReply MarkerKept (drain w) :=
  frames_attempt (require_marker _ _) fun _ => frames_pure _

theorem prepare_marker (generation : UInt64) (intent : Intent) :
    Always anyReply MarkerKept (c.prepare generation intent) := by
  refine frames_ite (fun _ => refuse_marker _) fun _ => frames_read fun d => ?_
  split
  · split
    · exact refuse_marker _
    · split
      · split
        · split
          · -- a journal is there
            exact frames_ite (fun _ => refuse_marker _) fun _ => frames_guarded
              enterMaintenance_marker (fun _ => refuse_marker _) fun _ => drain_marker
          · refine frames_ite (fun _ => refuse_marker _) fun _ => ?_
            split
            · exact refuse_marker _
            · refine frames_attempt (frames_ite (fun _ => store_marker _) fun _ => refuse_marker _)
                fun _ => ?_
              exact frames_guarded (save_marker _ _) (fun _ => refuse_marker _) fun _ => drain_marker
        · exact refuse_marker _
      · exact refuse_marker _
  · exact refuse_marker _

theorem removeMaintenance_marker : Always anyReply MarkerKept removeMaintenance := by
  refine frames_read fun d => ?_
  split
  · exact frames_pure _
  · exact store_marker _

theorem finishFrom_marker (operation : ControlOperation) :
    Always anyReply MarkerKept (c.finishFrom operation w s) := by
  refine frames_guarded enterMaintenance_marker (fun _ => refuse_marker _) fun s' => ?_
  refine frames_guarded (require_marker _ _) (fun _ => refuse_marker _) fun _ => ?_
  refine frames_guarded (require_marker _ _) (fun _ => refuse_marker _) fun _ => ?_
  refine frames_guarded (frames_ite (fun _ => save_marker _ _) fun _ => frames_pure _)
    (fun _ => refuse_marker _) fun _ => ?_
  refine frames_guarded removeMaintenance_marker (fun _ => refuse_marker _) fun _ => ?_
  exact fun _ => ⟨trivial, fun _ _ => rfl⟩

theorem finish_marker (operation : ControlOperation) :
    Always anyReply MarkerKept (c.finish operation w) := by
  refine frames_ite (fun _ => refuse_marker _) fun _ => frames_read fun d => ?_
  split
  · refine frames_ite (fun _ => refuse_marker _) fun _ => ?_
    split
    · exact frames_ite (fun _ => refuse_marker _) fun _ => finishFrom_marker operation
    · exact refuse_marker _
  · exact refuse_marker _

theorem request_marker (r : MaintenanceRequest) : Always anyReply MarkerKept (r.prog c) := by
  cases r with
  | prepare generation intent => exact prepare_marker generation intent
  | commit w => exact finish_marker .maintenanceCommit
  | rollback w => exact finish_marker .maintenanceRollback

/-! ## The writes -/

section Writes

variable {j : MaintenanceJournal} {next : State} {d : Disk}

/-- What `finish` needs of a disk: the transaction is open and the marker readable. -/
structure Continuable (st : Store) (j : MaintenanceJournal) (s : State) (d : Disk) : Prop where
  opened : InMaintenance st j s d
  marker : d.marker ≠ .malformed

theorem save_succeeds (h : Continuable c.store j s d)
    (hn : next.WellFormed c.store.paths c.store.configPath)
    (hlt : s.generation < next.generation) (ht : validateTransition s next = .ok ())
    (hmatch : j.matchesState next = true) :
    Safe everythingSucceeds (Plain c.store) (c.store.save next)
      (fun r d' => r = .ok () ∧ Continuable c.store j next d') d := by
  refine ((save_inMaintenance h.opened hmatch).run_eq succeed
    fun _ _ _ ha => ha).post_mono fun r d' ⟨_, hrun⟩ => ?_
  rw [run_save hn h.opened.read hlt ht h.marker] at hrun
  cases hrun
  have hmarked : InMaintenance c.store j s d.marked := h.opened.congr rfl rfl
  exact ⟨rfl, hmarked.withState hn hmatch, nofun⟩

/-- The route of a maintenance in another phase and at another generation. -/
theorem AppleRoute.wellFormed {P : Paths} {bound : String} {g : UInt64} {phase : Phase}
    (h : s.WellFormed P bound) (hr : AppleRoute s) (hg : g ≠ 0)
    (hphase : phase = .applying ∨ phase = .relayActive) :
    ({ s with generation := g, phase := phase } : State).WellFormed P bound := by
  refine { h with generation_ne := hg, shape := ?_ }
  unfold State.phaseShape
  rcases hphase with rfl | rfl
  · simp [hr.desiredBackend, hr.appliedBackend]
  · simp [hr.desiredBackend, hr.appliedBackend, hr.desiredMode, hr.appliedMode, validRelayBackend]

theorem enterMaintenance_succeeds (h : Continuable c.store j s d) :
    Safe everythingSucceeds (Plain c.store) (c.enterMaintenance j.witness s)
      (fun r d' => ∃ s', r = .ok s' ∧ Continuable c.store j s' d' ∧
        s'.generation ≠ j.witness.originRoutingGeneration) d := by
  have hgen := MaintenanceWitness.valid_generations h.opened.witness_valid
  obtain ⟨-, -, hpos⟩ := MaintenanceJournal.matchesState_iff.mp h.opened.position
  unfold enterMaintenance
  refine safe_if (fun horigin => ?_) fun hlater => ⟨s, rfl, h, hlater⟩
  have hphase : s.phase = .relayActive := by
    rcases hpos with ⟨-, hp⟩ | ⟨hne, -⟩ | ⟨hne, -⟩
    · exact hp
    · exact absurd horigin hne
    · exact absurd horigin hne
  have hlt : s.generation < j.witness.preparedRoutingGeneration := by
    rw [UInt64.lt_iff_toNat_lt, horigin]
    omega
  have hnext : (applyingState j.witness s).WellFormed c.store.paths
      c.store.configPath :=
    h.opened.route.wellFormed (Store.read_wellFormed h.opened.read)
      (fun hzero => absurd hlt (by rw [hzero]; exact UInt64.not_lt_zero)) (.inl rfl)
  have hstep : validateTransition s (applyingState j.witness s) = .ok () := by
    simp [validateTransition, validTransition, hphase, applyingState]
  rw [safe_attempt]
  refine (save_succeeds h hnext hlt hstep h.opened.applying).post_mono ?_
  rintro r d' ⟨rfl, h'⟩
  exact ⟨_, rfl, h', (MaintenanceWitness.valid_ne h.opened.witness_valid).1⟩

/-- **At the final position**, the journal is all that is left to remove. -/
def Finalised (st : Store) (j : MaintenanceJournal) (d : Disk) : Prop :=
  ∃ s, InMaintenance st j s d ∧ s.generation = j.witness.finalRoutingGeneration ∧
    s.phase = .relayActive

theorem saveFinal_succeeds (h : Continuable c.store j s d)
    (hlater : s.generation ≠ j.witness.originRoutingGeneration) :
    Safe everythingSucceeds (Plain c.store) (c.saveFinal j.witness s)
      (fun r d' => r = .ok () ∧ Finalised c.store j d') d := by
  have hgen := MaintenanceWitness.valid_generations h.opened.witness_valid
  obtain ⟨-, -, hpos⟩ := MaintenanceJournal.matchesState_iff.mp h.opened.position
  unfold saveFinal
  refine safe_if (fun hprepared => ?_) fun hnot => ?_
  · have hphase : s.phase = .applying := by
      rcases hpos with ⟨heq, -⟩ | ⟨-, -, hp⟩ | ⟨-, hne, -⟩
      · exact absurd heq hlater
      · exact hp
      · exact absurd hprepared hne
    have hlt : s.generation < j.witness.finalRoutingGeneration := by
      rw [UInt64.lt_iff_toNat_lt, hprepared]
      omega
    have hnext : (finalState j.witness s).WellFormed c.store.paths
        c.store.configPath :=
      h.opened.route.wellFormed (Store.read_wellFormed h.opened.read)
        (fun hzero => absurd hlt (by rw [hzero]; exact UInt64.not_lt_zero)) (.inr rfl)
    have hstep : validateTransition s (finalState j.witness s) = .ok () := by
      simp [validateTransition, validTransition, hphase, finalState,
        h.opened.route.desiredBackend, validRelayBackend]
    refine (save_succeeds h hnext hlt hstep h.opened.final).post_mono ?_
    rintro r d' ⟨rfl, h'⟩
    exact ⟨rfl, _, h'.opened, rfl, rfl⟩
  · rcases hpos with ⟨hg, -⟩ | ⟨-, hg, -⟩ | ⟨-, -, hg, hphase⟩
    · exact absurd hg hlater
    · exact absurd hg hnot
    · exact ⟨rfl, s, h.opened, hg, hphase⟩

theorem removeMaintenance_succeeds (h : Finalised c.store j d) :
    Safe everythingSucceeds (Plain c.store) removeMaintenance
      (fun r d' => r = .ok () ∧ d'.maintenance = .absent) d := by
  obtain ⟨s, hopen, hgen, hphase⟩ := h
  refine ((MaintenanceCoordinator.removeMaintenance_plain hopen hgen hphase).run_eq succeed
    fun _ _ _ ha => ha).post_mono fun r d' ⟨_, hrun⟩ => ?_
  unfold removeMaintenance at hrun
  simp only [run, hopen.journal] at hrun
  cases hrun
  exact ⟨rfl, rfl⟩

end Writes

end OpenCodexRelay.Routing
