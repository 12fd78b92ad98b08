/-
  The transactions of the controller.

  One walk per transaction shows whatever its `Aims` are.  Every write of the routing state, of the
  transaction journal and of the container witness is looked at once: it is newer, and it relies on
  nothing new or on a runtime the relay has just confirmed.

  1. What touches none of the control files is inert (`Inert`): one lemma per building block.
  2. The switch is where a confirmation is obtained and used (`finishApplying_backed`); gateway
     changes and their roll-back do the same for External.
-/
import OpenCodexRelay.Routing.Backing

namespace OpenCodexRelay.Routing

open Durable
open Store (read_congr backing_of_read)

/-! ## Inert parts -/

/-- The question is for no state, no runtime and no acknowledgement. -/
def Query.inert : Query → Bool
  | .store (.state _) | .runtimeApply _ _ | .awaitFinalized _ => false
  | _ => true

/-- The demand minds only those questions, and what happens to the control files. -/
structure Inert (C : Observed → Prop) : Prop where
  asked : ∀ {q : Query} (d : Disk), q.inert = true → C (.asked q d)
  wrote : ∀ {d d' : Disk}, d'.routing = d.routing → C (.wrote d d')

theorem settled_inert (c : Controller) (A : Aims) (m : Option Backend) : Inert (Settled c A m) where
  asked := fun {q} d hq => by
    refine ⟨fun _ => ?_, fun _ => ?_, fun _ => ?_⟩
    · rcases q with ⟨_ | _⟩ | _ <;> trivial
    · cases q <;> trivial
    · cases q <;> trivial
  wrote := fun h => ⟨fun _ => .inl (same_state h), fun _ => ⟨same_maintenance h, same_witness h⟩,
    fun _ => ⟨.inr (.inl (Store.backing_congr h)), fun _ _ => ⟨(Store.owed_congr h).trans,
      fun hs => (Store.switching_congr (same_state h)) ▸ hs⟩⟩⟩

variable {legacy : Bool} {s next final applying : State} {α : Type} {cfg : Config} {e : Err}
variable {target : Backend} {c : Controller} {m : Option Backend} {j : TransactionJournal} {d d' : Disk}
variable {A : Aims} {post : Except Err α → Disk → Prop} {st : Store}

section Inert

variable {C : Observed → Prop} {τ : Type} {f : Disk → τ}

theorem require_inert (hC : Inert C) {q : Query} (hq : q.inert = true) :
    Frames anyReply C f (require q e) :=
  fun d => safe_require (hC.asked d hq) rfl rfl

theorem store_inert (hC : Inert C) {w : FileWrite} (hw : ∀ d, (w.apply d).routing = d.routing)
    (hq : (Query.store w).inert = true) : Frames anyReply C Disk.routing (store w) :=
  fun d => safe_store (hC.asked d hq) (hC.wrote (hw d)) (hw d) rfl

theorem probe_inert {q : Query} (h : q.probe = true) : q.inert = true := by
  cases q <;> first | rfl | cases h

theorem preflight_inert (hC : Inert C) :
    Frames anyReply C f (c.preflightBackendWithLegacyIntent target legacy) :=
  fun d => safe_preflight (fun _ hq => hC.asked d (probe_inert hq)) (fun _ _ => rfl) fun _ => rfl

theorem preflightRequested_inert (hC : Inert C) :
    Frames anyReply C f (c.preflightRequestedBackend target) :=
  fun d => safe_preflightRequested (fun _ hq => hC.asked d (probe_inert hq)) fun _ => rfl

theorem newJournal_inert :
    Frames anyReply C f (c.newJournal s target legacy) := fun _ => rfl

/-- A fresh journal has the current schema. -/
theorem newJournal_fresh (d : Disk) :
    Safe anyReply C (c.newJournal s target legacy)
      (outcome (fun j d' => d' = d ∧ j.schema = schemaVersion) fun _ d' => d' = d) d := by
  refine safe_newJournal ?_
  cases hj : c.journalFor d s target legacy with
  | error e => rfl
  | ok j => exact ⟨rfl, (Controller.journalFor_eq hj).1⟩

theorem materialize_inert (hC : Inert C) :
    Frames anyReply C f (Controller.materializeLocalCatalog target cfg) :=
  frames_ite (fun _ => require_inert hC rfl) fun _ => frames_pure _

theorem editsCodex_routing {w : FileWrite} (hw : w.editsCodex = true) (d : Disk) :
    (w.apply d).routing = d.routing := by
  cases w <;> first | rfl | cases hw

theorem applyConfig_inert (hC : Inert C) :
    Frames anyReply C Disk.routing (c.applyConfigWithLegacyIntent target cfg legacy) := by
  refine fun d => Safe.codexEdits (applyConfig_codexEdits c target cfg legacy)
    (fun w d' hw _ => hC.asked d' ?_) (fun w d' hw _ => hC.wrote (editsCodex_routing hw d'))
    fun _ d' hsame => ?_
  · cases w <;> first | rfl | cases hw
  · simp only [Disk.routing, hsame.state, hsame.journal, hsame.runtimeRouting, hsame.maintenance]

theorem writeConfig_inert (hC : Inert C) :
    Frames anyReply C Disk.routing (c.writeConfig cfg) := by
  unfold Controller.writeConfig
  split
  · exact frames_pure _
  · exact frames_attempt (store_inert hC (fun _ => rfl) rfl) fun _ => require_inert hC rfl

theorem removeGatewayBackup_inert (hC : Inert C) :
    Frames anyReply C Disk.routing Controller.removeGatewayBackup := by
  refine frames_read fun d => ?_
  split
  · exact frames_pure _
  · exact frames_pure _
  · exact store_inert hC (fun _ => rfl) rfl

theorem createGatewayBackup_inert (hC : Inert C) :
    Frames anyReply C Disk.routing Controller.createGatewayBackup := by
  refine frames_read fun d => ?_
  split
  · exact store_inert hC (fun _ => rfl) rfl
  · exact frames_pure _

end Inert

/-! ## The writes that count -/

/-- `next` is durable, beside the journal and the witness that were there. -/
structure InPlace (st : Store) (next : State) (d d' : Disk) : Prop where
  read : st.read d' = .ok (next, false)
  journal : d'.journal = d.journal
  runtimeRouting : d'.runtimeRouting = d.runtimeRouting

/-- A commit happened, or none of the control files has changed. -/
abbrev Commits (st : Store) (next : State) (d : Disk) : Except Err Unit → Disk → Prop :=
  outcome (fun _ d' => InPlace st next d d') fun _ d' => d'.routing = d.routing

/-- In place of what is on disk, the state relies on nothing new. -/
def Store.Stays (st : Store) (next : State) (d : Disk) : Prop :=
  next.backing d.journal d.runtimeRouting = .none ∨
    next.backing d.journal d.runtimeRouting = st.backing d

theorem commitSafe_settled (hw : next.WellFormed c.store.paths c.store.configPath)
    (hb : A.grows → next.boundCodexConfigPath = c.codexConfigPath)
    (hgen : A.grows → A.restored next d.marked ∨ ∀ previous,
      c.store.read d.marked = .ok (previous, false) → previous.generation < next.generation)
    (h : A.backs → Settles c.store m (.wrote d.marked (d.marked.withState next))) :
    CommitSafe (Settled c A m) next (Commits c.store next d) d where
  asked_marker := (settled_inert c A m).asked d rfl
  wrote_marker := (settled_inert c A m).wrote rfl
  asked_state := ⟨fun hg => ⟨hb hg, hgen hg⟩, fun _ => trivial, fun _ => trivial⟩
  wrote_state := ⟨fun hg => .inr ⟨next, hb hg, rfl⟩, fun _ => ⟨rfl, rfl⟩, h⟩
  ok := ⟨Store.read_withState hw, rfl, rfl⟩
  err := by
    rintro d' (rfl | rfl) e
    · rfl
    · rfl

/-- **`Save` always advances.** -/
theorem save_settled (hb : A.grows → next.boundCodexConfigPath = c.codexConfigPath)
    (h : A.backs → next.WellFormed c.store.paths c.store.configPath →
      Settles c.store m (.wrote d.marked (d.marked.withState next))) :
    Safe anyReply (Settled c A m) (c.store.save next) (Commits c.store next d) d := by
  refine safe_save (fun hchk => commitSafe_settled hchk.wellFormed hb (fun _ => .inr ?_)
    fun hback => h hback hchk.wellFormed) fun _ => rfl
  intro previous hr
  have hr : c.store.read d = .ok (previous, false) := read_congr hr rfl
  rcases hchk.previous with ⟨s, hs, hlt, -⟩ | hlegacy
  · rw [hs] at hr
    cases hr
    exact hlt
  · rw [hlegacy] at hr
    cases hr

/-- **`Replace` advances over what is older.** -/
theorem replace_settled (hb : A.grows → next.boundCodexConfigPath = c.codexConfigPath)
    (hgen : A.grows → Newer c next d)
    (h : A.backs → next.WellFormed c.store.paths c.store.configPath →
      Settles c.store m (.wrote d.marked (d.marked.withState next))) :
    Safe anyReply (Settled c A m) (c.store.replace next) (Commits c.store next d) d :=
  safe_replace (fun hw => commitSafe_settled hw hb (fun hg => .inr fun previous hr =>
    hgen hg hw.generation_ne previous (read_congr hr rfl)) fun hback => h hback hw)
    fun _ => rfl

theorem settles_stays (h : c.store.Stays next d)
    (hw : next.WellFormed c.store.paths c.store.configPath) :
    Settles c.store none (.wrote d.marked (d.marked.withState next)) := by
  refine ⟨?_, fun _ ht => nomatch ht⟩
  have hsame : c.store.backing d.marked = c.store.backing d := Store.backing_congr rfl
  have hnext : c.store.backing (d.marked.withState next) = next.backing d.journal d.runtimeRouting :=
    backing_of_read (Store.read_withState hw)
  rw [hnext, hsame]
  exact h.imp_right .inl

theorem save_stays (hb : A.grows → next.boundCodexConfigPath = c.codexConfigPath)
    (h : A.backs → c.store.Stays next d) :
    Safe anyReply (Settled c A none) (c.store.save next) (Commits c.store next d) d :=
  save_settled hb fun hback => settles_stays (h hback)

theorem replace_stays (hb : A.grows → next.boundCodexConfigPath = c.codexConfigPath)
    (hgen : A.grows → Newer c next d) (h : A.backs → c.store.Stays next d) :
    Safe anyReply (Settled c A none) (c.store.replace next) (Commits c.store next d) d :=
  replace_settled hb hgen fun hback => settles_stays (h hback)

theorem writeJournal_settled (hschema : j.schema = schemaVersion)
    (h : A.backs → Settles c.store m (.wrote d { d with journal := .record j })) :
    Safe anyReply (Settled c A m) (writeJournal j)
      (outcome (fun _ d' => d' = { d with journal := .record j }) fun _ d' => d' = d) d :=
  safe_writeJournal hschema (fun _ => (settled_inert c A m).asked d rfl)
    (fun _ => ⟨fun _ => .inl rfl, fun _ => ⟨rfl, rfl⟩, h⟩) (fun _ => rfl) fun _ => rfl

theorem removeJournal_settled
    (h : A.backs → Settles c.store m (.wrote d { d with journal := .absent })) :
    Safe anyReply (Settled c A m) removeJournal
      (outcome (fun _ d' => d' = { d with journal := .absent }) fun _ d' => d' = d) d :=
  safe_removeJournal ((settled_inert c A m).asked d rfl)
    ⟨fun _ => .inl rfl, fun _ => ⟨rfl, rfl⟩, h⟩ rfl fun _ => rfl

/-- A journal beside a state that is no end of a switch. -/
theorem settles_journal (hr : c.store.read d = .ok (s, false))
    (hs : s.phase = .applying ∨ s.phase = .recoveryRequired) :
    Settles c.store none (.wrote d { d with journal := .record j }) := by
  refine ⟨.inl ?_, fun _ ht => nomatch ht⟩
  have hr' : c.store.read { d with journal := .record j } = .ok (s, false) := read_congr hr rfl
  rw [backing_of_read hr']
  exact State.backing_journal (by simp) hs

/-- Waiting for a final state that is durable, without a journal. -/
theorem settled_await (hr : c.store.read d = .ok (final, false)) (hj : d.journal = .absent)
    (ha : A.waits → final.appliedBackend ≠ .localAppleContainer) :
    Settled c A m (.asked (.awaitFinalized final) d) :=
  ⟨fun _ => trivial, fun hw => ⟨hr, hj, ha hw⟩, fun _ => trivial⟩

/-! ## The switch -/

/-- The result does not matter; only what was written on the way does. -/
abbrev Whatever {α : Type} (_ : α) (_ : Disk) : Prop := True

instance {α : Type} : Lenient (@Whatever (Except Err α)) := ⟨fun _ _ => trivial⟩

/-- The transaction is over: its journal is gone and its final state durable. -/
abbrev Concludes (st : Store) (final : State) (d : Disk) {α : Type} : Except Err α → Disk → Prop :=
  outcome (fun _ d' => st.read d' = .ok (final, false) ∧ d'.journal = .absent ∧
    d'.runtimeRouting = d.runtimeRouting) fun _ _ => True

section Switch

variable {β : Type}

/-- Parking `s` relies on nothing new: there is a journal, or no witness, or the applied backend is
    that of the state on disk. -/
def Parkable (st : Store) (s : State) (d : Disk) : Prop :=
  d.journal ≠ .absent ∨ d.runtimeRouting = .absent ∨
    ∃ t, st.standing d = some t ∧ t.appliedBackend = s.appliedBackend

theorem Parkable.stays {generation : UInt64} (h : Parkable st s d) :
    st.Stays { s with phase := .recoveryRequired, generation := generation } d := by
  unfold Store.Stays
  rcases h with hj | hw | ⟨t, ht, happlied⟩
  · exact .inl (State.backing_journal hj (.inr rfl))
  · rw [hw]
    exact .inl (State.backing_unwitnessed (.inr rfl))
  · by_cases hj : d.journal = .absent
    · -- beside a witness both rely on their common applied backend
      rw [hj]
      unfold Store.backing
      rw [ht, hj]
      unfold State.backing
      by_cases hw : d.runtimeRouting = .absent
      · simp [hw, State.allowsDataPlane]
      · simp [hw, happlied]
    · exact .inl (State.backing_journal hj (.inr rfl))

/-- **The exit on failure** parks the state, whatever comes of it, and reports. -/
theorem park_backed (hpost : ∀ d', post (.error e) d')
    (hb : A.grows → s.boundCodexConfigPath = c.codexConfigPath) (h : A.backs → Parkable c.store s d) :
    Backed c A m (c.store.save { s with phase := .recoveryRequired, generation := s.generation + 1 }
      >>= fun _ => refuse e) post d := by
  refine Backed.by (backed_bind (save_stays ?_ fun hback => (h hback).stays) fun _ d' _ =>
    backed_ret (hpost d'))
  exact hb

/-- A state at rest on `target`: what it relies on, if anything, is `target`. -/
structure AtRest (target : Backend) (s : State) : Prop where
  applied : s.appliedBackend = target
  phase : s.phase ≠ .applying
  admits : target ≠ .none → s.allowsDataPlane = true

theorem AtRest.owed (h : AtRest target s) (journal : ControlFile TransactionJournal)
    (witness : ControlFile RuntimeRoutingJournal) : s.owed journal witness = target := by
  unfold State.owed
  rw [if_neg fun hc => h.phase hc.1, h.applied]
  by_cases ht : target = .none
  · simp [ht]
  · simp [h.admits ht]

theorem atRest_final : AtRest target (Controller.finalState applying target) := by
  refine ⟨rfl, ?_, fun ht => ?_⟩
  · simp only [Controller.finalState]
    split_ifs <;> simp
  · simp [Controller.finalState, State.allowsDataPlane, ht]

/-- Once `target` is confirmed, a state at rest on it may be written, with any journal. -/
theorem settles_atRest (h : AtRest target s) (hr : st.read d' = .ok (s, false)) :
    Settles st (some target) (.wrote d d') := by
  refine ⟨?_, ?_⟩
  · rw [backing_of_read hr]
    rcases s.backing_cases d'.journal d'.runtimeRouting with hb | hb
    · exact .inl hb
    · exact .inr (.inr (congrArg some (hb.trans h.applied).symm))
  · rintro _ ⟨⟩
    refine ⟨fun _ => ?_, fun hs => ?_⟩
    · rw [Store.owed_of_read hr]
      exact h.owed _ _
    · rw [Store.switching_of_read hr] at hs
      exact absurd (of_decide_eq_true hs) h.phase

/-- So may a journal beside the `applying` state that authorised it. -/
theorem settles_applying (hr : st.read d' = .ok (s, false)) (hphase : s.phase = .applying)
    (hdesired : s.desiredBackend = target) (hj : d'.journal ≠ .absent) (hsame : d'.state = d.state) :
    Settles st (some target) (.wrote d d') := by
  refine ⟨.inl ?_, ?_⟩
  · rw [backing_of_read hr]
    exact State.backing_journal hj (.inl hphase)
  · rintro _ ⟨⟩
    refine ⟨fun _ => ?_, fun hs => (Store.switching_congr hsame) ▸ hs⟩
    rw [Store.owed_of_read hr]
    simp [State.owed, hphase, hdesired, hj]

theorem save_rests (h : AtRest target s)
    (hb : A.grows → s.boundCodexConfigPath = c.codexConfigPath) :
    Safe anyReply (Settled c A (some target)) (c.store.save s) (Commits c.store s d) d :=
  save_settled hb fun _ hw => settles_atRest h (Store.read_withState hw)

/-- The switch asks for its runtime where there is a relay to ask. -/
theorem backed_applyRuntime {fail : Err → Op β} {k : Unit → Op β} {post : β → Disk → Prop}
    (hc : A.backs → c.runtimeControl = true)
    (hauth : A.backs → c.store.Authorised applying.generation target d)
    (hfail : ∀ e, Backed c A none (fail e) post d) (hk : Backed c A (some target) (k ()) post d) :
    Backed c A none (guarded (c.applyRuntime applying target) fail k) post d := by
  unfold Controller.applyRuntime
  by_cases hcontrol : c.runtimeControl = true
  · rw [if_pos hcontrol]
    exact backed_runtime hauth (hfail _) hk
  · rw [if_neg hcontrol]
    exact fun past _ => hk past fun hback => absurd (hc hback) hcontrol

/-- The switch after its confirmation. -/
theorem commitSwitch_backed {mutated : TransactionJournal}
    (hschema : mutated.schema = schemaVersion) (hr : c.store.read d = .ok (applying, false))
    (hphase : applying.phase = .applying) (hdesired : applying.desiredBackend = target)
    (hj : d.journal ≠ .absent) (hfinal : AtRest target final)
    (hb : A.grows → applying.boundCodexConfigPath = c.codexConfigPath)
    (hb' : A.grows → final.boundCodexConfigPath = c.codexConfigPath)
    (ht : A.waits → target ≠ .localAppleContainer) :
    Backed c A (some target)
      (guarded (writeJournal mutated) (fun e => c.failApplyingLocked applying e) fun _ =>
        guarded (c.store.save final) (fun e => c.failApplyingLocked applying e) fun _ =>
        attempt removeJournal fun _ =>
        guarded (require (.awaitFinalized final) .relayFinalization)
          (fun e => c.failApplyingLocked final e) fun _ => pure (.ok ()))
      (Concludes c.store final d) d := by
  refine backed_guarded (writeJournal_settled hschema fun _ =>
    settles_applying (read_congr hr rfl) hphase hdesired (by simp) rfl) ?_ ?_
  · rintro e _ rfl
    exact park_backed (fun _ => trivial) hb fun _ => .inl hj
  rintro - _ rfl
  refine backed_guarded (save_rests hfinal hb') (fun e d2 hd2 => ?_) fun _ d2 hd2 => ?_
  · refine park_backed (fun _ => trivial) hb fun _ => .inl ?_
    rw [same_journal hd2]
    simp
  have hr3 : c.store.read { d2 with journal := .absent } = .ok (final, false) :=
    read_congr hd2.read rfl
  refine backed_attempt (removeJournal_settled fun _ => settles_atRest hfinal hr3) ?_
  rintro - _ rfl
  refine backed_question (settled_await hr3 rfl fun hw => hfinal.applied ▸ ht hw) ?_
    (backed_ret ⟨hr3, rfl, hd2.runtimeRouting⟩)
  exact park_backed (fun _ => trivial) hb' fun _ =>
    .inr (.inr ⟨final, Store.standing_of_read hr3, rfl⟩)

/-- **The switch** from its durable `applying` state. -/
theorem finishApplying_backed {originAuthoritative : Bool} (hc : A.backs → c.runtimeControl = true)
    (hr : c.store.read d = .ok (applying, false)) (hphase : applying.phase = .applying)
    (hdesired : applying.desiredBackend = target)
    (hb : A.grows → applying.boundCodexConfigPath = c.codexConfigPath)
    (ht : A.waits → target ≠ .localAppleContainer) :
    Backed c A none (c.finishApplyingLockedWithOriginAuthority applying cfg target
      originAuthoritative legacy)
      (Concludes c.store (Controller.finalState applying target) d) d := by
  have hfail : ∀ {m : Option Backend} (e : Err) (d' : Disk), Parkable c.store applying d' →
      Backed c A m (c.failApplyingLocked applying e : Op (Except Err Unit))
        (Concludes c.store (Controller.finalState applying target) d) d' :=
    fun e d' h => park_backed (fun _ => trivial) hb fun _ => h
  have hstart : Parkable c.store applying d :=
    .inr (.inr ⟨applying, Store.standing_of_read hr, rfl⟩)
  unfold Controller.finishApplyingLockedWithOriginAuthority
  refine backed_guarded (newJournal_fresh _) ?_ ?_
  · rintro e _ rfl
    exact hfail _ _ hstart
  rintro fresh d ⟨rfl, hschema⟩
  -- the prepared journal
  refine backed_guarded (writeJournal_settled hschema fun _ => settles_journal hr (.inl hphase)) ?_
    fun _ d2 hd2 => ?_
  · rintro e _ rfl
    exact hfail _ _ hstart
  have hj2 : d2.journal ≠ .absent := by
    rw [hd2]
    simp
  have hw2 : d2.runtimeRouting = d.runtimeRouting := by rw [hd2]
  have hr2 : c.store.read d2 = .ok (applying, false) := read_congr hr (by rw [hd2])
  clear hd2
  refine backed_question ((settled_inert c A none).asked _ rfl) (hfail _ _ (.inl hj2)) ?_
  refine backed_guarded ((materialize_inert (settled_inert c A none)).same d2) ?_ ?_
  · rintro e _ rfl
    exact hfail _ _ (.inl hj2)
  rintro - _ rfl
  refine backed_applyRuntime hc (fun _ => ⟨applying, hr2, hphase, rfl, hdesired, hj2⟩)
    (fun e => hfail e _ (.inl hj2)) ?_
  refine backed_guarded (Frames.outcome (applyConfig_inert (settled_inert c A _)) _)
    (fun e d5 hd5 => hfail e d5 (.inl (same_journal hd5 ▸ hj2))) fun _ d5 hd5 => ?_
  rw [← same_journal hd5] at hj2
  refine backed_guarded (newJournal_inert.same d5) ?_ ?_
  · rintro e _ rfl
    exact hfail e _ (.inl hj2)
  rintro updated _ rfl
  refine (commitSwitch_backed ?_ (read_congr hr2 (same_state hd5)) hphase hdesired hj2
    atRest_final hb hb ht).mono fun r d' hpost => ?_
  · exact hschema
  cases r with
  | error e => trivial
  | ok u => exact ⟨hpost.1, hpost.2.1, hpost.2.2.trans ((same_witness hd5).trans hw2)⟩

/-- The state before its switch relies on the applied backend, or on nothing. -/
theorem applying_stays (hr : c.store.read d = .ok (s, false)) (hj : d.journal = .absent)
    (hphase : next.phase = .applying) (happlied : next.appliedBackend = s.appliedBackend) :
    c.store.Stays next d := by
  unfold Store.Stays
  rw [backing_of_read hr, hj]
  by_cases hw : d.runtimeRouting = .absent
  · rw [hw]
    exact .inl (State.backing_unwitnessed (.inl hphase))
  · right
    simp [State.backing, hw, happlied]

/-- A switch leaves no journal behind, and the witness as it was. -/
abbrev Switches (d : Disk) : Except Err Unit → Disk → Prop :=
  outcome (fun _ d' => d'.journal = .absent ∧ d'.runtimeRouting = d.runtimeRouting)
    fun _ _ => True

theorem Concludes.switches {d0 : Disk} (hw : d.runtimeRouting = d0.runtimeRouting) :
    ∀ (r : Except Err Unit) (d' : Disk), Concludes c.store final d r d' → Switches d0 r d' := by
  rintro (_ | _) d' h
  · trivial
  · exact ⟨h.2.1, h.2.2.trans hw⟩

theorem applyLocked_backed (hc : A.backs → c.runtimeControl = true)
    (hr : A.backs → c.store.read d = .ok (s, false)) (hj : d.journal = .absent)
    (hb : A.grows → s.boundCodexConfigPath = c.codexConfigPath)
    (ht : A.waits → s.desiredBackend ≠ .localAppleContainer) :
    Backed c A none (c.applyLocked s) (Switches d) d := by
  refine backed_unless fun _ => ?_
  refine backed_attempt ((preflight_inert (settled_inert c A none)).same d) ?_
  rintro preflight _ rfl
  refine backed_attempt (save_stays hb fun hback => applying_stays (hr hback) hj rfl rfl) fun _ d2 hd2 => ?_
  exact (finishApplying_backed hc hd2.read rfl rfl hb ht).mono (Concludes.switches hd2.runtimeRouting)

end Switch

/-! ## Gateway changes -/

/-- Write the journal again beside the final state, whatever comes of it, and park. -/
theorem rewrite_backed {park : Op (Except Err α)} (hschema : j.schema = schemaVersion)
    (hfinal : AtRest target final) (hr : c.store.read d = .ok (final, false))
    (hw : d.runtimeRouting = .absent)
    (hpark : ∀ d', d'.runtimeRouting = .absent → Backed c A (some target) park post d') :
    Backed c A (some target) (writeJournal j >>= fun _ => park) post d := by
  refine backed_bind (writeJournal_settled hschema fun _ =>
    settles_atRest hfinal (read_congr hr rfl)) fun r d' hd' => hpark d' ?_
  cases r with
  | error e => exact (congrArg Disk.runtimeRouting hd').trans hw
  | ok u => exact (congrArg Disk.runtimeRouting hd').trans hw

/-- The end of a rolled-back or recovered reload, after the confirmation. -/
theorem reloadTail_backed {parkApplying park done : Op (Except Err α)}
    (hschema : j.schema = schemaVersion) (hfinal : AtRest target final)
    (hw : d.runtimeRouting = .absent)
    (hb : A.grows → final.boundCodexConfigPath = c.codexConfigPath)
    (ht : A.waits → target ≠ .localAppleContainer)
    (hparkApplying : ∀ d', d'.runtimeRouting = .absent → Backed c A (some target) parkApplying post d')
    (hpark : ∀ d', d'.runtimeRouting = .absent → Backed c A (some target) park post d')
    (hdone : ∀ d', d'.journal = .absent → Backed c A (some target) done post d') :
    Backed c A (some target) (guarded (c.store.save final) (fun _ => parkApplying) fun _ =>
      guarded removeJournal (fun _ => park) fun _ =>
      guarded (require (.awaitFinalized final) .relayFinalization)
        (fun _ => writeJournal j >>= fun _ => park) fun _ =>
      guarded Controller.removeGatewayBackup
        (fun _ => writeJournal j >>= fun _ => park) fun _ => done) post d := by
  refine backed_guarded (save_rests hfinal hb)
    (fun _ d1 hd1 => hparkApplying d1 ((same_witness hd1).trans hw)) fun _ d1 hd1 => ?_
  have hw1 := hd1.runtimeRouting.trans hw
  have hr2 : c.store.read { d1 with journal := .absent } = .ok (final, false) :=
    read_congr hd1.read rfl
  refine backed_guarded (removeJournal_settled fun _ => settles_atRest hfinal hr2) ?_ ?_
  · rintro _ _ rfl
    exact hpark _ hw1
  rintro - _ rfl
  refine backed_question (settled_await hr2 rfl fun h => hfinal.applied ▸ ht h)
    (rewrite_backed hschema hfinal hr2 hw1 hpark) ?_
  refine backed_guarded (Frames.outcome (removeGatewayBackup_inert (settled_inert c A _)) _)
    (fun _ d4 hd4 => ?_) fun _ d4 hd4 => hdone d4 (same_journal hd4)
  exact rewrite_backed hschema hfinal (read_congr hr2 (same_state hd4))
    ((same_witness hd4).trans hw1) hpark

theorem atRest_reloaded (happlied : applying.appliedBackend = .external) :
    AtRest .external (Controller.reloadedState applying) :=
  ⟨happlied, by simp [Controller.reloadedState],
    fun _ => by simp [Controller.reloadedState, State.allowsDataPlane]⟩

/-- A reload of the External runtime, with no witness. -/
structure Reloading (c : Controller) (A : Aims) (applying : State) (d : Disk) : Prop where
  applied : applying.appliedBackend = .external
  unwitnessed : d.runtimeRouting = .absent
  bound : A.grows → applying.boundCodexConfigPath = c.codexConfigPath
  applying : A.backs → c.store.read d = .ok (applying, false) ∧ applying.phase = .applying ∧
    applying.desiredBackend = .external

theorem Reloading.congr (h : Reloading c A applying d) (hs : d'.state = d.state)
    (hw : d'.runtimeRouting = d.runtimeRouting) : Reloading c A applying d' :=
  ⟨h.applied, hw.trans h.unwitnessed, h.bound,
    fun hback => (h.applying hback).imp_left fun hr => read_congr hr hs⟩

theorem Reloading.routing (h : Reloading c A applying d) (hd : d'.routing = d.routing) :
    Reloading c A applying d' :=
  h.congr (same_state hd) (same_witness hd)

/-- Its journal is written before the relay is asked. -/
theorem Reloading.journal_settled (h : Reloading c A applying d)
    (hschema : j.schema = schemaVersion) :
    Safe anyReply (Settled c A none) (writeJournal j)
      (outcome (fun _ d' => Reloading c A applying d' ∧ d'.journal ≠ .absent)
        fun _ d' => Reloading c A applying d') d := by
  refine (writeJournal_settled hschema fun hback => settles_journal (h.applying hback).1
    (.inl (h.applying hback).2.1)).except_mono ?_ ?_
  · rintro e _ rfl
    exact h
  · rintro u _ rfl
    exact ⟨h.congr rfl rfl, by simp⟩

theorem Reloading.authorised (h : Reloading c A applying d) (hj : d.journal ≠ .absent)
    (hback : A.backs) : c.store.Authorised applying.generation .external d := by
  obtain ⟨hr, hphase, hdesired⟩ := h.applying hback
  exact ⟨applying, hr, hphase, rfl, hdesired, hj⟩

theorem Reloading.park (h : Reloading c A applying d) (hpost : ∀ d', post (.error e) d') :
    ∀ d', d'.runtimeRouting = .absent → Backed c A m (c.store.save { applying with
      phase := .recoveryRequired, generation := applying.generation + 1 } >>= fun _ => refuse e)
      post d' :=
  fun _ hw => park_backed hpost h.bound fun _ => .inr (.inl hw)

theorem rollbackReload_backed {origin : Config} {journal : Option TransactionJournal} {cause : Err}
    (h : Reloading c A applying d)
    (hschema : ∀ j ∈ journal, TransactionJournal.schema j = schemaVersion) :
    Backed c A none (c.rollbackGatewayReloadLocked applying origin journal cause) Whatever d := by
  have hpark : ∀ {m : Option Backend} (d' : Disk), d'.runtimeRouting = .absent → Backed c A m
      (c.parkGatewayReloadLocked applying cause : Op (Except Err GatewayApplyReceipt)) Whatever d' :=
    h.park fun _ => trivial
  unfold Controller.rollbackGatewayReloadLocked
  refine backed_guarded (Frames.outcome (writeConfig_inert (settled_inert c A none)) d)
    (fun _ d1 hd1 => hpark d1 (h.routing hd1).unwitnessed) fun _ d1 hd1 => ?_
  have h1 := h.routing hd1
  refine backed_read ?_
  simp only
  split
  · exact hpark d1 h1.unwitnessed
  rename_i j hj
  have hj' : j.schema = schemaVersion := Controller.rollbackBase_schema hschema hj
  refine backed_guarded (h1.journal_settled hj') (fun _ d2 h2 => hpark d2 h2.unwitnessed) ?_
  rintro - d2 ⟨h2, hpresent⟩
  refine backed_ite (fun _ => hpark d2 h2.unwitnessed) fun _ => ?_
  refine backed_runtime (h2.authorised hpresent) (hpark d2 h2.unwitnessed) ?_
  exact reloadTail_backed hj' (atRest_reloaded h2.applied) h2.unwitnessed h.bound (by rintro - ⟨⟩)
    hpark (fun d' hw => park_backed (fun _ => trivial) h.bound fun _ => .inr (.inl hw))
    fun _ _ => backed_ret trivial

/-- A live External route without a journal and without a witness. -/
structure LiveExternal (c : Controller) (A : Aims) (s : State) (d : Disk) : Prop where
  read : c.store.read d = .ok (s, false)
  phase : s.phase = .relayActive
  applied : s.appliedBackend = .external
  unwitnessed : d.runtimeRouting = .absent
  bound : A.grows → s.boundCodexConfigPath = c.codexConfigPath

theorem LiveExternal.desired (h : LiveExternal c A s d) : s.desiredBackend = .external := by
  have hshape := (Store.read_wellFormed h.read).shape
  simp only [State.phaseShape, h.phase, Bool.and_eq_true, decide_eq_true_eq] at hshape
  exact hshape.2.trans h.applied

/-- **The forward path** waits beside its journal; nothing is said about that wait here. -/
theorem gatewayReload_backed {current candidate : Config} (hA : ¬ A.waits)
    (h : LiveExternal c A s d) :
    Backed c A none (c.applyGatewayReloadLocked s current candidate) Whatever d := by
  have hinert := settled_inert c A
  refine backed_unless fun _ => ?_
  refine backed_read ?_
  split
  swap
  · exact backed_ret trivial
  refine backed_guarded (Frames.outcome (createGatewayBackup_inert (hinert none)) d)
    (fun _ _ _ => backed_ret trivial) fun _ d1 hd1 => ?_
  have hw1 := (same_witness hd1).trans h.unwitnessed
  refine backed_unless fun _ => ?_
  -- the `applying` state admits nothing, and there is no witness
  refine backed_guarded (save_stays h.bound fun _ => .inl ?_) (fun e d2 _ => ?_) fun _ d2 hd2 => ?_
  · rw [hw1]
    exact State.backing_unwitnessed (.inl rfl)
  · exact backed_bind (removeGatewayBackup_inert (hinert none) d2) fun _ _ _ => backed_ret trivial
  have h2 : Reloading c A { s with phase := .applying, generation := s.generation + 1 } d2 :=
    ⟨h.applied, hd2.runtimeRouting.trans hw1, h.bound, fun _ => ⟨hd2.read, rfl, h.desired⟩⟩
  generalize ({ s with phase := .applying, generation := s.generation + 1 } : State) = applying
    at h2 ⊢
  have hroll : ∀ (j : Option TransactionJournal) (cause : Err) (d' : Disk),
      Reloading c A applying d' → (∀ j' ∈ j, TransactionJournal.schema j' = schemaVersion) →
      Backed c A none (c.rollbackGatewayReloadLocked applying current j cause) Whatever d' :=
    fun _ _ _ h' hj => rollbackReload_backed h' hj
  refine backed_guarded (newJournal_fresh d2) ?_ ?_
  · rintro e _ rfl
    exact hroll none _ _ h2 fun _ hj => by cases hj
  rintro fresh _ ⟨rfl, hfresh⟩
  have hschema : ∀ j : TransactionJournal, j.schema = fresh.schema →
      ∀ j' ∈ some j, TransactionJournal.schema j' = schemaVersion := by
    rintro j hj _ ⟨⟩
    exact hj.trans hfresh
  refine backed_guarded (h2.journal_settled ?_)
    (fun _ d4 h4 => hroll _ _ d4 h4 (hschema _ rfl)) ?_
  · exact hfresh
  rintro - d4 ⟨h4, -⟩
  refine backed_question ((hinert none).asked _ rfl) (hroll _ _ _ h4 (hschema _ rfl)) ?_
  refine backed_guarded (Frames.outcome (writeConfig_inert (hinert none)) _)
    (fun _ d6 hd6 => hroll _ _ d6 (h4.routing hd6) (hschema _ rfl)) fun _ d6 hd6 => ?_
  refine backed_guarded ((h4.routing hd6).journal_settled ?_)
    (fun _ d7 h7 => hroll _ _ d7 h7 (hschema _ rfl)) ?_
  · exact hfresh
  rintro - d7 ⟨h7, hj7⟩
  refine backed_question ((hinert none).asked _ rfl) (hroll _ _ _ h7 (hschema _ rfl)) ?_
  refine backed_runtime (h7.authorised hj7) (hroll _ _ _ h7 (hschema _ rfl)) ?_
  -- after the confirmation: the final state, the wait, and only then the journal
  have hfinal := atRest_reloaded h7.applied
  have hpark : ∀ {m : Option Backend} (s' : State) (cause : Err) (d' : Disk),
      s'.boundCodexConfigPath = applying.boundCodexConfigPath → d'.runtimeRouting = .absent →
      Backed c A m (c.parkGatewayReloadLocked s' cause : Op (Except Err GatewayApplyReceipt))
        Whatever d' :=
    fun s' cause d' hs hw => park_backed (fun _ => trivial) (hs ▸ h7.bound) fun _ => .inr (.inl hw)
  refine backed_guarded (save_rests hfinal h7.bound)
    (fun _ d8 hd8 => hpark _ _ d8 rfl (h7.routing hd8).unwitnessed) fun _ d8 hd8 => ?_
  have hw8 := hd8.runtimeRouting.trans h7.unwitnessed
  refine backed_question ⟨fun _ => trivial, fun hw => absurd hw hA, fun _ => trivial⟩
    (hpark _ _ _ rfl hw8) ?_
  refine backed_ite (fun _ => hpark _ _ _ rfl hw8) fun _ => ?_
  have hr9 : c.store.read { d8 with journal := .absent } = .ok _ := read_congr hd8.read rfl
  refine backed_guarded (removeJournal_settled fun _ => settles_atRest hfinal hr9) ?_ ?_
  · rintro _ _ rfl
    exact hpark _ _ _ rfl hw8
  rintro - _ rfl
  refine backed_guarded (Frames.outcome (removeGatewayBackup_inert (hinert _)) _)
    (fun _ d10 hd10 => ?_) fun _ _ _ => backed_ret trivial
  refine rewrite_backed ?_ hfinal (read_congr hr9 (same_state hd10))
    ((same_witness hd10).trans hw8) fun d' hw => hpark _ _ d' rfl hw
  exact hfresh

end OpenCodexRelay.Routing
