/-
  The maintenance protocol is safe.

  The three positions of a maintenance transaction are the generations its journal names: the origin
  g, the prepared g+1 and the final g+2.  Requests are repeated, time out and die; what makes them
  safe is that no request trusts its caller:

  1. `InMaintenance`: while the journal exists, the routing state is at one of the three positions.
     Every write of every request keeps it (`enterMaintenance_spec`, `saveFinal_spec`), so a crash
     anywhere leaves a transaction that can be continued.
  2. At none of the three positions is traffic admitted by the resident relay: at g+1 the state itself
     says `applying`, at g and g+2 the journal beside it makes `Refresh` refuse the state.
  3. `finish` lets the runtime go on only after everything is durable, and what it verified is what
     it prepared last; `Orderly` says so about the order of events.
  4. A request that names another transaction is refused before it writes.
-/
import OpenCodexRelay.Routing.Maintenance

namespace OpenCodexRelay.Routing

open Durable

/-! ## The three positions -/

/-- The route a maintenance leaves alone. -/
structure AppleRoute (s : State) : Prop where
  desiredBackend : s.desiredBackend = .localAppleContainer
  appliedBackend : s.appliedBackend = .localAppleContainer
  desiredMode : s.desiredMode = .relay
  appliedMode : s.appliedMode = .relay

variable {s : State} {j : MaintenanceJournal} {w : MaintenanceWitness} {d d' : Disk} {st : Store}

theorem stableAppleState_iff :
    stableAppleState s = true ↔ s.phase = .relayActive ∧ AppleRoute s := by
  unfold stableAppleState
  simp only [Bool.and_eq_true, decide_eq_true_eq]
  constructor
  · rintro ⟨⟨⟨⟨hp, hdm⟩, ham⟩, hdb⟩, hab⟩
    exact ⟨hp, hdb, hab, hdm, ham⟩
  · rintro ⟨hp, hdb, hab, hdm, ham⟩
    exact ⟨⟨⟨⟨hp, hdm⟩, ham⟩, hdb⟩, hab⟩

/-- **Where a journal puts the state.** -/
theorem MaintenanceJournal.matchesState_iff :
    j.matchesState s = true ↔ j.witness.valid = true ∧ AppleRoute s ∧
      (s.generation = j.witness.originRoutingGeneration ∧ s.phase = .relayActive ∨
        s.generation ≠ j.witness.originRoutingGeneration ∧
          s.generation = j.witness.preparedRoutingGeneration ∧ s.phase = .applying ∨
        s.generation ≠ j.witness.originRoutingGeneration ∧
          s.generation ≠ j.witness.preparedRoutingGeneration ∧
          s.generation = j.witness.finalRoutingGeneration ∧ s.phase = .relayActive) := by
  have hroute : AppleRoute s ↔ s.desiredBackend = .localAppleContainer ∧
      s.appliedBackend = .localAppleContainer ∧ s.desiredMode = .relay ∧ s.appliedMode = .relay :=
    ⟨fun h => ⟨h.1, h.2, h.3, h.4⟩, fun h => ⟨h.1, h.2.1, h.2.2.1, h.2.2.2⟩⟩
  rw [hroute]
  unfold matchesState
  grind

open MaintenanceJournal (matchesState_iff)

/-- The generations of a valid witness are three in a row. -/
theorem MaintenanceWitness.valid_generations (h : w.valid = true) :
    w.preparedRoutingGeneration.toNat = w.originRoutingGeneration.toNat + 1 ∧
      w.finalRoutingGeneration.toNat = w.originRoutingGeneration.toNat + 2 := by
  unfold valid at h
  simp only [Bool.and_eq_true, decide_eq_true_eq] at h
  obtain ⟨⟨⟨⟨-, hle⟩, hprepared⟩, hfinal⟩, -⟩ := h
  have hbound : w.originRoutingGeneration.toNat ≤ 2 ^ 64 - 3 := by
    rw [UInt64.le_iff_toNat_le] at hle
    exact hle
  rw [hfinal, hprepared]
  simp only [UInt64.toNat_add, UInt64.reduceToNat]
  omega

theorem MaintenanceWitness.valid_ne (h : w.valid = true) :
    w.preparedRoutingGeneration ≠ w.originRoutingGeneration ∧
      w.finalRoutingGeneration ≠ w.originRoutingGeneration ∧
      w.finalRoutingGeneration ≠ w.preparedRoutingGeneration := by
  have hgen := valid_generations h
  refine ⟨fun heq => ?_, fun heq => ?_, fun heq => ?_⟩
  all_goals
    rw [heq] at hgen
    omega

theorem newMaintenanceWitness_valid {generation : UInt64} {intent : Intent}
    (h : newMaintenanceWitness generation intent = some w) :
    w.valid = true ∧ w.originRoutingGeneration = generation := by
  unfold newMaintenanceWitness at h
  split_ifs at h with hbad
  cases h
  simp only [not_or, Bool.not_eq_true, Bool.not_eq_false', UInt64.not_lt] at hbad
  obtain ⟨hzero, hroom, hintent⟩ := hbad
  refine ⟨?_, rfl⟩
  have hsum : generation + 2 = generation + 1 + 1 := by
    rw [UInt64.add_assoc]
    rfl
  simp [MaintenanceWitness.valid, hzero, hintent, hsum, hroom]

/-- A transaction is open: the journal is on disk and the state at one of its positions. -/
structure InMaintenance (st : Store) (j : MaintenanceJournal) (s : State) (d : Disk) : Prop where
  read : st.read d = .ok (s, false)
  journal : d.maintenance = .record j
  valid : j.valid st.configPath = true
  position : j.matchesState s = true

/-- No transaction is open, and the Apple route is stable. -/
structure Idle (st : Store) (s : State) (d : Disk) : Prop where
  read : st.read d = .ok (s, false)
  journal : d.maintenance = .absent
  stable : stableAppleState s = true

/-- **The invariant.** -/
def Tracked (st : Store) (d : Disk) : Prop :=
  ∃ s, Idle st s d ∨ ∃ j, InMaintenance st j s d

theorem InMaintenance.tracked (h : InMaintenance st j s d) : Tracked st d := ⟨s, .inr ⟨j, h⟩⟩

theorem Idle.tracked (h : Idle st s d) : Tracked st d := ⟨s, .inl h⟩

namespace InMaintenance

variable {next : State} (h : InMaintenance st j s d)
include h

theorem witness_valid : j.witness.valid = true :=
  (matchesState_iff.mp h.position).1

theorem route : AppleRoute s :=
  (matchesState_iff.mp h.position).2.1

theorem load : st.loadMaintenance d = .ok (some j) := by
  unfold Store.loadMaintenance
  rw [h.journal]
  simp [h.valid]

theorem congr (hs : d'.state = d.state)
    (hm : d'.maintenance = d.maintenance) : InMaintenance st j s d' :=
  ⟨Store.read_congr h.read hs, hm.trans h.journal, h.valid, h.position⟩

theorem withState
    (hn : next.WellFormed st.paths st.configPath) (hmatch : j.matchesState next = true) :
    InMaintenance st j next (d.withState next) :=
  ⟨Store.read_withState hn, h.journal, h.valid, hmatch⟩

/-- The position after the origin. -/
theorem applying :
    j.matchesState (MaintenanceCoordinator.applyingState j.witness s) = true := by
  obtain ⟨hprepared, -⟩ := MaintenanceWitness.valid_ne h.witness_valid
  exact matchesState_iff.mpr ⟨h.witness_valid,
    ⟨h.route.1, h.route.2, h.route.3, h.route.4⟩, .inr (.inl ⟨hprepared, rfl, rfl⟩)⟩

/-- The last position. -/
theorem final :
    j.matchesState (MaintenanceCoordinator.finalState j.witness s) = true := by
  obtain ⟨-, horigin, hprepared⟩ := MaintenanceWitness.valid_ne h.witness_valid
  exact matchesState_iff.mpr ⟨h.witness_valid,
    ⟨h.route.1, h.route.2, h.route.3, h.route.4⟩, .inr (.inr ⟨horigin, hprepared, rfl, rfl⟩)⟩

/-- In a transaction the generation is between the origin and two more. -/
theorem generation_le :
    j.witness.originRoutingGeneration.toNat ≤ s.generation.toNat ∧
      s.generation.toNat ≤ j.witness.originRoutingGeneration.toNat + 2 := by
  have hgen := MaintenanceWitness.valid_generations h.witness_valid
  obtain ⟨-, -, hpos⟩ := matchesState_iff.mp h.position
  rcases hpos with ⟨hg, -⟩ | ⟨-, hg, -⟩ | ⟨-, -, hg, -⟩
  · rw [hg]
    omega
  · rw [hg]
    omega
  · rw [hg]
    omega

/-- **Nothing is admitted**, wherever the transaction stands and whatever the hooks say. -/
theorem denies {w : Watcher} (hw : w.store = st) :
    (w.refresh d).state.allowsDataPlane = false := by
  subst hw
  unfold Watcher.refresh
  rw [h.read]
  simp only
  split_ifs with haccepts
  · -- only a state that is `applying` passes beside a maintenance journal
    have hphase : s.phase = .applying := by
      unfold Watcher.accepts at haccepts
      rw [h.load] at haccepts
      split at haccepts
      · rename_i transaction maintenance runtimeRouting _ hm _
        cases hm
        simp only [Option.all_some, Bool.and_eq_true, decide_eq_true_eq] at haccepts
        tauto
      · cases haccepts
    simp [State.allowsDataPlane, hphase]
  · rfl

end InMaintenance

/-! ## The writes -/

/-- A verification was answered yes, and the runtime has not been prepared again since. -/
def VerifiedSince (past : List Observed) : Prop :=
  ∃ before operation after, past = before ++ .answered (.runtimeVerify operation) true :: after ∧
    ∀ d, .asked .runtimePrepare d ∉ after

/-- **What every event has to meet.** A write leaves a tracked disk; the runtime is resumed only at
    the final generation, with the journal gone, after a verification. -/
def Orderly (st : Store) (final : UInt64) (past : List Observed) : Observed → Prop
  | .wrote _ d => Tracked st d
  | .asked .runtimeResume d => (∃ s, Idle st s d ∧ s.generation = final) ∧ VerifiedSince past
  | _ => True

/-- An event that does not concern the runtime. -/
def Plain (st : Store) : Observed → Prop
  | .wrote _ d => Tracked st d
  | .asked .runtimeResume _ | .asked .runtimePrepare _ | .asked (.runtimeVerify _) _ => False
  | _ => True

theorem Plain.orderly {final : UInt64} {past : List Observed} {e : Observed} (h : Plain st e) :
    Orderly st final past e := by
  cases e with
  | wrote d d' => exact h
  | answered q a => exact trivial
  | asked q d =>
    cases q with
    | runtimeResume => exact h.elim
    | _ => exact trivial

namespace MaintenanceCoordinator

variable {m : MaintenanceCoordinator} {E : Env Disk Query (fun _ => Bool)}
variable {j : MaintenanceJournal} {s next : State} {d : Disk}

/-- A save to another position of the same transaction. -/
theorem save_inMaintenance (h : InMaintenance m.store j s d) (hmatch : j.matchesState next = true) :
    Safe E (Plain m.store) (m.store.save next)
      (outcome (fun _ => InMaintenance m.store j next) fun _ => InMaintenance m.store j s) d := by
  have hmarked : InMaintenance m.store j s d.marked := h.congr rfl rfl
  refine safe_save (fun hchecked => ?_) fun _ => h
  have hnext : InMaintenance m.store j next (d.marked.withState next) :=
    hmarked.withState hchecked.wellFormed hmatch
  refine ⟨trivial, hmarked.tracked, trivial, hnext.tracked, hnext, ?_⟩
  rintro d' (rfl | rfl) e
  · exact h
  · exact hmarked

theorem enterMaintenance_plain (h : InMaintenance m.store j s d) :
    Safe E (Plain m.store) (m.enterMaintenance j.witness s)
      (outcome (fun s' d' => InMaintenance m.store j s' d' ∧
        s'.generation ≠ j.witness.originRoutingGeneration) fun _ => Tracked m.store) d := by
  unfold enterMaintenance
  refine safe_if (fun _ => ?_) fun hlater => ⟨h, hlater⟩
  refine safe_attempt_of (save_inMaintenance h h.applying) (fun _ _ h' => h'.tracked)
    fun _ d' h' => ⟨h', ?_⟩
  exact (MaintenanceWitness.valid_ne h.witness_valid).1

/-- Past the origin, the final state is made durable or already is. -/
theorem saveFinal_plain (h : InMaintenance m.store j s d)
    (hlater : s.generation ≠ j.witness.originRoutingGeneration) :
    Safe E (Plain m.store) (m.saveFinal j.witness s)
      (outcome (fun _ d' => ∃ s', InMaintenance m.store j s' d' ∧
        s'.generation = j.witness.finalRoutingGeneration ∧ s'.phase = .relayActive)
        fun _ => Tracked m.store) d := by
  unfold saveFinal
  refine safe_if (fun _ => ?_) fun hnot => ?_
  · refine (save_inMaintenance h h.final).post_mono fun r d' h' => ?_
    cases r with
    | error e => exact InMaintenance.tracked h'
    | ok u => exact ⟨_, h', rfl, rfl⟩
  · obtain ⟨-, -, hpos⟩ := matchesState_iff.mp h.position
    rcases hpos with ⟨hg, -⟩ | ⟨-, hg, -⟩ | ⟨-, -, hg, hphase⟩
    · exact absurd hg hlater
    · exact absurd hg hnot
    · exact ⟨s, h, hg, hphase⟩

variable {final : UInt64}

theorem removeMaintenance_plain (h : InMaintenance m.store j s d) (hgen : s.generation = final)
    (hphase : s.phase = .relayActive) :
    Safe E (Plain m.store) removeMaintenance
      (outcome (fun _ d' => ∃ s', Idle m.store s' d' ∧ s'.generation = final)
        fun _ => Tracked m.store) d := by
  have hidle : Idle m.store s { d with maintenance := .absent } :=
    ⟨Store.read_congr h.read rfl, rfl, stableAppleState_iff.mpr ⟨hphase, h.route⟩⟩
  refine safe_read.mpr ?_
  rw [h.journal]
  exact safe_store trivial hidle.tracked ⟨s, hidle, hgen⟩ h.tracked

/-- A journal of a request that was found in order. -/
theorem writeMaintenance_plain {w : MaintenanceWitness} (h : Idle m.store s d)
    (hw : w.valid = true) (hgen : s.generation = w.originRoutingGeneration) :
    Safe E (Plain m.store)
      (m.store.writeMaintenance ⟨maintenanceSchemaVersion, m.store.configPath, w⟩)
      (outcome (fun _ => InMaintenance m.store ⟨maintenanceSchemaVersion, m.store.configPath, w⟩ s)
        fun _ => Tracked m.store) d := by
  unfold Store.writeMaintenance
  refine safe_if (fun hvalid => ?_) fun _ => h.tracked
  obtain ⟨hphase, hroute⟩ := stableAppleState_iff.mp h.stable
  have hopen : InMaintenance m.store ⟨maintenanceSchemaVersion, m.store.configPath, w⟩ s
      { d with maintenance := .record ⟨maintenanceSchemaVersion, m.store.configPath, w⟩ } :=
    ⟨Store.read_congr h.read rfl, rfl, hvalid,
      matchesState_iff.mpr ⟨hw, hroute, .inl ⟨hgen, hphase⟩⟩⟩
  exact safe_store trivial hopen.tracked hopen h.tracked

/-! ## The requests -/

/-- An event of a preparation: nothing is resumed. -/
def Preparing (st : Store) : Observed → Prop
  | .wrote _ d => Tracked st d
  | .asked .runtimeResume _ => False
  | _ => True

theorem Plain.preparing {e : Observed} (h : Plain m.store e) : Preparing m.store e := by
  cases e with
  | wrote d d' => exact h
  | answered q a => exact trivial
  | asked q d =>
    cases q with
    | runtimeResume => exact h
    | _ => exact trivial

variable {past : List Observed}

theorem Preparing.orderly {e : Observed} (h : Preparing m.store e) :
    Orderly m.store final past e := by
  cases e with
  | wrote d d' => exact h
  | answered q a => exact trivial
  | asked q d =>
    cases q with
    | runtimeResume => exact h.elim
    | _ => exact trivial

theorem drain_preparing {w : MaintenanceWitness} :
    Safe E (Preparing m.store) (drain w) (fun _ _ => True) d := by
  have hask : Safe E (Preparing m.store) (require .runtimePrepare .maintenanceRecoveryRequired)
      (outcome (fun _ _ => True) fun _ _ => True) d := safe_require trivial trivial trivial
  exact safe_attempt_ok hask fun _ _ _ => trivial

theorem repeatPrepare_preparing {generation : UInt64} {intent : Intent}
    (h : InMaintenance m.store j s d) :
    Safe E (Preparing m.store) (m.repeatPrepare j s generation intent) (fun _ _ => True) d := by
  unfold repeatPrepare
  simp only
  refine safe_if (fun _ => trivial) fun _ => ?_
  exact safe_guarded_of ((enterMaintenance_plain h).mono (fun _ => Plain.preparing) fun _ _ hp => hp)
    (fun _ _ _ => trivial) fun _ d' _ => drain_preparing

theorem beginPrepare_preparing {generation : UInt64} {intent : Intent} (h : Idle m.store s d) :
    Safe E (Preparing m.store) (m.beginPrepare s generation intent) (fun _ _ => True) d := by
  unfold beginPrepare
  refine safe_if (fun _ => trivial) fun hok => ?_
  have hgen : s.generation = generation := by
    by_contra hne
    exact hok (.inr hne)
  split
  · exact trivial
  · rename_i w hw
    obtain ⟨hvalid, horigin⟩ := newMaintenanceWitness_valid hw
    refine safe_attempt_of ((writeMaintenance_plain h hvalid (hgen.trans horigin.symm)).mono
      (fun _ => Plain.preparing) fun _ _ hp => hp) (fun _ _ _ => trivial) fun _ d' hj => ?_
    refine safe_guarded_of ((save_inMaintenance hj hj.applying).mono (fun _ => Plain.preparing)
      fun _ _ hp => hp) (fun _ _ _ => trivial) fun _ d'' _ => drain_preparing

/-- What the loaders say of a tracked disk. -/
theorem tracked_cases (h : Tracked m.store d) (hr : m.store.read d = .ok (s, false)) :
    (m.store.loadMaintenance d = .ok none ∧ Idle m.store s d) ∨
      ∃ j, m.store.loadMaintenance d = .ok (some j) ∧ InMaintenance m.store j s d := by
  obtain ⟨s', hidle | ⟨j, hj⟩⟩ := h
  · have hsame := hidle.read.symm.trans hr
    simp only [Except.ok.injEq, Prod.mk.injEq, and_true] at hsame
    subst hsame
    refine .inl ⟨?_, hidle⟩
    unfold Store.loadMaintenance
    rw [hidle.journal]
  · have hsame := hj.read.symm.trans hr
    simp only [Except.ok.injEq, Prod.mk.injEq, and_true] at hsame
    subst hsame
    exact .inr ⟨j, hj.load, hj⟩

theorem prepare_preparing (h : Tracked m.store d) (generation : UInt64) (intent : Intent) :
    Safe E (Preparing m.store) (m.prepare generation intent) (fun _ _ => True) d := by
  unfold prepare
  refine safe_if (fun _ => trivial) fun _ => ?_
  refine safe_read.mpr ?_
  split
  · split
    · exact trivial
    · rename_i existing hload
      split
      · rename_i s hs
        split
        · rcases tracked_cases h hs with ⟨hnone, hidle⟩ | ⟨j, hsome, hj⟩
          · rw [hnone] at hload
            cases hload
            exact beginPrepare_preparing hidle
          · rw [hsome] at hload
            cases hload
            exact repeatPrepare_preparing hj
        · exact trivial
      · exact trivial
  · exact trivial

/-- Nothing the verified past is followed by prepares the runtime again. -/
theorem VerifiedSince.append {later : List Observed} (h : VerifiedSince past)
    (hlater : ∀ e ∈ later, Meets (Plain m.store) e) : VerifiedSince (past ++ later) := by
  obtain ⟨before, operation, after, rfl, hafter⟩ := h
  refine ⟨before, operation, after ++ later, by rw [List.append_assoc, List.cons_append],
    fun d hmem => ?_⟩
  rcases List.mem_append.mp hmem with hmem | hmem
  · exact hafter d hmem
  · exact hlater _ hmem

/-- A plain part of an orderly request. -/
theorem traced_plain {α β : Type} {p : Op (Except Err α)} {fail : Err → Op β} {k : α → Op β}
    {ok : α → Disk → Prop} {err : Err → Disk → Prop}
    (h : Safe E (Plain m.store) p (outcome ok err) d)
    (hfail : ∀ e d' past', Traced E (Orderly m.store final) (fail e) (fun _ _ _ => True) d' past')
    (hk : ∀ a d' later, ok a d' → (∀ e ∈ later, Meets (Plain m.store) e) → Traced E (Orderly m.store final) (k a) (fun _ _ _ => True) d' (past ++ later)) :
    Traced E (Orderly m.store final) (guarded p fail k) (fun _ _ _ => True) d past := by
  refine traced_guarded ((h.traced past).mono (fun _ _ => Plain.orderly) ?_)
  rintro (e | a) d' past' ⟨hpost, later, rfl, hlater⟩
  · exact hfail e d' _
  · exact hk a d' later hpost hlater

/-- **The second half of a maintenance** is orderly: prepared, verified, durable, and only then
    resumed. -/
theorem finishFrom_orderly {operation : ControlOperation} (h : InMaintenance m.store j s d) :
    Traced E (Orderly m.store j.witness.finalRoutingGeneration) (m.finishFrom operation j.witness s)
      (fun _ _ _ => True) d past := by
  unfold finishFrom
  refine traced_plain (enterMaintenance_plain h) (fun _ _ _ => trivial) fun s' d1 later hs' _ => ?_
  refine traced_guarded ⟨trivial, fun prepared _ => ?_⟩
  cases prepared with
  | false => exact trivial
  | true =>
    refine traced_guarded ⟨trivial, fun verified _ => ?_⟩
    cases verified with
    | false => exact trivial
    | true =>
      -- from here on the past ends with the verification
      have hverified : ∀ past : List Observed, VerifiedSince (past ++
          [.asked (.runtimeVerify operation) d1, .answered (.runtimeVerify operation) true]) := by
        intro past
        refine ⟨past ++ [.asked (.runtimeVerify operation) d1], operation, [], ?_, by simp⟩
        rw [List.append_assoc]
        rfl
      refine traced_plain (saveFinal_plain hs'.1 hs'.2) (fun _ _ _ => trivial)
        fun _ d2 saved ⟨s2, hj2, hgen, hphase⟩ hsaved => ?_
      refine traced_plain (removeMaintenance_plain hj2 hgen hphase) (fun _ _ _ => trivial)
        fun _ d3 removed hidle hremoved => ?_
      refine ⟨⟨hidle, ?_⟩, fun _ _ => trivial⟩
      exact VerifiedSince.append (VerifiedSince.append (hverified _) hsaved) hremoved

theorem finish_orderly (h : Tracked m.store d) (operation : ControlOperation)
    (w : MaintenanceWitness) (past : List Observed) :
    Traced E (Orderly m.store w.finalRoutingGeneration) (m.finish operation w)
      (fun _ _ _ => True) d past := by
  unfold finish
  split_ifs
  · exact trivial
  rw [Traced]
  split
  · rename_i j hload
    split_ifs with hother
    · exact trivial
    split
    · rename_i s hs
      split_ifs
      · exact trivial
      rcases tracked_cases h hs with ⟨hnone, -⟩ | ⟨j', hsome, hj⟩
      · rw [hnone] at hload
        cases hload
      · rw [hsome] at hload
        cases hload
        have hw : w = j.witness := by
          by_contra hne
          exact hother fun heq => hne heq.symm
        subst hw
        exact finishFrom_orderly hj
    · exact trivial
  · exact trivial

end MaintenanceCoordinator

/-! ## Histories -/

inductive MaintenanceRequest where
  | prepare (generation : UInt64) (intent : Intent)
  | commit (w : MaintenanceWitness)
  | rollback (w : MaintenanceWitness)

namespace MaintenanceRequest

def Result : MaintenanceRequest → Type
  | .prepare _ _ => Except Err MaintenanceWitness
  | .commit _ | .rollback _ => Except Err Unit

def prog (m : MaintenanceCoordinator) : (r : MaintenanceRequest) → Op r.Result
  | .prepare generation intent => m.prepare generation intent
  | .commit w => m.commit w
  | .rollback w => m.rollback w

/-- The request is about the recorded transaction. -/
def Names (j : MaintenanceJournal) : MaintenanceRequest → Prop
  | .prepare generation intent =>
    j.witness.originRoutingGeneration = generation ∧ j.witness.intent = intent
  | .commit w | .rollback w => j.witness = w

/-- The generation at which the request ends the maintenance. -/
def final : MaintenanceRequest → UInt64
  | .prepare generation _ => generation + 2
  | .commit w | .rollback w => w.finalRoutingGeneration

end MaintenanceRequest

/-- Any requests, one after the other, each of which may die anywhere and meet any failure. -/
def MaintenanceCoordinator.maintenanceSystem (m : MaintenanceCoordinator) :
    System Disk Query (fun _ => Bool) MaintenanceRequest where
  Result := MaintenanceRequest.Result
  prog := MaintenanceRequest.prog m
  env := anyReply
  allowed := fun _ _ => True
  other := fun _ _ => False

section Histories

variable {m : MaintenanceCoordinator}

theorem MaintenanceRequest.orderly (h : Tracked m.store d) (r : MaintenanceRequest) :
    Traced anyReply (Orderly m.store r.final) (r.prog m) (fun _ _ _ => True) d [] := by
  cases r with
  | prepare generation intent =>
    have hsafe := MaintenanceCoordinator.prepare_preparing (E := anyReply) h generation intent
    exact (hsafe.traced []).mono (fun _ _ => MaintenanceCoordinator.Preparing.orderly)
      fun _ _ _ _ => trivial
  | commit w => exact MaintenanceCoordinator.finish_orderly h .maintenanceCommit w []
  | rollback w => exact MaintenanceCoordinator.finish_orderly h .maintenanceRollback w []

theorem tracked_reachable (h0 : Tracked m.store d) (h : m.maintenanceSystem.Reachable d d') :
    Tracked m.store d' := by
  refine System.reachable_inv _ h0 (fun r s s' _ hs hstop => ?_) (fun _ _ _ (hno : False) => hno.elim) h
  have hsafe : Safe anyReply (fun e => ∀ d d', e = .wrote d d' → Tracked m.store d') (r.prog m)
      (fun a s' => ∃ past, (fun _ _ _ => True : r.Result → Disk → List Observed → Prop) a s' past)
      s := by
    refine (r.orderly hs).safe fun past e he d d' heq => ?_
    subst heq
    exact he
  exact stops_of_safe hsafe (fun d d' hw _ => hw d d' rfl) hs hstop

theorem finish_inert {operation : ControlOperation} (h : InMaintenance m.store j s d)
    (hw : j.witness ≠ w) :
    Safe anyReply (fun e => ∀ d d', e ≠ .wrote d d') (m.finish operation w) (fun _ _ => True) d := by
  unfold MaintenanceCoordinator.finish
  refine safe_if (fun _ => trivial) fun _ => ?_
  refine safe_read.mpr ?_
  rw [h.load]
  simp only
  rw [if_pos hw]
  exact trivial

theorem prepare_inert {generation : UInt64} {intent : Intent} (h : InMaintenance m.store j s d)
    (hr : ¬ (j.witness.originRoutingGeneration = generation ∧ j.witness.intent = intent)) :
    Safe anyReply (fun e => ∀ d d', e ≠ .wrote d d') (m.prepare generation intent)
      (fun _ _ => True) d := by
  unfold MaintenanceCoordinator.prepare
  refine safe_if (fun _ => trivial) fun _ => ?_
  refine safe_read.mpr ?_
  rw [h.load, h.read]
  split
  · simp only
    split
    · unfold MaintenanceCoordinator.repeatPrepare
      simp only
      rw [if_pos]
      · exact trivial
      · by_contra hnot
        simp only [not_or, not_not] at hnot
        exact hr ⟨hnot.1, hnot.2.1⟩
    · exact trivial
  · exact trivial

/-- **Another transaction's request** writes nothing. -/
theorem InMaintenance.foreign (h : InMaintenance m.store j s d) {r : MaintenanceRequest}
    (hr : ¬ r.Names j) (hstop : Stops anyReply (r.prog m) d d') : d' = d := by
  have hinert : Safe anyReply (fun e => ∀ d d', e ≠ .wrote d d') (r.prog m) (fun _ _ => True) d := by
    cases r with
    | prepare generation intent => exact prepare_inert h hr
    | commit w => exact finish_inert h hr
    | rollback w => exact finish_inert h hr
  exact stops_of_safe (I := fun x => x = d) hinert (fun a b hw _ => absurd rfl (hw a b)) rfl hstop

end Histories

/-- **The maintenance protocol is safe**, in every history of requests, crashes and failures that
    starts on a stable Apple route.  While a journal exists the state is at one of its positions, at
    most two generations beyond the origin, and nothing is admitted; the runtime is resumed only with
    the journal gone and the final state durable, after a verification of what was prepared last; and
    another transaction's request leaves every file as it is. -/
theorem maintenance_protocol_safe (m : MaintenanceCoordinator) {d₀ d : Disk} {s₀ : State}
    (hstart : m.store.read d₀ = .ok (s₀, false)) (hstable : stableAppleState s₀ = true)
    (hnone : d₀.maintenance = .absent) (h : m.maintenanceSystem.Reachable d₀ d) :
    (d.maintenance ≠ .absent → ∃ j s, m.store.loadMaintenance d = .ok (some j) ∧
      m.store.read d = .ok (s, false) ∧ j.matchesState s = true ∧
      s.generation.toNat ≤ j.witness.originRoutingGeneration.toNat + 2 ∧
      (∀ w : Watcher, w.store = m.store → (w.refresh d).state.allowsDataPlane = false) ∧
      ∀ r d', ¬ MaintenanceRequest.Names j r → Stops anyReply (r.prog m) d d' → d' = d) ∧
    ∀ (r : MaintenanceRequest) (before rest : List Observed) (d' d'' : Disk),
      Exec anyReply (r.prog m) d (before ++ .asked .runtimeResume d' :: rest) d'' →
      d'.maintenance = .absent ∧
      (∃ s, m.store.read d' = .ok (s, false) ∧ s.phase = .relayActive ∧ s.generation = r.final) ∧
      VerifiedSince before := by
  have htracked : Tracked m.store d :=
    tracked_reachable (Idle.tracked ⟨hstart, hnone, hstable⟩) h
  refine ⟨fun hpresent => ?_, fun r before rest d' d'' hx => ?_⟩
  · obtain ⟨s, hidle | ⟨j, hj⟩⟩ := htracked
    · exact absurd hidle.journal hpresent
    · exact ⟨j, s, hj.load, hj.read, hj.position, hj.generation_le.2, fun w hw => hj.denies hw,
        fun r d' hr hstop => hj.foreign hr hstop⟩
  · obtain ⟨⟨s, hidle, hgen⟩, hverified⟩ := exec_traced hx (r.orderly htracked) rfl
    exact ⟨hidle.journal, ⟨s, hidle.read, (stableAppleState_iff.mp hidle.stable).1, hgen⟩, hverified⟩

namespace Sample

/-- A maintenance of the container `intent` activated. -/
def upgrade : Intent :=
  { intent with
    operationID := "operation-000002"
    oldManifestSHA256 := intent.newManifestSHA256
    newManifestSHA256 := "cccccccccccccccccccccccccccccccccccccccccccccccccccccccccccccccc"
    oldImageDigest := intent.newImageDigest
    newImageDigest := "sha256:dddddddddddddddddddddddddddddddddddddddddddddddddddddddddddddddd"
    oldStateGeneration := 1
    newStateGeneration := 2 }

def maintainer : MaintenanceCoordinator := ⟨store, ⟨store, none, none, none⟩, rfl⟩

def appleActive : Disk :=
  routed "apple" (state 5 .localAppleContainer .localAppleContainer .relayActive)

/-- The maintenance dies right after its journal. -/
def underMaintenance : Disk := halt succeed (maintainer.prepare 5 upgrade) 2 appleActive

def upgradeWitness : MaintenanceWitness :=
  ⟨maintenanceSchemaVersion, .localAppleContainer, 5, 6, 7, upgrade⟩

end Sample

open Sample

/-- A preparation that dies beside its journal. -/
theorem maintenance_protocol_safe_interrupted :
    maintainer.store.read appleActive =
      .ok (state 5 .localAppleContainer .localAppleContainer .relayActive, false) ∧
    maintainer.maintenanceSystem.Reachable appleActive underMaintenance ∧
    underMaintenance.maintenance =
      .record ⟨maintenanceSchemaVersion, configPath, upgradeWitness⟩ ∧
    ∃ j s, maintainer.store.loadMaintenance underMaintenance = .ok (some j) ∧
      maintainer.store.read underMaintenance = .ok (s, false) ∧
      j.matchesState s = true := by
  have hread : maintainer.store.read appleActive =
      .ok (state 5 .localAppleContainer .localAppleContainer .relayActive, false) := by
    decide +kernel
  have hreach : maintainer.maintenanceSystem.Reachable appleActive
      underMaintenance :=
    .single (.op (.prepare 5 upgrade) trivial
      (stops_halt succeed (fun _ _ => trivial) _ 2 appleActive))
  have hjournal : underMaintenance.maintenance =
      .record ⟨maintenanceSchemaVersion, configPath, upgradeWitness⟩ := by
    decide +kernel
  refine ⟨hread, hreach, hjournal, ?_⟩
  obtain ⟨j, s, hload, hread', hmatch, -⟩ :=
    (maintenance_protocol_safe maintainer hread (by decide) rfl hreach).1
      (by rw [hjournal]; nofun)
  exact ⟨j, s, hload, hread', hmatch⟩

end OpenCodexRelay.Routing
