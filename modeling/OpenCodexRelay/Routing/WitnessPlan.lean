/-
  The positions a container operation's plan foresees.

  A container operation may stop at any durable write and be taken up again in either direction.
  All that the next call has to go on is the witness, and it refuses to act unless the witness
  matches the state and the journal it finds.  So every position a call can stop at has to be one
  of those the plan in the witness foresees:

      start · requested · applying · parked · final · final parked,   or   start · recovery · …

  1. `matches_*`: one lemma per position, saying what makes `matchesState` accept it.
  2. `Witnessed`: the invariant, and one rule per durable step that keeps it.
  3. `finish_goes`: the switch itself walks along the plan.
  4. `setAttempt_*`: what the plans look like that the attempts make.

  From the switch on, a walk says two things at once.  Whatever the surroundings answer, every
  durable step keeps the invariant; and no error is returned to a call that is `ready`, a
  proposition which makes the surroundings `Calm` and the checks on the files pass.  With `False`
  for it only the first half is left.
-/
import OpenCodexRelay.Routing.RuntimeRouting
import OpenCodexRelay.Routing.Progress

namespace OpenCodexRelay.Routing

open Durable
open RuntimeRoutingJournal (attemptTransactionMatches matchesState setAttempt setRecoveryAttempt validRoute)
open Controller (failApplyingLocked finalState journalFor_eq replacedState)

/-! ## Positions of a plan -/

variable {P : Paths} {w w' : RuntimeRoutingJournal} {b : Backend} {t : Option TransactionJournal}
variable {s : State} {j : TransactionJournal} {config codex : String}
variable {E : Env Disk Query (fun _ => Bool)} {c : Controller} {ready strict : Prop} {d : Disk}
variable {cfg : Config} {g : UInt64}

section Positions

theorem phase_of_stable (h : stableStateForBackend s b = true) :
    s.phase = .nativeActive ∨ s.phase = .relayActive := by
  simp only [stableStateForBackend, Bool.and_eq_true, decide_eq_true_eq] at h
  obtain ⟨⟨⟨⟨⟨-, hphase⟩, -⟩, -⟩, -⟩, -⟩ := h
  split at hphase
  · exact .inl hphase
  · exact .inr hphase

theorem settled_of_stable (h : stableStateForBackend s b = true) :
    s.phase ≠ .applying ∧ s.phase ≠ .recoveryRequired := by
  rcases phase_of_stable h with hphase | hphase <;> simp [hphase]

theorem parked_of_recovery {origin target : Backend}
    (h : recoveryStateForBackends s origin target = true) : s.phase = .recoveryRequired := by
  simp only [recoveryStateForBackends, Bool.and_eq_true, decide_eq_true_eq] at h
  exact h.1.1

theorem not_start_of_generation (h : s.generation ≠ w.attemptStartGeneration) :
    exactRuntimeAttemptStart w s = false := by
  simp [exactRuntimeAttemptStart, h]

variable (hval : s.validateForCodexConfig P w.boundConfigPath w.boundCodexConfigPath = .ok ())
variable (hphase : w.phase = .transitioning)
include hval hphase

theorem matches_start (hs : exactRuntimeAttemptStart w s = true)
    (ht : t.all w.sourceTransactionMatches = true) : w.matchesState P s t = true := by
  simp [matchesState, hval, hphase, hs, ht]

theorem matches_requested (hne : s.generation ≠ w.attemptStartGeneration) (h0 : s.generation ≠ 0)
    (hgen : s.generation = w.attemptRequestedGeneration)
    (hs : pendingStateForBackends s w.attemptOriginBackend w.attemptTargetBackend = true) :
    w.matchesState P s none = true := by
  rw [hgen] at h0
  simp [matchesState, hval, hphase, not_start_of_generation hne, h0, hgen, hs]

/-- The journals an attempt expects next to the states it goes through. -/
def RuntimeRoutingJournal.expects (w : RuntimeRoutingJournal) (t : Option TransactionJournal) :
    Bool :=
  t.all fun j => w.attemptTransactionMatches j || w.sourceTransactionMatches j

omit hval hphase in
/-- No journal is unexpected. -/
theorem not_unexpected {p : TransactionJournal → Bool} (h : t.all p = true)
    (hp : ∀ j, p j = true → w.attemptTransactionMatches j = true ∨
      w.sourceTransactionMatches j = true) :
    (t.any fun j => !w.attemptTransactionMatches j && !w.sourceTransactionMatches j) = false := by
  cases t with
  | none => rfl
  | some j => rcases hp j h with hj | hj <;> simp [hj]

theorem matches_applying (hne : s.generation ≠ w.attemptStartGeneration) (h0 : s.generation ≠ 0)
    (hgen : s.generation = w.attemptApplyingGeneration)
    (hs : applyingStateForBackends s w.attemptOriginBackend w.attemptTargetBackend = true)
    (ht : w.expects t = true) : w.matchesState P s t = true := by
  have hpending : pendingStateForBackends s w.attemptOriginBackend w.attemptTargetBackend = false := by
    simp only [applyingStateForBackends, Bool.and_eq_true, decide_eq_true_eq] at hs
    simp [pendingStateForBackends, pendingRoutingState, hs.1.1]
  have hany := not_unexpected ht fun _ => (Bool.or_eq_true _ _).mp
  rw [hgen] at h0
  simp only [RuntimeRoutingJournal.expects] at ht
  simp [matchesState, hval, hphase, not_start_of_generation hne, hany,
    hpending, h0, hgen, hs, ht]

theorem matches_recovery (hne : exactRuntimeAttemptStart w s = false) (h0 : s.generation ≠ 0)
    (hgen : s.generation = w.attemptRecoveryGeneration)
    (hs : recoveryStateForBackends s w.attemptOriginBackend w.attemptTargetBackend = true)
    (ht : t.all w.sourceTransactionMatches = true) : w.matchesState P s t = true := by
  have hparked := parked_of_recovery hs
  have hany := not_unexpected ht fun _ => .inr
  rw [hgen] at h0
  simp [matchesState, hval, hphase, hne, hany, pendingStateForBackends,
    pendingRoutingState, applyingStateForBackends, hparked, h0, hgen, hs, ht]

/-- A failed switch: parked one generation after `applying`. -/
theorem matches_parked (hne : s.generation ≠ w.attemptStartGeneration)
    (hrec : s.generation ≠ w.attemptRecoveryGeneration) (h0 : w.attemptApplyingGeneration ≠ 0)
    (hmax : w.attemptApplyingGeneration ≠ maxGeneration)
    (hgen : s.generation = w.attemptApplyingGeneration + 1)
    (hs : recoveryStateForBackends s w.attemptOriginBackend w.attemptTargetBackend = true)
    (ht : w.expects t = true) : w.matchesState P s t = true := by
  have hparked := parked_of_recovery hs
  have hany := not_unexpected ht fun _ => (Bool.or_eq_true _ _).mp
  have hstart := not_start_of_generation hne
  rw [hgen] at hrec
  simp only [RuntimeRoutingJournal.expects] at ht
  simp [matchesState, hval, hphase, hstart, hany, pendingStateForBackends,
    pendingRoutingState, applyingStateForBackends, hparked, hrec, h0, hmax, hgen, hs, ht]

theorem matches_final (hne : s.generation ≠ w.attemptStartGeneration)
    (hgen : s.generation = w.attemptFinalGeneration)
    (hs : stableStateForBackend s w.attemptTargetBackend = true)
    (ht : t.all w.attemptTransactionMatches = true) : w.matchesState P s t = true := by
  have hany := not_unexpected ht fun _ => .inl
  rcases phase_of_stable hs with hactive | hactive <;>
    simp [matchesState, hval, hphase, not_start_of_generation hne, hany,
      pendingStateForBackends, pendingRoutingState, applyingStateForBackends,
      recoveryStateForBackends, hactive, hgen, hs, ht]

/-- The final state was durable, but the relay never acknowledged it. -/
theorem matches_finalParked (hne : s.generation ≠ w.attemptStartGeneration)
    (horigin : w.attemptOriginBackend ≠ w.attemptTargetBackend)
    (hmax : w.attemptFinalGeneration ≠ maxGeneration)
    (hgen : s.generation = w.attemptFinalGeneration + 1) (hparked : s.phase = .recoveryRequired)
    (hd : s.desiredBackend = w.attemptTargetBackend) (ha : s.appliedBackend = w.attemptTargetBackend) :
    w.matchesState P s none = true := by
  have hstable : stableStateForBackend s w.attemptTargetBackend = false := by
    rw [← Bool.not_eq_true]
    exact fun h => (settled_of_stable h).2 hparked
  simp [matchesState, hval, hphase, not_start_of_generation hne,
    pendingStateForBackends, pendingRoutingState, applyingStateForBackends,
    recoveryStateForBackends, hparked, hmax, hgen, hd, ha, hstable, horigin.symm]

end Positions

/-- One branch at a time. -/
theorem ite_true_mono {p : Prop} [Decidable p] {a b a' b' : Bool} (ha : a = true → a' = true)
    (hb : b = true → b' = true) (h : (if p then a else b) = true) :
    (if p then a' else b') = true := by
  by_cases hp : p
  · rw [if_pos hp] at h ⊢
    exact ha h
  · rw [if_neg hp] at h ⊢
    exact hb h

/-- Taking the journal away never takes the witness off its position. -/
theorem matches_none_of_some (h : w.matchesState P s (some j) = true) :
    w.matchesState P s none = true := by
  have hno : ∀ {b : Bool}, (false && b) = true → (true && b) = true := fun h => by cases h
  unfold matchesState at h ⊢
  -- the conditions are the same throughout, but for the one that looks at the journal
  refine ite_true_mono id (ite_true_mono ?_ (ite_true_mono (fun _ => rfl) ?_)) h
  · rw [Bool.and_assoc, Bool.and_assoc]
    exact hno
  intro h'
  rw [if_neg (by simp)]
  split at h'
  · cases h'
  refine ite_true_mono (fun _ => rfl) (ite_true_mono (fun _ => rfl) (ite_true_mono (fun _ => rfl)
    (ite_true_mono (fun _ => rfl) (ite_true_mono (fun _ => rfl) (ite_true_mono (fun _ => rfl)
      id))))) h'

/-! ## The invariant -/

/-- The backend is one of the two the operation moves between. -/
def RuntimeRoutingJournal.onRoute (w : RuntimeRoutingJournal) (b : Backend) : Prop :=
  b = w.originBackend ∨ b = w.targetBackend

/-- The journal belongs to an ordinary switch between the two backends of the operation. -/
structure RuntimeRoutingJournal.Routes (w : RuntimeRoutingJournal) (j : TransactionJournal) :
    Prop where
  target_route : w.onRoute j.targetBackend
  origin_route : w.onRoute j.originBackend
  origin_ne : j.originBackend ≠ j.targetBackend
  no_migration : j.knownLegacyBackupAndMigrate = false

/-- What holds of the state `s` under the witness `w` and the journal `t`, wherever an operation
    stops.  Matching the witness is the part that some calls lose: it is demanded when `strict`. -/
structure Fits (c : Controller) (strict : Prop) (w : RuntimeRoutingJournal)
    (t : Option TransactionJournal) (s : State) : Prop where
  matches_state : strict → w.matchesState c.store.paths s t = true
  codex : s.boundCodexConfigPath = c.codexConfigPath
  desired_route : w.onRoute s.desiredBackend
  applied_route : w.onRoute s.appliedBackend
  moving : s.phase = .applying → s.desiredBackend ≠ s.appliedBackend
  no_migration : s.knownLegacyBackupAndMigrate = true → stableRoutingState s = true

/-- The witness `w` on disk belongs to the state `s` and the journal `t`, and all three stay between
    the two backends of the operation. -/
structure Witnessed (c : Controller) (strict : Prop) (d : Disk) (w : RuntimeRoutingJournal)
    (s : State) (t : Option TransactionJournal) : Prop extends Fits c strict w t s where
  witness : d.runtimeRouting = .record w
  valid : w.valid c.store.configPath c.codexConfigPath = true
  start_lt : w.attemptStartGeneration < w.attemptFinalGeneration
  read : c.store.read d = .ok (s, false)
  load : loadJournal d = .ok t
  maintenance : d.maintenance = .absent
  journal_route : ∀ j ∈ t, w.Routes j

/-- **The crash invariant.** There is no witness, or it belongs to the files. -/
def CrashClosed (c : Controller) (strict : Prop) (d : Disk) : Prop :=
  d.runtimeRouting = .absent ∨ ∃ w s t, Witnessed c strict d w s t

/-- Every durable step ends in the crash invariant. -/
def KeepsWitness (c : Controller) (strict : Prop) : Observed → Prop
  | .wrote _ d => CrashClosed c strict d
  | _ => True

/-- **The program keeps the crash invariant** at every durable step. -/
abbrev Keeps (E : Env Disk Query (fun _ => Bool)) (c : Controller) (strict : Prop) {α : Type} :
    Op α → (α → Disk → Prop) → Disk → Prop :=
  Safe E (KeepsWitness c strict)

theorem RuntimeRoutingJournal.valid_bound (h : w.valid config codex = true) :
    w.boundConfigPath = config ∧ w.boundCodexConfigPath = codex ∧ w.validRoute = true ∧
      w.validAttempt = true := by
  simp only [valid, Bool.and_eq_true, decide_eq_true_eq] at h
  exact ⟨h.1.1.1, h.1.1.2, h.1.2, h.2⟩

theorem RuntimeRoutingJournal.origin_ne_target (h : w.valid config codex = true) :
    w.originBackend ≠ w.targetBackend := by
  have hroute := (valid_bound h).2.2.1
  simp only [validRoute, Bool.and_eq_true, decide_eq_true_eq] at hroute
  exact hroute.1.1.1.2

/-- Both backends of an operation are known ones. -/
theorem valid_of_route (hv : w.valid config codex = true) (hb : w.onRoute b) :
    validBackend b = true := by
  have hroute := (RuntimeRoutingJournal.valid_bound hv).2.2.1
  simp only [validRoute, Bool.and_eq_true, decide_eq_true_eq] at hroute
  rcases hb with rfl | rfl
  · exact hroute.1.1.1.1.1.2
  · exact hroute.1.1.1.1.2

section Invariant

variable {d' : Disk}
variable {next : State}

theorem Witnessed.closed (h : Witnessed c strict d w s t) : CrashClosed c strict d :=
  .inr ⟨w, s, t, h⟩

theorem Witnessed.wellFormed (h : Witnessed c strict d w s t) :
    s.WellFormed c.store.paths c.store.configPath := Store.read_wellFormed h.read

/-- A state that passes the check of the witness. -/
theorem validate_of_bound (hv : w.valid c.store.configPath c.codexConfigPath = true)
    (hs : s.WellFormed c.store.paths c.store.configPath)
    (hc : s.boundCodexConfigPath = c.codexConfigPath) :
    s.validateForCodexConfig c.store.paths w.boundConfigPath w.boundCodexConfigPath = .ok () := by
  obtain ⟨h1, h2, -, -⟩ := RuntimeRoutingJournal.valid_bound hv
  rw [h1, h2]
  exact State.validateForCodexConfig_eq_ok_iff.mpr ⟨hs, hc⟩

theorem Witnessed.validate (h : Witnessed c strict d w s t) :
    s.validateForCodexConfig c.store.paths w.boundConfigPath w.boundCodexConfigPath = .ok () :=
  validate_of_bound h.valid h.wellFormed h.codex

/-- Only a state that was stable before the operation can still carry the intent to migrate. -/
theorem Fits.migration_over (h : Fits c strict w t s) (hr : s.phase ≠ .relayActive)
    (hn : s.phase ≠ .nativeActive) : s.knownLegacyBackupAndMigrate = false := by
  cases hk : s.knownLegacyBackupAndMigrate with
  | false => rfl
  | true =>
    have hstable := h.no_migration hk
    simp only [stableRoutingState, Bool.and_eq_true, decide_eq_true_eq] at hstable
    rcases phase_of_stable hstable.2 with hc | hc
    · exact absurd hc hn
    · exact absurd hc hr

/-- Steps that leave the control files alone keep the invariant. -/
theorem Witnessed.congr (h : Witnessed c strict d w s t)
    (hw : d'.runtimeRouting = d.runtimeRouting) (hs : d'.state = d.state)
    (hj : d'.journal = d.journal) (hm : d'.maintenance = d.maintenance) :
    Witnessed c strict d' w s t where
  __ := h
  witness := hw.trans h.witness
  read := Store.read_congr h.read hs
  load := by
    have hl : loadJournal d' = loadJournal d := by
      unfold loadJournal
      rw [hj]
    exact hl.trans h.load
  maintenance := hm.trans h.maintenance

theorem Witnessed.marked (h : Witnessed c strict d w s t) : Witnessed c strict d.marked w s t :=
  h.congr rfl rfl rfl rfl

theorem Witnessed.withState (h : Witnessed c strict d w s t)
    (hn : next.WellFormed c.store.paths c.store.configPath) (hf : Fits c strict w t next) :
    Witnessed c strict (d.withState next) w next t :=
  { h with toFits := hf, read := Store.read_withState hn }

theorem commit_keeps (h : Witnessed c strict d w s t)
    (hn : next.WellFormed c.store.paths c.store.configPath) (hf : Fits c strict w t next) :
    CommitSafe (KeepsWitness c strict) next (outcome (fun _ d' => Witnessed c strict d' w next t)
      fun _ d' => Witnessed c strict d' w s t) d := by
  have hat : ∀ d', d' = d ∨ d' = d.marked → Witnessed c strict d' w s t := by
    rintro d' (rfl | rfl)
    · exact h
    · exact h.marked
  have hnext := h.marked.withState hn hf
  exact ⟨trivial, h.marked.closed, trivial, hnext.closed, hnext, fun d' hd _ => hat d' hd⟩

/-- **Saving along the plan.** -/
theorem save_keeps (h : Witnessed c strict d w s t)
    (hf : next.WellFormed c.store.paths c.store.configPath → Fits c strict w t next) :
    Keeps E c strict (c.store.save next)
      (outcome (fun _ d' => Witnessed c strict d' w next t)
        fun _ d' => Witnessed c strict d' w s t) d :=
  safe_save (fun hk => commit_keeps h hk.wellFormed (hf hk.wellFormed)) fun _ => h

theorem replace_keeps (h : Witnessed c strict d w s t)
    (hf : next.WellFormed c.store.paths c.store.configPath → Fits c strict w t next) :
    Keeps E c strict (c.store.replace next)
      (outcome (fun _ d' => Witnessed c strict d' w next t)
        fun _ d' => Witnessed c strict d' w s t) d :=
  safe_replace (fun hn => commit_keeps h hn (hf hn)) fun _ => h

theorem RuntimeRoutingJournal.onRoute.congr (hb : w.onRoute b)
    (ho : w'.originBackend = w.originBackend) (ht : w'.targetBackend = w.targetBackend) :
    w'.onRoute b := by
  unfold onRoute at hb ⊢
  rw [ho, ht]
  exact hb

/-- The state is the same; what it has to match may have changed. -/
theorem Fits.rematch {t' : Option TransactionJournal} (h : Fits c strict w t s)
    (hm : strict → w'.matchesState c.store.paths s t' = true)
    (ho : w'.originBackend = w.originBackend) (ht : w'.targetBackend = w.targetBackend) :
    Fits c strict w' t' s :=
  ⟨hm, h.codex, h.desired_route.congr ho ht, h.applied_route.congr ho ht, h.moving, h.no_migration⟩

theorem writeJournal_goes (calm : ready → Calm E) (h : Witnessed c strict d w s t)
    (hj : j.valid = true ∧ w.Routes j)
    (hm : strict → w.matchesState c.store.paths s (some j) = true) :
    Keeps E c strict (writeJournal j)
      (outcome (fun _ d' => Witnessed c strict d' w s (some j) ∧
          (ready → d' = { d with journal := .record j }))
        fun _ d' => Witnessed c strict d' w s t ∧ ¬ ready) d := by
  have hnext : Witnessed c strict { d with journal := .record j } w s (some j) := by
    refine ⟨h.toFits.rematch hm rfl rfl, h.witness, h.valid, h.start_lt,
      Store.read_congr h.read rfl, loadJournal_record rfl hj.1, h.maintenance, ?_⟩
    rintro j' hj'
    cases hj'
    exact hj.2
  exact goes_to (safe_writeJournal (TransactionJournal.valid_schema hj.1) (fun _ => trivial)
    (fun _ => hnext.closed) (fun _ => hnext) fun _ => h) calm fun _ => run_writeJournal hj.1

theorem removeJournal_goes (calm : ready → Calm E) (h : Witnessed c strict d w s (some j)) :
    Keeps E c strict removeJournal
      (outcome (fun _ d' => Witnessed c strict d' w s none ∧
          (ready → d' = { d with journal := .absent }))
        fun _ d' => Witnessed c strict d' w s (some j) ∧ ¬ ready) d := by
  have hnext : Witnessed c strict { d with journal := .absent } w s none :=
    ⟨h.toFits.rematch (fun hstrict => matches_none_of_some (h.matches_state hstrict)) rfl rfl,
      h.witness, h.valid, h.start_lt, Store.read_congr h.read rfl, loadJournal_absent rfl,
      h.maintenance, fun _ h => by cases h⟩
  exact goes_to (safe_removeJournal trivial hnext.closed hnext fun _ => h) calm
    fun _ => run_removeJournal

/-- **Writing a witness** that belongs to the state and the journal on disk. -/
theorem writeRuntimeRouting_records {P : Disk → Prop} (hread : c.store.read d = .ok (s, false))
    (hload : loadJournal d = .ok t) (hmaint : d.maintenance = .absent)
    (hf : w'.valid c.store.configPath c.codexConfigPath = true → Fits c strict w' t s)
    (hlt : w'.attemptStartGeneration < w'.attemptFinalGeneration) (hj : ∀ j ∈ t, w'.Routes j)
    (herr : P d) :
    Keeps E c strict (c.store.writeRuntimeRouting c.codexConfigPath w')
      (outcome (fun _ d' => Witnessed c strict d' w' s t) fun _ d' => P d') d := by
  unfold Store.writeRuntimeRouting
  rw [c.codex_canonical]
  refine safe_if (fun hv => ?_) fun _ => herr
  have hnext : Witnessed c strict { d with runtimeRouting := .record w' } w' s t :=
    ⟨hf hv, rfl, hv, hlt, Store.read_congr hread rfl, hload, hmaint, hj⟩
  exact safe_store trivial hnext.closed hnext herr

theorem writeRuntimeRouting_keeps (h : Witnessed c strict d w s t)
    (hm : strict → w'.matchesState c.store.paths s t = true)
    (hlt : w'.attemptStartGeneration < w'.attemptFinalGeneration)
    (ho : w'.originBackend = w.originBackend) (ht : w'.targetBackend = w.targetBackend) :
    Keeps E c strict (c.store.writeRuntimeRouting c.codexConfigPath w')
      (outcome (fun _ d' => Witnessed c strict d' w' s t)
        fun _ d' => Witnessed c strict d' w s t) d := by
  refine writeRuntimeRouting_records h.read h.load h.maintenance
    (fun _ => h.toFits.rematch hm ho ht) hlt (fun j hj => ?_) h
  have hr := h.journal_route j hj
  exact ⟨hr.target_route.congr ho ht, hr.origin_route.congr ho ht, hr.origin_ne, hr.no_migration⟩

theorem Witnessed.sameControl (h : Witnessed c strict d w s t) (hs : d.SameControl d') :
    Witnessed c strict d' w s t := h.congr hs.runtimeRouting hs.state hs.journal hs.maintenance

variable {target : Backend}

/-- **An edit of the Codex artifacts** leaves everything else alone, and every file regular. -/
theorem applyConfig_goes (calm : ready → Calm E) (h : Witnessed c strict d w s t)
    (hm : ready → d.marker ≠ .malformed) (hreg : ready → d.Regular)
    (hedit : ready → (run succeed (c.applyConfigWithLegacyIntent target cfg false) d).1 = .ok ()) :
    Keeps E c strict (c.applyConfigWithLegacyIntent target cfg false)
      (outcome (fun _ d' => Witnessed c strict d' w s t ∧
          (ready → d'.marker ≠ .malformed ∧ d'.Regular))
        fun _ d' => Witnessed c strict d' w s t ∧ ¬ ready) d := by
  have hsafe : Keeps E c strict (c.applyConfigWithLegacyIntent target cfg false)
      (outcome (fun _ d' => d.SameControl d' ∧ (d.Regular → d'.Regular))
        fun _ d' => d.SameControl d' ∧ (d.Regular → d'.Regular)) d := by
    refine (applyConfig_codexEdits c target cfg false d).invariant
      (I := fun d' => d.SameControl d' ∧ (d.Regular → d'.Regular)) ⟨.refl d, id⟩ ?_
      (fun _ _ _ _ => trivial) fun r d' _ h' => ?_
    · rintro d1 d2 ⟨hsame, hr⟩ ⟨w, hw, rfl⟩
      exact ⟨⟨hsame.edit hw, fun h' => (hr h').edit hw⟩, (h.sameControl (hsame.edit hw)).closed⟩
    · cases r with
      | ok u => exact h'
      | error e => exact h'
  refine (hsafe.goes succeed calm fun hr => ⟨_, _, Prod.ext (hedit hr) rfl⟩).except_mono ?_ ?_
  · exact fun _ _ h' => ⟨h.sameControl h'.1.1, h'.2⟩
  · exact fun _ _ h' => ⟨h.sameControl h'.1.1, fun hr => ⟨h'.1.1.marker ▸ hm hr, h'.1.2 (hreg hr)⟩⟩

/-- A question changes nothing. -/
theorem require_goes (calm : ready → Calm E) {q : Query} {e : Err} :
    Keeps E c strict (require q e)
      (outcome (fun _ d' => d' = d) fun _ d' => d' = d ∧ ¬ ready) d := by
  have hsafe : Keeps E c strict (require q e)
      (outcome (fun _ d' => d' = d) fun _ d' => d' = d) d := safe_require trivial rfl rfl
  exact (goes_to hsafe calm fun _ => rfl).ok_mono fun _ _ h' => h'.1

theorem materializeLocalCatalog_goes (calm : ready → Calm E) :
    Keeps E c strict (Controller.materializeLocalCatalog target cfg)
      (outcome (fun _ d' => d' = d) fun _ d' => d' = d ∧ ¬ ready) d :=
  safe_if (fun _ => require_goes calm) fun _ => rfl

theorem applyRuntime_goes (calm : ready → Calm E) {applying : State} :
    Keeps E c strict (c.applyRuntime applying target)
      (outcome (fun _ d' => d' = d) fun _ d' => d' = d ∧ ¬ ready) d :=
  safe_if (fun _ => require_goes calm) fun _ => rfl

end Invariant

/-! ## The switch walks along the plan -/

/-- The generations of a plan that leads through an `applying` state it did not start from. -/
structure RuntimeRoutingJournal.Ordered (w : RuntimeRoutingJournal) : Prop where
  start_lt : w.attemptStartGeneration < w.attemptApplyingGeneration
  recovery_lt : w.attemptRecoveryGeneration < w.attemptApplyingGeneration
  applying_ne_max : w.attemptApplyingGeneration ≠ maxGeneration

/-- A plan that leads through an `applying` state. -/
structure Planned (strict : Prop) (w : RuntimeRoutingJournal) : Prop where
  transitioning : w.phase = .transitioning
  ordered : strict → w.Ordered
  final_eq : w.attemptFinalGeneration = w.attemptApplyingGeneration + 1
  origin_ne : w.attemptOriginBackend ≠ w.attemptTargetBackend
  origin_route : w.onRoute w.attemptOriginBackend
  target_route : w.onRoute w.attemptTargetBackend

/-- The `applying` state the plan leads through. -/
structure Underway (w : RuntimeRoutingJournal) (s : State) : Prop where
  generation : s.generation = w.attemptApplyingGeneration
  phase : s.phase = .applying
  desired : s.desiredBackend = w.attemptTargetBackend
  applied : s.appliedBackend = w.attemptOriginBackend
  no_migration : s.knownLegacyBackupAndMigrate = false

/-- Past `applying` the plan is never back at its start. -/
theorem RuntimeRoutingJournal.Ordered.beyond_start (hp : w.Ordered)
    (hg : g = w.attemptApplyingGeneration ∨ g = w.attemptApplyingGeneration + 1) :
    g ≠ w.attemptStartGeneration ∧ g ≠ w.attemptRecoveryGeneration ∧ g ≠ 0 := by
  have h1 := hp.start_lt
  have h2 := hp.recovery_lt
  have h3 := hp.applying_ne_max
  unfold maxGeneration at h3
  rcases hg with rfl | rfl
  · refine ⟨?_, ?_, ?_⟩ <;> grind
  · refine ⟨?_, ?_, ?_⟩ <;> grind

theorem fits_applying (hp : Planned strict w) (hs : Underway w s)
    (hv : w.valid c.store.configPath c.codexConfigPath = true)
    (hn : s.WellFormed c.store.paths c.store.configPath)
    (hc : s.boundCodexConfigPath = c.codexConfigPath) (ht : w.expects t = true) :
    Fits c strict w t s where
  matches_state := by
    intro hstrict
    obtain ⟨hstart, -, h0⟩ := (hp.ordered hstrict).beyond_start (.inl hs.generation)
    refine matches_applying (validate_of_bound hv hn hc) hp.transitioning hstart h0 hs.generation
      ?_ ht
    simp [applyingStateForBackends, hs.phase, hs.desired, hs.applied]
  codex := hc
  desired_route := hs.desired ▸ hp.target_route
  applied_route := hs.applied ▸ hp.origin_route
  moving := by
    rw [hs.desired, hs.applied]
    exact fun _ => hp.origin_ne.symm
  no_migration := by
    rw [hs.no_migration]
    exact fun h => by cases h

/-- Parking keeps the invariant where the parked state belongs to the witness. -/
theorem park_keeps {α : Type} {u : State} (h : Witnessed c strict d w u t) (cause : Err)
    (hf : ∀ next : State, next = { u with
      phase := .recoveryRequired
      generation := u.generation + 1 } → next.WellFormed c.store.paths c.store.configPath →
      Fits c strict w t next) :
    Keeps E c strict (c.failApplyingLocked u cause : Op (Except Err α))
      (outcome (fun _ _ => False) fun _ d' => CrashClosed c strict d') d := by
  unfold failApplyingLocked
  rw [Keeps, safe_bind]
  refine (save_keeps h (hf _ rfl)).post_mono fun r d' hr => ?_
  cases r with
  | ok u => exact Witnessed.closed hr
  | error e => exact Witnessed.closed hr

/-- A switch that fails parks where the plan foresees it. -/
theorem failApplying_keeps {α : Type} (hp : Planned strict w) (hs : Underway w s)
    (h : Witnessed c strict d w s t) (ht : w.expects t = true) (cause : Err) :
    Keeps E c strict (c.failApplyingLocked s cause : Op (Except Err α))
      (outcome (fun _ _ => False) fun _ d' => CrashClosed c strict d') d := by
  refine park_keeps h cause ?_
  rintro next rfl hn
  refine ⟨fun hstrict => ?_, h.codex, h.desired_route, h.applied_route, nofun, ?_⟩
  · have hgen : s.generation + 1 = w.attemptApplyingGeneration + 1 := by rw [hs.generation]
    have ho := hp.ordered hstrict
    obtain ⟨hstart, hrec, -⟩ := ho.beyond_start (.inr hgen)
    have h0 := (ho.beyond_start (.inl rfl)).2.2
    refine matches_parked (validate_of_bound h.valid hn h.codex) hp.transitioning hstart hrec h0
      ho.applying_ne_max hgen ?_ ht
    simp [recoveryStateForBackends, hs.desired, hs.applied]
  · intro hk
    rw [hs.no_migration] at hk
    cases hk

theorem stable_replacedState (h : (replacedState s g b).generation ≠ 0) :
    stableStateForBackend (replacedState s g b) b = true := by
  simp only [stableStateForBackend, Bool.and_eq_true, decide_eq_true_eq]
  exact ⟨⟨⟨⟨⟨h, rfl⟩, rfl⟩, rfl⟩, rfl⟩, rfl⟩

theorem stable_finalState (h : (finalState s b).generation ≠ 0) :
    stableStateForBackend (finalState s b) b = true :=
  stable_replacedState (g := s.generation + 1) h

/-- The journal a switch writes is the one its plan foresees. -/
theorem attempt_of_journalFor (hs : Underway w s) {legacy : Bool}
    (h : c.journalFor d s w.attemptTargetBackend legacy = .ok j) :
    w.attemptTransactionMatches j = true := by
  obtain ⟨-, hkind, hgen, htarget, horigin, -, -⟩ := journalFor_eq h
  simp [attemptTransactionMatches, hkind, hgen, htarget, horigin,
    hs.generation, hs.applied]

theorem routes_of_attempt (hp : Planned strict w) (h : w.attemptTransactionMatches j = true)
    (hk : j.knownLegacyBackupAndMigrate = false) : w.Routes j := by
  simp only [attemptTransactionMatches, Bool.and_eq_true,
    decide_eq_true_eq] at h
  obtain ⟨⟨-, ho⟩, ht⟩ := h
  exact ⟨ht ▸ hp.target_route, ho ▸ hp.origin_route, by rw [ho, ht]; exact hp.origin_ne, hk⟩

/-- The last step of a switch that was not acknowledged. -/
theorem failFinal_keeps (hp : Planned strict w) (hs : Underway w s)
    (h : Witnessed c strict d w (finalState s w.attemptTargetBackend) none)
    (cause : Err) :
    Keeps E c strict
      (c.failApplyingLocked (finalState s w.attemptTargetBackend) cause :
        Op (Except Err Unit))
      (outcome (fun _ _ => False) fun _ d' => CrashClosed c strict d') d := by
  have hfinal : (finalState s w.attemptTargetBackend).generation =
      w.attemptFinalGeneration := by
    rw [hp.final_eq, ← hs.generation]
    rfl
  refine park_keeps h cause ?_
  rintro next rfl hn
  refine ⟨fun hstrict => ?_, h.codex, h.desired_route, h.applied_route, nofun, nofun⟩
  have h0 : w.attemptFinalGeneration + 1 ≠ 0 := by
    rw [← hfinal]
    exact hn.generation_ne
  have h1 := (hp.ordered hstrict).start_lt
  have h2 := hp.final_eq
  have h3 := (hp.ordered hstrict).applying_ne_max
  have hstart : w.attemptFinalGeneration + 1 ≠ w.attemptStartGeneration := by
    unfold maxGeneration at h3
    grind
  have hmax : w.attemptFinalGeneration ≠ maxGeneration := by
    unfold maxGeneration
    grind
  refine matches_finalParked (validate_of_bound h.valid hn h.codex) hp.transitioning ?_
    hp.origin_ne hmax ?_ rfl rfl rfl
  · rw [hfinal]
    exact hstart
  · rw [hfinal]

theorem fits_final (hp : Planned strict w) (hs : Underway w s) (h : Witnessed c strict d w s t)
    (hn : (finalState s w.attemptTargetBackend).WellFormed c.store.paths c.store.configPath)
    (hj : w.attemptTransactionMatches j = true) :
    Fits c strict w (some j) (finalState s w.attemptTargetBackend) := by
  have hgen : (finalState s w.attemptTargetBackend).generation =
      w.attemptApplyingGeneration + 1 := by
    rw [← hs.generation]
    rfl
  have hs := stable_finalState hn.generation_ne
  refine ⟨fun hstrict => ?_, h.codex, hp.target_route, hp.target_route,
    fun hc => absurd hc (settled_of_stable hs).1, nofun⟩
  obtain ⟨hstart, -, -⟩ := (hp.ordered hstrict).beyond_start (.inr hgen)
  refine matches_final (validate_of_bound h.valid hn h.codex) hp.transitioning hstart
    (hgen.trans hp.final_eq.symm) hs ?_
  simpa using hj

/-- **How a block may end**: with a value in `ok`, or with an error that leaves the crash invariant
    and that a call which is `ready` does not see. -/
abbrev Ends (c : Controller) (strict ready : Prop) {α : Type} (ok : α → Disk → Prop) :
    Except Err α → Disk → Prop :=
  outcome ok fun _ d' => CrashClosed c strict d' ∧ ¬ ready

/-- The plan has reached its end: the final state is durable and the journal is gone. -/
def Reached (c : Controller) (strict : Prop) (w : RuntimeRoutingJournal) (d' : Disk) : Prop :=
  ∃ final, Witnessed c strict d' w final none ∧ final.generation = w.attemptFinalGeneration ∧
    stableStateForBackend final w.attemptTargetBackend = true

/-- What a switch needs of the files, with the config `cfg` its preflight has returned. -/
structure Editable (c : Controller) (d : Disk) (target : Backend) (cfg : Config) : Prop where
  marker : d.marker ≠ .malformed
  regular : d.Regular
  edit : (run succeed (c.applyConfigWithLegacyIntent target cfg false) d).1 = .ok ()

/-- **The switch walks along the plan**, whatever fails and wherever it stops. -/
theorem finish_goes (calm : ready → Calm E) (hp : Planned strict w) (hs : Underway w s)
    (h : Witnessed c strict d w s t) (ht : w.expects t = true)
    (hedit : ready → Editable c d w.attemptTargetBackend cfg)
    (hmax : ready → s.generation ≠ maxGeneration) (authoritative : Bool) {legacy : Bool}
    (hl : legacy = false) :
    Keeps E c strict (c.finishApplyingLockedWithOriginAuthority s cfg
      w.attemptTargetBackend authoritative legacy)
      (Ends c strict ready fun _ => Reached c strict w) d := by
  subst hl
  have htarget := valid_of_route h.valid hp.target_route
  have horigin : validBackend s.appliedBackend = true := by
    rw [hs.applied]
    exact valid_of_route h.valid hp.origin_route
  have hfail : ∀ {t' : Option TransactionJournal} (e : Err) (d' : Disk),
      Witnessed c strict d' w s t' ∧ ¬ ready → w.expects t' = true → Keeps E c strict
        (c.failApplyingLocked s e) (Ends c strict ready fun _ : Unit => Reached c strict w) d' := by
    rintro t' e d' ⟨h', hn⟩ ht'
    exact (failApplying_keeps hp hs h' ht' e).except_mono (fun _ _ hc => ⟨hc, hn⟩)
      fun _ _ hc => hc.elim
  have hexpects : ∀ {j : TransactionJournal}, w.attemptTransactionMatches j = true →
      w.expects (some j) = true := by
    intro j hj
    simp [RuntimeRoutingJournal.expects, hj]
  have hmatch : ∀ {j : TransactionJournal}, w.attemptTransactionMatches j = true → strict →
      w.matchesState c.store.paths s (some j) = true := fun hj =>
    (fits_applying hp hs h.valid h.wellFormed h.codex (hexpects hj)).matches_state
  have hunfit : ∀ {d' : Disk} {e : Err}, (ready → d'.Regular) →
      c.journalFor d' s w.attemptTargetBackend false = .error e → ¬ ready := by
    intro d' e hreg he hr
    obtain ⟨j, hj⟩ := journalFor_regular (c := c) (hreg hr) s w.attemptTargetBackend false
    rw [hj] at he
    cases he
  unfold Controller.finishApplyingLockedWithOriginAuthority
  refine safe_guarded.mpr ?_
  apply safe_newJournal
  split
  · exact hfail _ d ⟨h, hunfit (fun hr => (hedit hr).regular) ‹_›⟩ ht
  rename_i fresh hfresh
  obtain ⟨-, -, -, -, -, hk, -⟩ := journalFor_eq hfresh
  have hj := attempt_of_journalFor hs hfresh
  have hwritten : ∀ b stage r k i, let j := { fresh with
      originAuthoritative := b
      stage := stage
      relayConfigFingerprint := r
      codexConfigFingerprint := k
      interactiveFingerprint := i }
      j.valid = true ∧ w.Routes j := fun _ _ _ _ _ =>
    ⟨journal_valid hfresh h.wellFormed.generation_ne htarget horigin _ _ _ _,
      routes_of_attempt hp hj hk⟩
  refine safe_guarded_of (writeJournal_goes calm h (hwritten _ _ _ _ _) (hmatch hj))
    (fun e d' h' => hfail e d' h' ht) ?_
  rintro - d1 ⟨h1, hd1⟩
  have hback : ∀ (e : Err) (d' : Disk), d' = d1 ∧ ¬ ready → Keeps E c strict
      (c.failApplyingLocked s e) (Ends c strict ready fun _ : Unit => Reached c strict w) d' := by
    rintro e _ ⟨rfl, hn⟩
    exact hfail e _ ⟨h1, hn⟩ (hexpects hj)
  refine safe_guarded_of (require_goes calm) hback ?_
  rintro - _ rfl
  refine safe_guarded_of (materializeLocalCatalog_goes calm) hback ?_
  rintro - _ rfl
  refine safe_guarded_of (applyRuntime_goes calm) hback ?_
  rintro - _ rfl
  refine safe_guarded_of (applyConfig_goes calm h1 (fun hr => ?_) (fun hr => ?_) fun hr => ?_)
    (fun e d' h' => hfail e d' h' (hexpects hj)) ?_
  · rw [hd1 hr]
    exact (hedit hr).marker
  · rw [hd1 hr]
    exact (hedit hr).regular.congr ⟨rfl, rfl, rfl⟩
  · rw [hd1 hr, ← (hedit hr).edit]
    exact run_applyConfig _ _ ⟨rfl, rfl, rfl⟩
  rintro - d2 ⟨h2, hd2⟩
  refine safe_guarded.mpr ?_
  apply safe_newJournal
  split
  · exact hfail _ d2 ⟨h2, hunfit (fun hr => (hd2 hr).2) ‹_›⟩ (hexpects hj)
  refine safe_guarded_of (writeJournal_goes calm h2 (hwritten _ _ _ _ _) (hmatch hj))
    (fun e d' h' => hfail e d' h' (hexpects hj)) ?_
  rintro - d3 ⟨h3, hd3⟩
  refine safe_guarded_of (goes_to (save_keeps h3 fun hn => fits_final hp hs h3 hn hj) calm
    fun hr => run_save (finalState_wellFormed h.wellFormed htarget (hmax hr)) h3.read ?_
      (validateTransition_final hs.phase hs.desired htarget) ?_) (fun e d' h' => hfail e d' h' (hexpects hj)) ?_
  · have hne := hmax hr
    show s.generation < s.generation + 1
    unfold maxGeneration at hne
    grind
  · rw [hd3 hr]
    exact (hd2 hr).1
  rintro - d4 ⟨h4, -⟩
  refine safe_attempt_of (removeJournal_goes calm h4) (fun _ _ h' => ⟨h'.1.closed, h'.2⟩) ?_
  rintro - d5 ⟨h5, -⟩
  refine safe_guarded_of (require_goes calm) ?_ ?_
  · rintro e _ ⟨rfl, hn⟩
    exact (failFinal_keeps hp hs h5 e).except_mono (fun _ _ hc => ⟨hc, hn⟩) fun _ _ hc => hc.elim
  · rintro - _ rfl
    refine ⟨_, h5, ?_, stable_finalState h5.wellFormed.generation_ne⟩
    rw [hp.final_eq, ← hs.generation]
    rfl

/-! ## Plans -/

/-- The plan of an attempt: where it starts from, and the generations it leads through. -/
def RuntimeRoutingJournal.planned (w : RuntimeRoutingJournal) (kind : AttemptKind)
    (direction : RuntimeRoutingDirection) (s : State) (source : Option TransactionJournal)
    (origin : Backend) (requested recovery applying final : UInt64) : RuntimeRoutingJournal :=
  { w.startAttempt kind direction s source with
    attemptOriginBackend := origin
    attemptRequestedGeneration := requested
    attemptRecoveryGeneration := recovery
    attemptApplyingGeneration := applying
    attemptFinalGeneration := final }

section Plans

variable {direction : RuntimeRoutingDirection}
variable {source : Option TransactionJournal}

theorem setAttempt_switch : w.setAttempt .switch direction s source = some w' ↔
    (s.generation ≠ 0 ∧ s.generation ≤ maxGeneration - 3 ∧ stableRoutingState s = true) ∧
      w.planned .switch direction s source s.appliedBackend (s.generation + 1) 0 (s.generation + 2)
        (s.generation + 3) = w' := by
  simp only [setAttempt, Option.ite_none_left_eq_some, Option.some.injEq,
    not_or, Bool.not_eq_true', Bool.not_eq_false, UInt64.not_lt, gt_iff_lt, and_assoc]
  rfl

theorem setAttempt_applyPending : w.setAttempt .applyPending direction s source = some w' ↔
    (s.generation ≠ 0 ∧ s.generation ≤ maxGeneration - 2 ∧ pendingRoutingState s = true) ∧
      w.planned .applyPending direction s source s.appliedBackend s.generation 0 (s.generation + 1)
        (s.generation + 2) = w' := by
  simp only [setAttempt, Option.ite_none_left_eq_some, Option.some.injEq,
    not_or, Bool.not_eq_true', Bool.not_eq_false, UInt64.not_lt, gt_iff_lt, and_assoc]
  rfl

theorem setAttempt_resumeApplying : w.setAttempt .resumeApplying direction s source = some w' ↔
    (s.generation ≠ 0 ∧ s.generation ≠ maxGeneration ∧ s.phase = .applying) ∧
      w.planned .resumeApplying direction s source s.appliedBackend 0 0 s.generation
        (s.generation + 1) = w' := by
  simp only [setAttempt, Option.ite_none_left_eq_some, Option.some.injEq,
    not_or, not_not, and_assoc]
  rfl

theorem setAttempt_replace : w.setAttempt .replace direction s source = some w' ↔
    (s.generation ≠ 0 ∧ s.generation ≠ maxGeneration) ∧
      w.planned .replace direction s source s.appliedBackend 0 0 0 (s.generation + 1) = w' := by
  simp only [setAttempt, Option.ite_none_left_eq_some, Option.some.injEq,
    and_assoc]
  rfl

theorem setRecoveryAttempt_eq :
    w.setRecoveryAttempt direction s g source = some w' ↔
      (g ≠ 0 ∧ g ≤ maxGeneration - 2 ∧ s.generation ≠ 0 ∧ s.generation ≠ maxGeneration ∧
        w'.valid w.boundConfigPath w.boundCodexConfigPath = true) ∧
      w.planned .recover direction s source
        (w.selectedBackend (oppositeRuntimeDirection direction)) 0 g (g + 1) (g + 2) = w' := by
  unfold setRecoveryAttempt
  rw [Option.ite_none_left_eq_some, not_or, gt_iff_lt, UInt64.not_lt]
  constructor
  · rintro ⟨hg, h⟩
    split at h
    · cases h
    rename_i started hstarted
    obtain ⟨hs, rfl⟩ := setAttempt_replace.mp hstarted
    simp only [Option.ite_none_right_eq_some, Option.some.injEq] at h
    obtain ⟨hv, rfl⟩ := h
    exact ⟨⟨hg.1, hg.2, hs.1, hs.2, hv⟩, rfl⟩
  · rintro ⟨⟨hg, hmax, hs, hs', hv⟩, rfl⟩
    rw [setAttempt_replace.mpr ⟨⟨hs, hs'⟩, rfl⟩]
    exact ⟨⟨hg, hmax⟩, if_pos hv⟩

theorem selected_route : w.onRoute (w.selectedBackend direction) := by
  cases direction with
  | completeTarget => exact .inr rfl
  | restoreOrigin => exact .inl rfl

theorem selected_opposite_ne (h : w.valid config codex = true) :
    w.selectedBackend (oppositeRuntimeDirection direction) ≠ w.selectedBackend direction := by
  have hne := RuntimeRoutingJournal.origin_ne_target h
  cases direction with
  | completeTarget => exact hne
  | restoreOrigin => exact hne.symm

/-- On the route, what is not selected is the opposite. -/
theorem eq_opposite (hb : w.onRoute b) (hne : b ≠ w.selectedBackend direction) :
    b = w.selectedBackend (oppositeRuntimeDirection direction) := by
  cases direction with
  | completeTarget =>
    rcases hb with hb | hb
    · exact hb
    · exact absurd hb hne
  | restoreOrigin =>
    rcases hb with hb | hb
    · exact absurd hb hne
    · exact hb

end Plans

end OpenCodexRelay.Routing
