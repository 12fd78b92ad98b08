/-
  When a native repair goes through.

  A repair overwrites five fields of a parked state and leaves the others as they are: the paths,
  the schema — and the one-shot intent to migrate a legacy configuration.  Whether the result may be
  written is for `validateForBound` to say, and that check ties the intent to an External target.

  1. `repaired_wellFormed_iff`: the repaired state passes its own check EXACTLY IF the parked one
     does not carry the intent.
  2. `commitNative_repairs`, `commitNative_refuses`: the commit of both repairs, with and without it.
  3. `commitNative_decides`: whatever happens in between — a refused write, an edited Codex file —
     the commit ends with the repaired state on disk or with the parked one.
  4. `native_repair_iff` puts the two repairs in front of the commit.
-/
import OpenCodexRelay.Routing.Generations

namespace OpenCodexRelay.Routing

open Durable

section Repair

variable {E : Env Disk Query (fun _ => Bool)} {c : Controller} {d : Disk} {s : State}
variable {generation : UInt64} {unavailable unproven : Err}

/-- A generation below the last one has a successor. -/
theorem succ_ne_zero_of_ne_max {g : UInt64} (h : g ≠ maxGeneration) : g + 1 ≠ 0 := by
  intro h0
  apply h
  unfold maxGeneration
  calc g = (g + 1) - 1 := by simp
    _ = 0 - 1 := by rw [h0]

/-- **The repaired state passes its own check exactly if there is no intent to carry over.** -/
theorem repaired_wellFormed_iff (hs : s.WellFormed c.store.paths c.store.configPath)
    (hmax : s.generation ≠ maxGeneration) :
    (repairedState s).WellFormed c.store.paths c.store.configPath ↔
      s.knownLegacyBackupAndMigrate = false := by
  constructor
  · intro h
    cases hintent : s.knownLegacyBackupAndMigrate with
    | false => rfl
    | true => cases h.legacy_imp hintent
  · intro hintent
    refine ⟨hs.schema_eq, succ_ne_zero_of_ne_max hmax, hs.config_eq, hs.codex_eq, rfl, rfl, ?_, rfl⟩
    intro h
    cases hintent.symm.trans h

/-! ## The commit -/

/-- The surroundings let a repair write, and nobody edits the Codex files meanwhile. -/
structure Grants (E : Env Disk Query (fun _ => Bool)) : Prop where
  gate : ∀ d answer, E .recoveryGate d answer → answer = true
  marker : ∀ d answer, E (.store .marker) d answer → answer = true
  state : ∀ next d answer, E (.store (.state next)) d answer → answer = true
  unedited : ∀ d answer, E .codexUnedited d answer → answer = true
  /-- Every question is answered. -/
  answers : ∀ q d, ∃ answer, E q d answer

/-- A parked state can be put back; anything else may fail. -/
def Restores (E : Env Disk Query (fun _ => Bool)) : Prop :=
  ∀ next d answer, next.phase = .recoveryRequired → E (.store (.state next)) d answer → answer = true

/-- The repair of `s` is reported, and it is on disk. -/
def RepairsTo (c : Controller) (s : State) (r : Except Err Unit) (d : Disk) : Prop :=
  r = .ok () ∧ c.store.read d = .ok (repairedState s, false)

/-- A replacement that nobody refuses takes place. -/
theorem safe_replace_granted {next : State} {post : Except Err Unit → Disk → Prop}
    (hw : next.WellFormed c.store.paths c.store.configPath) (hmarker : d.marker ≠ .malformed)
    (hnew : d.marker = .absent → ∀ answer, E (.store .marker) d answer → answer = true)
    (hstate : ∀ d answer, E (.store (.state next)) d answer → answer = true)
    (hok : post (.ok ()) (d.marked.withState next)) :
    Safe E (fun _ => True) (c.store.replace next) post d := by
  have hwrite : Safe E (fun _ => True) (store (.state next)) post d.marked := by
    refine ⟨trivial, fun answer ha => ?_⟩
    obtain rfl := hstate _ _ ha
    exact ⟨trivial, hok⟩
  unfold Store.replace
  rw [State.validateFor_eq_ok_iff.mpr hw]
  simp only [commitState, safe_attempt, writeInitializedMarker]
  refine safe_read.mpr ?_
  cases hm : d.marker with
  | malformed => exact absurd hm hmarker
  | record u =>
    rw [Disk.marked_of_record hm] at hwrite
    exact hwrite
  | absent =>
    refine ⟨trivial, fun answer ha => ?_⟩
    obtain rfl := hnew hm _ ha
    exact ⟨trivial, hwrite⟩

theorem commitNative_repairs (hE : Grants E) (hr : c.store.read d = .ok (s, false))
    (hmax : s.generation ≠ maxGeneration) (hmarker : d.marker ≠ .malformed)
    (hnative : c.validateNative d = true) (hintent : s.knownLegacyBackupAndMigrate = false) :
    Safe E (fun _ => True) (c.commitNative s unavailable unproven) (RepairsTo c s) d := by
  have hw : (repairedState s).WellFormed c.store.paths c.store.configPath :=
    (repaired_wellFormed_iff (Store.read_wellFormed hr) hmax).mpr hintent
  refine safe_guarded.mpr ?_
  refine safe_replace_granted hw hmarker (fun _ => hE.marker d) (hE.state _) ?_
  refine ⟨trivial, fun unedited hu => ?_⟩
  obtain rfl := hE.unedited _ _ hu
  have hread : c.store.read (d.marked.withState (repairedState s)) =
      .ok (repairedState s, false) := Store.read_withState hw
  exact safe_if (fun _ => ⟨rfl, hread⟩) fun h => absurd ⟨hread, hnative, rfl⟩ h

/-- With the intent, the very first write of the commit is refused, by the store itself. -/
theorem commitNative_refuses (hr : c.store.read d = .ok (s, false))
    (hmax : s.generation ≠ maxGeneration) (hintent : s.knownLegacyBackupAndMigrate = true) :
    Safe E (fun _ => True) (c.commitNative s unavailable unproven)
      (fun r d' => r = .error unavailable ∧ d' = d) d := by
  refine safe_guarded.mpr (safe_replace (fun hw => ?_) fun _ => ⟨rfl, rfl⟩)
  have hfree := (repaired_wellFormed_iff (Store.read_wellFormed hr) hmax).mp hw
  cases hfree.symm.trans hintent

/-- **However it ends, one of the two states is on disk**, and the report says which. -/
theorem commitNative_decides (hE : Restores E) (hr : c.store.read d = .ok (s, false))
    (hphase : s.phase = .recoveryRequired) :
    Safe E (fun _ => True) (c.commitNative s unavailable unproven)
      (fun r d' => RepairsTo c s r d' ∨ r ≠ .ok () ∧ c.store.read d' = c.store.read d) d := by
  have hkept : ∀ e d', d' = d ∨ d' = d.marked → RepairsTo c s (.error e) d' ∨
      Except.error e ≠ Except.ok () ∧ c.store.read d' = c.store.read d := by
    rintro e d' (rfl | rfl)
    · exact .inr ⟨nofun, rfl⟩
    · have hread : c.store.read d.marked = .ok (s, false) := Store.read_congr hr rfl
      exact .inr ⟨nofun, hread.trans hr.symm⟩
  refine safe_guarded.mpr (safe_replace (fun hw => ⟨trivial, trivial, trivial, trivial, ?_,
    fun d' hd' _ => hkept _ d' hd'⟩) fun _ => hkept _ d (.inl rfl))
  refine ⟨trivial, fun unedited _ => safe_if (fun h => .inl ⟨rfl, h.1⟩) fun _ => ?_⟩
  -- the second look failed: the parked state goes back over the repaired one
  refine safe_guarded.mpr (safe_replace_granted (Store.read_wellFormed hr) nofun nofun
    (fun d answer => hE s d answer hphase) ?_)
  exact .inr ⟨nofun, (Store.read_withState (Store.read_wellFormed hr)).trans hr.symm⟩

/-! ## The two repairs -/

/-- **The evidence a repair asks for**: the owner may repair, no witness of any kind is on disk, the
    state is parked, bound to both configs and of a generation that has a successor, and the Codex
    files prove native routing. -/
structure NativeEvidence (c : Controller) (generation : UInt64) (s : State) (d : Disk) : Prop where
  owner : c.localDevelopmentOwner = true
  journal : d.journal = .absent
  maintenance : c.store.loadMaintenance d = .ok none
  runtimeRouting : c.store.loadRuntimeRouting c.codexConfigPath d = .ok none
  state : c.store.read d = .ok (s, false)
  bound : s.boundCodexConfigPath = c.codexConfigPath
  parked : s.phase = .recoveryRequired
  current : s.generation = generation
  below : generation ≠ maxGeneration
  native : c.validateNative d = true

theorem NativeEvidence.repairable (h : NativeEvidence c generation s d) :
    c.repairableState d generation = .ok s :=
  repairableState_eq_ok_iff.mpr
    ⟨h.journal, h.state, h.bound, h.parked, h.current, h.current ▸ h.below⟩

/-- An interlock that neither the gate nor a witness holds is passed. -/
theorem safe_interlocked_open {α : Type} {post : Except Err α → Disk → Prop} {e : Err}
    {k : Op (Except Err α)} (hgate : ∀ d answer, E .recoveryGate d answer → answer = true)
    (hfree : c.maintenancePendingOrInvalid d = false) (hk : Safe E (fun _ => True) k post d) :
    Safe E (fun _ => True) (c.interlocked e k) post d := by
  have hpast : Safe E (fun _ => True) (.read fun d =>
      if c.maintenancePendingOrInvalid d then refuse e else k) post d :=
    safe_if (fun h => by rw [hfree] at h; cases h) fun _ => hk
  unfold Controller.interlocked Controller.recoveryGateActive
  rw [safe_bind]
  refine safe_if (fun _ => ⟨trivial, fun answer ha => ?_⟩) fun _ => hpast
  obtain rfl := hgate _ _ ha
  exact hpast

/-- With the evidence, `RepairNative` does what its commit does. -/
theorem repairNative_of_commit (hE : Grants E) (h : NativeEvidence c generation s d)
    {post : Except Err Unit → Disk → Prop}
    (hcommit : Safe E (fun _ => True)
      (c.commitNative s .nativeRepairUnavailable .nativeVerification) post d) :
    Safe E (fun _ => True) (c.repairNative generation true) post d := by
  have hpositive : generation ≠ 0 := h.current ▸ (Store.read_wellFormed h.state).generation_ne
  have hfree : c.maintenancePendingOrInvalid d = false := by
    unfold Controller.maintenancePendingOrInvalid
    rw [h.maintenance, h.runtimeRouting]
  refine safe_if (fun hno => ?_) fun _ => safe_interlocked_open hE.gate hfree ?_
  · simp [h.owner, hpositive] at hno
  · refine safe_read.mpr ?_
    rw [h.repairable]
    refine safe_if (fun hno => ?_) fun _ => hcommit
    simp [h.native] at hno

/-- An operation that is refused in every run does not repair. -/
theorem not_repairs_of_refused (hE : Grants E) {p : Op (Except Err Unit)} {e : Err}
    (hrefused : Safe E (fun _ => True) p (fun r d' => r = .error e ∧ d' = d) d) :
    ¬ Safe E (fun _ => True) p (RepairsTo c s) d := by
  intro hrepairs
  choose env henv using hE.answers
  have hone := run_of_safe env henv hrefused
  have htwo := run_of_safe env henv hrepairs
  cases hone.1.symm.trans htwo.1

/-- Both repairs commit from such a position. -/
theorem commitNative_iff (hE : Grants E) (hr : c.store.read d = .ok (s, false))
    (hmax : s.generation ≠ maxGeneration) (hmarker : d.marker ≠ .malformed)
    (hnative : c.validateNative d = true) :
    Safe E (fun _ => True) (c.commitNative s unavailable unproven) (RepairsTo c s) d ↔
      s.knownLegacyBackupAndMigrate = false := by
  constructor
  · intro h
    by_contra hintent
    exact not_repairs_of_refused hE (commitNative_refuses hr hmax (by simpa using hintent)) h
  · exact commitNative_repairs hE hr hmax hmarker hnative

theorem tolerates_anything : Tolerates fun _ => True := ⟨fun _ _ => trivial, fun _ _ => trivial⟩

/-- Without a report of success the durable state is what it was, and a report is never wrong. -/
theorem repairNative_decides (hE : Restores E) (confirmed : Bool) :
    Safe E (fun _ => True) (c.repairNative generation confirmed)
      (fun r d' => (∃ s, c.store.read d = .ok (s, false) ∧ RepairsTo c s r d') ∨
        r ≠ .ok () ∧ c.store.read d' = c.store.read d) d := by
  refine safe_if (fun _ => .inr ⟨nofun, rfl⟩) fun _ =>
    safe_interlocked trivial (.inr ⟨nofun, rfl⟩) fun _ => ?_
  refine safe_read.mpr ?_
  split
  · exact .inr ⟨nofun, rfl⟩
  · rename_i s hs
    obtain ⟨-, hr, -, hparked, -⟩ := repairableState_eq_ok_iff.mp hs
    refine safe_if (fun _ => .inr ⟨nofun, rfl⟩) fun _ => ?_
    refine (commitNative_decides hE hr hparked).post_mono fun r d' h => ?_
    exact h.imp_left fun hrepairs => ⟨s, hr, hrepairs⟩

theorem repairNativeRouting_decides (hE : Restores E) (owner : NativeRepairKind)
    (confirmed desktopExited : Bool) (restored : String) :
    Safe E (fun _ => True)
      (c.repairNativeRouting generation owner confirmed desktopExited restored)
      (fun r d' => (∃ s, c.store.read d = .ok (s, false) ∧ RepairsTo c s r d') ∨
        r ≠ .ok () ∧ c.store.read d' = c.store.read d) d := by
  rw [Controller.repairNativeRouting_eq]
  refine safe_attempt_of (beforeCommitNative_spec tolerates_anything) (fun e d' hsame => ?_) ?_
  · exact .inr ⟨nofun, Store.read_control hsame⟩
  · rintro s d1 ⟨hsame, -, hs, -⟩
    obtain ⟨-, hr, -, hparked, -⟩ := repairableState_eq_ok_iff.mp hs
    have hr1 := Store.read_congr hr hsame.state
    refine (commitNative_decides hE hr1 hparked).post_mono fun r d' h => ?_
    rcases h with hrepairs | ⟨hfailed, hread⟩
    · exact .inl ⟨s, hr, hrepairs⟩
    · exact .inr ⟨hfailed, hread.trans (hr1.trans hr.symm)⟩

end Repair

/-- **Both native repairs, from any state.**

    With the evidence, and surroundings that let it write, `RepairNative` returns success and leaves
    `native_active` with the next generation EXACTLY IF the parked state carries no intent to migrate
    a legacy configuration; the same is true of `RepairNativeRouting` wherever it has got past its own
    cleanup and validation.  Otherwise, and whatever fails, the durable state is the same.  (The marker
    beside the state is as the store left it; a replacement does not go past a damaged one.) -/
theorem native_repair_iff (c : Controller) (E : Env Disk Query (fun _ => Bool)) (hE : Grants E)
    (d : Disk) (hmarker : d.marker ≠ .malformed) (generation : UInt64) :
    (∀ s, NativeEvidence c generation s d →
      (Safe E (fun _ => True) (c.repairNative generation true) (RepairsTo c s) d ↔
        s.knownLegacyBackupAndMigrate = false)) ∧
    (∀ owner confirmed desktopExited restored,
      c.repairNativeRouting generation owner confirmed desktopExited restored =
        attempt (c.beforeCommitNative generation owner confirmed desktopExited restored)
          (fun s => c.commitNative s .nativeRepairUnavailable .nativeRepairUnavailable) ∧
      Safe E (fun _ => True) (c.beforeCommitNative generation owner confirmed desktopExited restored)
        (fun r d' => ∀ s, r = .ok s →
          (Safe E (fun _ => True)
            (c.commitNative s .nativeRepairUnavailable .nativeRepairUnavailable) (RepairsTo c s) d' ↔
            s.knownLegacyBackupAndMigrate = false)) d) ∧
    ∀ F : Env Disk Query (fun _ => Bool), Restores F →
      (∀ confirmed, Safe F (fun _ => True) (c.repairNative generation confirmed)
        (fun r d' => (∃ s, c.store.read d = .ok (s, false) ∧ RepairsTo c s r d') ∨
          r ≠ .ok () ∧ c.store.read d' = c.store.read d) d) ∧
      ∀ owner confirmed desktopExited restored, Safe F (fun _ => True)
        (c.repairNativeRouting generation owner confirmed desktopExited restored)
        (fun r d' => (∃ s, c.store.read d = .ok (s, false) ∧ RepairsTo c s r d') ∨
          r ≠ .ok () ∧ c.store.read d' = c.store.read d) d := by
  refine ⟨fun s h => ?_, fun owner confirmed desktopExited restored =>
    ⟨c.repairNativeRouting_eq generation owner confirmed desktopExited restored, ?_⟩,
    fun F hF => ⟨fun confirmed => repairNative_decides hF confirmed,
      fun owner confirmed desktopExited restored =>
        repairNativeRouting_decides hF owner confirmed desktopExited restored⟩⟩
  · have hmax : s.generation ≠ maxGeneration := h.current ▸ h.below
    constructor
    · intro hrepairs
      by_contra hintent
      have hrefused := repairNative_of_commit hE h
        (commitNative_refuses h.state hmax (by simpa using hintent))
      exact not_repairs_of_refused hE hrefused hrepairs
    · intro hintent
      exact repairNative_of_commit hE h
        (commitNative_repairs hE h.state hmax hmarker h.native hintent)
  · refine (beforeCommitNative_spec tolerates_anything).post_mono fun r d' h s hs => ?_
    subst hs
    obtain ⟨hsame, -, hrepairable, hnative⟩ := h
    obtain ⟨-, hr, -, -, -, hmax⟩ := repairableState_eq_ok_iff.mp hrepairable
    exact commitNative_iff hE (Store.read_congr hr hsame.state) hmax (hsame.marker ▸ hmarker) hnative

namespace Sample

/-- A parked switch from External to native routing, after the Codex files have been cleaned. -/
def parked : Disk := native (state 7 .none .external .recoveryRequired)

theorem parked_evidence :
    NativeEvidence repairer 7 (state 7 .none .external .recoveryRequired) parked :=
  ⟨rfl, rfl, rfl, rfl, rfl, rfl, rfl, rfl, by decide, rfl⟩

/-- Codex texts in which one assignment is a known legacy one. -/
def migrating : Controller :=
  { repairer with codexText := { codexText with
      prepareLegacyMigration := fun text => if text = "legacy" then some "" else none } }

/-- Native routing, with that assignment still in the config. -/
def legacyConfig : Disk :=
  { native (state 5 .none .none .nativeActive) with codex := .content "legacy" }

/-- The request to migrate has been staged. -/
def intended : Disk := (run succeed (migrating.requestBackend .external true none) legacyConfig).2

/-- No journal can be written. -/
def journalless : Query → Disk → Bool
  | .store (.journal _), _ => false
  | _, _ => true

/-- The switch has failed at its first step, and the user has taken the assignment out by hand. -/
def intentLeft : Disk :=
  { (run journalless (migrating.apply true) intended).2 with codex := .content "" }

end Sample

open Sample

theorem native_repair_iff_parked :
    Safe everythingSucceeds (fun _ => True) (repairer.repairNative 7 true)
      (RepairsTo repairer (state 7 .none .external .recoveryRequired))
      parked := by
  have hE : Grants everythingSucceeds :=
    ⟨fun _ _ h => h, fun _ _ h => h, fun _ _ _ h => h, fun _ _ h => h, fun _ _ => ⟨true, rfl⟩⟩
  exact ((native_repair_iff repairer _ hE parked nofun 7).1 _
    parked_evidence).mpr rfl

/-- **A failed migration cannot be repaired.**  The request and the failed switch leave a parked state
    with the intent and no journal; the evidence is complete, and the repair is refused. -/
theorem repair_refused_by_intent :
    run succeed (migrating.requestBackend .external true none) legacyConfig =
      (.ok (), intended) ∧
    (run journalless (migrating.apply true) intended).1 = .error .io ∧
    (∃ s, NativeEvidence migrating 8 s intentLeft ∧
      s.knownLegacyBackupAndMigrate = true) ∧
    run succeed (migrating.repairNative 8 true) intentLeft =
      (.error .nativeRepairUnavailable, intentLeft) :=
  ⟨rfl, rfl, ⟨_, ⟨rfl, rfl, rfl, rfl, rfl, rfl, rfl, rfl, by decide, rfl⟩, rfl⟩, rfl⟩

end OpenCodexRelay.Routing
