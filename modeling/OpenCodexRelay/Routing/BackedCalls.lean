/-
  Every call of the controller.

  `Backed` has the transactions; here are the calls around them.

  1. A call that only stages or cancels a switch stays with the applied backend (`staying`), so does a
     call under a witness; whatever parks without a witness relies on nothing.
  2. `recover`, the two repairs and the gateway change run only where there is no witness, the
     container operations only under one.  What is put on disk by `Replace` is new because nothing on
     disk has overtaken the journal it is made from.
  3. `ControllerCall.conduct` puts them together.  A call that carries out a switch also leaves no
     journal behind when it succeeds (`Clears`).
-/
import OpenCodexRelay.Routing.Backed
import OpenCodexRelay.Routing.Witnessed
import OpenCodexRelay.Routing.Maintenance

namespace OpenCodexRelay.Routing

open Durable

/-- A success leaves no journal. -/
abbrev Clears {α : Type} : Except Err α → Disk → Prop :=
  outcome (fun _ d => d.journal = .absent) fun _ _ => True

variable {d : Disk} {c : Controller} {A : Aims} {s next recovery : State} {legacy : Bool}
variable {j : TransactionJournal} {target : Backend}

theorem Switches.clears : ∀ (r : Except Err Unit) (d' : Disk), Switches d r d' →
    Clears r d' := by
  rintro (_ | _) d' h
  · trivial
  · exact h.1

/-- No lifecycle-owned witness is on disk. -/
structure Disk.Unwitnessed (d : Disk) : Prop where
  maintenance : d.maintenance = .absent
  runtimeRouting : d.runtimeRouting = .absent

theorem Controller.unwitnessed_of_interlock (h : c.maintenancePendingOrInvalid d = false) :
    d.Unwitnessed := by
  unfold maintenancePendingOrInvalid at h
  split at h
  · rename_i hm
    split at h
    · rename_i hr
      exact ⟨loadMaintenance_none hm, loadRuntimeRouting_none hr⟩
    · cases h
  · cases h

section Guards

variable {α : Type} {post : Except Err α → Disk → Prop}
variable [hpost : Lenient post]

omit hpost in
theorem backed_ungated {k : Bool → Op (Except Err α)}
    (hk : ∀ gated, Backed c A none (k gated) post d) :
    Backed c A none (c.recoveryGateActive >>= k) post d := by
  have hgate : Safe anyReply (Settled c A none) c.recoveryGateActive (fun _ d' => d' = d) d :=
    safe_recoveryGateActive ((settled_inert c A none).asked d rfl) fun _ => rfl
  refine backed_bind hgate ?_
  rintro gated _ rfl
  exact hk gated

theorem backed_interlocked {e : Err} {k : Op (Except Err α)}
    (hk : d.Unwitnessed → Backed c A none k post d) :
    Backed c A none (c.interlocked e k) post d := by
  refine backed_ungated fun gated => backed_unless fun _ => backed_unless fun h => ?_
  exact hk (Controller.unwitnessed_of_interlock (by simpa using h))

theorem backed_withoutJournal {k : Op (Except Err α)}
    (hk : d.journal = .absent → Backed c A none k post d) :
    Backed c A none (Controller.withoutJournal k) post d := by
  refine backed_read ?_
  split
  · rename_i h
    exact hk (loadJournal_eq_none_iff.mp h)
  · exact backed_ret (hpost.error _ d)

end Guards

/-! ## Staying with the applied backend -/

section Staying

variable {P : Paths} {bound : String}

/-- A settled state with a relay backend admits traffic. -/
theorem State.WellFormed.admits (h : s.WellFormed P bound) (h1 : s.phase ≠ .applying)
    (h2 : s.phase ≠ .recoveryRequired) (hb : s.appliedBackend ≠ .none) :
    s.allowsDataPlane = true := by
  have hshape := h.shape
  unfold phaseShape at hshape
  unfold allowsDataPlane
  cases hp : s.phase with
  | applying => exact absurd hp h1
  | recoveryRequired => exact absurd hp h2
  | relayPendingRestart => simp_all
  | nativeActive => simp_all
  | relayActive | nativePendingRestart | backendPendingRestart => rfl

/-- **Staying.** Without a journal, a state that keeps the applied backend relies on nothing new. -/
theorem staying (hr : c.store.read d = .ok (s, legacy)) (hj : d.journal = .absent)
    (hs : d.runtimeRouting ≠ .absent ∨ s.appliedBackend = .none ∨ s.allowsDataPlane = true)
    (happlied : next.appliedBackend = s.appliedBackend) : c.store.Stays next d := by
  rcases next.backing_cases d.journal d.runtimeRouting with h | h
  · exact .inl h
  unfold Store.Stays
  rw [Store.backing_of_read hr, h, happlied, hj]
  rcases hs with hw | hnone | hadmits
  · right
    simp [State.backing, hw]
  · exact .inl hnone
  · right
    simp [State.backing, hadmits]

/-- In particular over a state that is settled. -/
theorem staying_settled (hr : c.store.read d = .ok (s, false)) (hj : d.journal = .absent)
    (h1 : s.phase ≠ .applying) (h2 : s.phase ≠ .recoveryRequired)
    (happlied : next.appliedBackend = s.appliedBackend) : c.store.Stays next d := by
  refine staying hr hj (.inr ?_) happlied
  by_cases hnone : s.appliedBackend = .none
  · exact .inl hnone
  · exact .inr ((Store.read_wellFormed hr).admits h1 h2 hnone)

/-- What admits nothing, without a witness. -/
theorem stays_unwitnessed (hw : d.runtimeRouting = .absent)
    (hs : next.phase = .applying ∨ next.phase = .recoveryRequired) : c.store.Stays next d := by
  unfold Store.Stays
  rw [hw]
  exact .inl (State.backing_unwitnessed hs)

end Staying

/-! ## Gateway calls -/

section Gateway

variable {selected : Config}
variable {stage : TransactionStage}

theorem writeInactive_settled {current candidate : Config} {digest : Fingerprint} :
    Always anyReply (Settled c A none) (c.writeInactiveGateway s current candidate digest) := by
  have hinert := settled_inert c A none
  refine frames_guarded (writeConfig_inert hinert).always (fun _ => frames_pure _) fun _ => ?_
  refine frames_guarded (require_inert hinert rfl) (fun e => frames_read fun d => ?_)
    fun _ => frames_read fun d => ?_
  · refine frames_ite (fun _ => frames_pure _) fun _ => ?_
    refine frames_guarded (writeConfig_inert hinert).always (fun _ => frames_pure _) fun _ => ?_
    exact frames_read fun restored => frames_ite (fun _ => frames_pure _) fun _ => frames_pure _
  · exact frames_ite (fun _ => frames_pure _) fun _ => frames_pure _

theorem gatewayApply_backed (hA : ¬ A.waits) (request : GatewayCandidate) (digest : Fingerprint)
    (generation : UInt64) :
    Backed c A none (c.gatewayApply request digest generation) Whatever d := by
  have hinert := settled_inert c A none
  refine backed_unless fun _ => ?_
  have hpreflight : Safe anyReply (Settled c A none) (c.gatewayPreflight request)
      (outcome (fun _ _ => True) fun _ _ => True) d := by
    refine safe_gatewayPreflight (fun _ hq => hinert.asked d (probe_inert hq)) fun r => ?_
    cases r <;> trivial
  refine backed_attempt hpreflight fun preflight d1 _ => ?_
  refine backed_unless fun _ => backed_unless fun _ => ?_
  refine backed_interlocked fun hw => backed_withoutJournal fun _ => ?_
  refine backed_read ?_
  split
  swap
  · exact backed_ret trivial
  rename_i s hs
  have hdurable : c.durableState d1 = some s := by
    unfold Controller.durableState
    rw [hs]
  obtain ⟨hr, hb⟩ := durableState_eq hdurable
  refine backed_unless fun _ => backed_unless fun _ => ?_
  refine backed_guarded (Frames.outcome (removeGatewayBackup_inert hinert) d1)
    (fun _ _ _ => backed_ret trivial) fun _ d2 hd2 => ?_
  refine backed_read ?_
  split
  swap
  · exact backed_ret trivial
  refine backed_unless fun _ => backed_question (hinert.asked _ rfl) (backed_ret trivial) ?_
  refine backed_ite (fun _ => backed_ret trivial) fun _ => backed_ite (fun hlive => ?_)
    fun _ => backed_of_safe (writeInactive_settled.safe d2)
  exact gatewayReload_backed hA ⟨Store.read_congr hr (same_state hd2), hlive.1, hlive.2,
    (same_witness hd2).trans hw.runtimeRouting, fun _ => hb⟩

theorem finishGatewayRecovery_backed (hw : d.runtimeRouting = .absent)
    (hj : j.schema = schemaVersion)
    (hgen : A.grows → recovery.boundCodexConfigPath = c.codexConfigPath ∧
      AtMost c recovery.generation d) :
    Backed c A none (c.finishGatewayRecovery recovery j selected stage) Clears d := by
  have hinert := settled_inert c A
  have hpark : ∀ {m : Option Backend} (s : State) (d' : Disk),
      s.boundCodexConfigPath = recovery.boundCodexConfigPath → d'.runtimeRouting = .absent →
      Backed c A m (c.parkGatewayRecoveryLocked s) Clears d' :=
    fun s d' hs hw' => park_backed (fun _ => trivial) (fun hg => hs.trans (hgen hg).1)
      fun _ => .inr (.inl hw')
  unfold Controller.finishGatewayRecovery
  refine backed_guarded (Frames.outcome (writeConfig_inert (hinert none)) d)
    (fun _ _ _ => backed_ret trivial) fun _ d1 hd1 => ?_
  have hw1 := (same_witness hd1).trans hw
  have hreplace : Safe anyReply (Settled c A none)
      (c.store.replace (Controller.gatewayRecoveryApplying recovery)) (Commits c.store _ d1) d1 :=
    replace_stays (fun hg => (hgen hg).1) (fun hg => ((hgen hg).2.congr (same_state hd1)).newer rfl)
      fun _ => stays_unwitnessed hw1 (.inl rfl)
  refine backed_guarded hreplace (fun _ _ _ => backed_ret trivial) fun _ d2 hd2 => ?_
  have h2 : Reloading c A (Controller.gatewayRecoveryApplying recovery) d2 :=
    ⟨rfl, hd2.runtimeRouting.trans hw1, fun hg => (hgen hg).1, fun _ => ⟨hd2.read, rfl, rfl⟩⟩
  refine backed_guarded (h2.journal_settled ?_) (fun _ d3 h3 => hpark _ d3 rfl h3.unwitnessed) ?_
  · exact hj
  rintro - d3 ⟨h3, hpresent⟩
  refine backed_question ((hinert none).asked _ rfl) (hpark _ _ rfl h3.unwitnessed) ?_
  refine backed_runtime (h3.authorised hpresent) (hpark _ _ rfl h3.unwitnessed) ?_
  refine reloadTail_backed ?_ (atRest_reloaded h3.applied) h3.unwitnessed h3.bound nofun
    (fun d' => hpark _ d' rfl) (fun d' => hpark _ d' rfl) fun _ habs => backed_ret habs
  exact hj

theorem applyGatewayRecovery_backed {s : Option State} (hw : d.runtimeRouting = .absent)
    (hj : j.schema = schemaVersion) (hB : A.grows → s = c.durableState d ∧ c.Bound d) :
    Backed c A none (c.applyGatewayRecovery s j selected stage) Clears d := by
  have hfits : A.grows → (c.gatewayRecoveryState s j).1.boundCodexConfigPath = c.codexConfigPath ∧
      ((c.gatewayRecoveryState s j).2 = false → AtMost c (c.gatewayRecoveryState s j).1.generation d) ∧
      ((c.gatewayRecoveryState s j).2 = true → Newer c (c.gatewayRecoveryState s j).1 d) := by
    intro hg
    obtain ⟨rfl, hbound⟩ := hB hg
    exact gatewayRecovery_fits hbound
  have hparked : (c.gatewayRecoveryState s j).2 = true →
      (c.gatewayRecoveryState s j).1.phase = .recoveryRequired := gatewayRecovery_phase
  unfold Controller.applyGatewayRecovery
  generalize c.gatewayRecoveryState s j = r at hfits hparked ⊢
  obtain ⟨recovery, replaced⟩ := r
  refine backed_ite (fun hreplaced => ?_) fun hfound => finishGatewayRecovery_backed hw hj fun hg =>
    ⟨(hfits hg).1, (hfits hg).2.1 (by simpa using hfound)⟩
  refine backed_guarded (replace_stays (fun hg => (hfits hg).1) (fun hg => (hfits hg).2.2 hreplaced)
    fun _ => stays_unwitnessed hw (.inr (hparked hreplaced))) (fun _ _ _ => backed_ret trivial)
    fun _ d1 hd1 => ?_
  exact finishGatewayRecovery_backed (hd1.runtimeRouting.trans hw) hj fun hg =>
    ⟨(hfits hg).1, AtMost.of_read hd1.read⟩

end Gateway

/-! ## Recovery -/

section Recover

variable {action : RecoveryAction}
variable {desktopExited : Bool}

/-- A plan starts where no witness is, does not lead onto the Apple backend, and can be carried out
    without repeating a generation. -/
def PlanFits (c : Controller) (A : Aims) : RecoveryPlan → Disk → Prop
  | .switch recovery target _ _, d => d.runtimeRouting = .absent ∧ target ≠ .localAppleContainer ∧
      (A.grows → recovery.boundCodexConfigPath = c.codexConfigPath ∧ AtMost c recovery.generation d)
  | .gateway s j _ _, d => d.runtimeRouting = .absent ∧ j.schema = schemaVersion ∧
      (A.grows → s = c.durableState d ∧ c.Bound d)

/-- **A recovery without a journal** looks at the generation on disk. -/
theorem recoverObserved_fits (hw : d.runtimeRouting = .absent) (hB : A.grows → c.Bound d) :
    Safe anyReply (Settled c A none) (c.recoverObservedLocked (c.durableState d) desktopExited)
      (outcome (PlanFits c A) fun _ _ => True) d := by
  unfold Controller.recoverObservedLocked
  refine safe_if (fun _ => trivial) fun _ => ?_
  refine safe_read.mpr ?_
  split
  · exact trivial
  rename_i observed hobserved
  obtain ⟨hcodex, happle⟩ := observedRecoveryTarget_eq hobserved
  obtain ⟨hphase, hsame⟩ := observedRecoveryState_eq (c.durableState d) observed
  have hb := hsame.trans hcodex
  refine safe_attempt_of (replace_stays (fun _ => hb) (fun hg => observedRecoveryState_newer (hB hg))
    fun _ => stays_unwitnessed hw (.inr hphase)) (fun _ _ _ => trivial) fun _ d1 hd1 => ?_
  exact ⟨hd1.runtimeRouting.trans hw, happle, fun _ => ⟨hb, AtMost.of_read hd1.read⟩⟩

/-- The destination is the parked state's, or one of the journal's two sides. -/
theorem journalledTarget_mem (h : Controller.journalledTarget recovery j action = some target) :
    target = recovery.desiredBackend ∨ target = j.targetBackend ∨ target = j.originBackend := by
  unfold Controller.journalledTarget at h
  cases action with
  | complete =>
    simp only [Option.filter_eq_some_iff, Option.some.injEq] at h
    obtain ⟨h, -⟩ := h
    split_ifs at h with hu
    · exact .inr (.inl h.symm)
    · exact .inl h.symm
  | rollback =>
    simp only [Option.filter_eq_some_iff] at h
    obtain ⟨h, -⟩ := h
    split_ifs at h with hu
    cases h
    exact .inr (.inr rfl)

/-- Whichever state is parked, its destination is not the Apple backend. -/
theorem parkedState_ne_apple (hcurrent : (c.durableState d).any Controller.mentionsApple = false)
    (htarget : j.targetBackend ≠ .localAppleContainer) :
    ((Controller.parkedState (c.durableState d)).getD
      (c.recoveryStateFromJournal j)).desiredBackend ≠ .localAppleContainer := by
  cases hp : Controller.parkedState (c.durableState d) with
  | none => exact htarget
  | some s =>
    rw [Option.any_eq_false] at hcurrent
    have hs := hcurrent s (Option.filter_eq_some_iff.mp hp).1
    simp only [Controller.mentionsApple, Bool.or_eq_false_iff, decide_eq_false_iff_not] at hs
    exact hs.1

theorem recoverJournalled_fits (hw : d.runtimeRouting = .absent)
    (hcurrent : (c.durableState d).any Controller.mentionsApple = false)
    (hsides : j.targetBackend ≠ .localAppleContainer ∧ j.originBackend ≠ .localAppleContainer)
    (hB : A.grows → c.Bound d ∧ ∀ s, c.durableState d = some s → s.phase ≠ .recoveryRequired →
      s.generation ≤ j.generation) :
    Safe anyReply (Settled c A none)
      (c.recoverJournalledLocked (c.durableState d) j action desktopExited)
      (outcome (PlanFits c A) fun _ _ => True) d := by
  have happle := parkedState_ne_apple hcurrent hsides.1
  have hfits := fun hg => journalledRecovery_fits (hB hg).1 (hB hg).2
  simp only at hfits
  unfold Controller.recoverJournalledLocked
  simp only
  generalize Controller.parkedState (c.durableState d) = parked at happle hfits ⊢
  have hphase : parked.isSome = false →
      (parked.getD (c.recoveryStateFromJournal j)).phase = .recoveryRequired := by
    cases parked with
    | none => exact fun _ => rfl
    | some s => exact nofun
  generalize parked.getD (c.recoveryStateFromJournal j) = recovery at happle hfits hphase ⊢
  -- what is on disk when the destination is chosen: the parked state, found or just written
  have hstep : Safe anyReply (Settled c A none) (if parked.isSome = true then pure (.ok ())
      else c.store.replace recovery) (outcome (fun _ d' => d'.runtimeRouting = .absent ∧
        (A.grows → AtMost c recovery.generation d')) fun _ _ => True) d := by
    refine safe_if (fun hfound => ⟨hw, fun hg => (hfits hg).2.1 hfound⟩) fun hnew => ?_
    rw [Bool.not_eq_true] at hnew
    refine (replace_stays (fun hg => (hfits hg).1) (fun hg => (hfits hg).2.2 hnew) fun _ =>
      stays_unwitnessed hw (.inr (hphase hnew))).except_mono (fun _ _ _ => trivial) fun _ d' h => ?_
    exact ⟨h.runtimeRouting.trans hw, fun _ => AtMost.of_read h.read⟩
  refine safe_attempt_ok hstep fun _ d1 hd1 => ?_
  split
  · exact trivial
  rename_i target htarget
  refine safe_if (fun _ => trivial) fun _ => ⟨hd1.1, ?_, fun hg => ⟨(hfits hg).1, hd1.2 hg⟩⟩
  rcases journalledTarget_mem htarget with rfl | rfl | rfl
  · exact happle
  · exact hsides.1
  · exact hsides.2

theorem recoverEvidence_fits (hB : A.grows → c.Bound d ∧ ¬ c.JournalBehind d) :
    Safe anyReply (Settled c A none) (c.recoverEvidence action desktopExited)
      (outcome (PlanFits c A) fun _ _ => True) d := by
  refine safe_recoverEvidence (fun _ hq => (settled_inert c A none).asked d (probe_inert hq))
    (fun _ => trivial) fun hlock hstate hjournal => ?_
  have hw := (Controller.unwitnessed_of_interlock hlock).runtimeRouting
  refine safe_recoverFrom (fun _ => trivial) (recoverObserved_fits hw fun hg => (hB hg).1)
    (fun j _ _ hj => ?_) fun j hj hkind => ?_
  · rcases loadJournal_cases hj with ⟨-, hnone⟩ | ⟨j', hj', hv, -⟩
    · cases hnone
    · cases hj'
      exact ⟨hw, TransactionJournal.valid_schema hv, fun hg => ⟨rfl, (hB hg).1⟩⟩
  · simp only [Controller.journalMentionsApple, hj, Bool.or_eq_false_iff,
      decide_eq_false_iff_not] at hjournal
    refine recoverJournalled_fits hw hstate hjournal fun hg => ⟨(hB hg).1, fun s hs hphase => ?_⟩
    by_contra hgt
    refine (hB hg).2 ⟨j, s, hj, ?_, hs, hphase, UInt64.not_le.mp hgt⟩
    cases hk : j.kind with
    | routingSwitch => rfl
    | gatewayReload => exact absurd hk hkind

/-- **Applying a recovery** through the ordinary switch, from a parked state that nothing on disk has
    overtaken. -/
theorem applyRecovery_backed {originAuthoritative : Bool} (hc : A.backs → c.runtimeControl = true)
    (hgen : A.grows → recovery.boundCodexConfigPath = c.codexConfigPath ∧
      AtMost c recovery.generation d) (ht : A.waits → target ≠ .localAppleContainer)
    (h : ∀ required applying,
      Controller.recoveryApplying recovery target required = some applying →
      c.store.Stays applying d) :
    Backed c A none (c.applyRecoveryLockedWithOriginAuthority recovery target originAuthoritative
      legacy) (Switches d) d := by
  refine backed_attempt ((preflight_inert (settled_inert c A none)).same d) ?_
  rintro preflight _ rfl
  simp only
  split
  · exact backed_ret trivial
  rename_i applying happlying
  obtain ⟨hnext, hphase, hdesired, -, hcodex, -⟩ := Controller.recoveryApplying_eq happlying
  have hb : A.grows → applying.boundCodexConfigPath = c.codexConfigPath :=
    fun hg => hcodex.trans (hgen hg).1
  refine backed_attempt (replace_stays hb (fun hg => (hgen hg).2.newer hnext) fun _ =>
    h _ _ happlying) fun _ d1 hd1 => ?_
  exact (finishApplying_backed hc hd1.read hphase hdesired hb ht).mono
    (Concludes.switches hd1.runtimeRouting)

theorem recover_backed (hc : A.backs → c.runtimeControl = true) (action : RecoveryAction)
    (desktopExited : Bool) (hB : A.grows → c.Bound d ∧ ¬ c.JournalBehind d) :
    Backed c A none (c.recover action desktopExited) Clears d := by
  refine backed_attempt (recoverEvidence_fits hB) fun plan d1 hplan => ?_
  cases plan with
  | gateway s j selected stage => exact applyGatewayRecovery_backed hplan.1 hplan.2.1 hplan.2.2
  | switch recovery target originAuthoritative legacy =>
    obtain ⟨hw, happle, hgen⟩ := hplan
    refine backed_after (applyRecovery_backed hc hgen (fun _ => happle)
      fun required applying happlying => stays_unwitnessed hw
        (.inl (Controller.recoveryApplying_eq happlying).2.1))
      fun _ d2 hd2 => ?_
    refine backed_ite (fun _ => ?_) fun _ => backed_ret hd2.1
    exact backed_of_safe (safe_require ((settled_inert c A none).asked d2 rfl) hd2.1 trivial)

end Recover

/-! ## Requests -/

/-- **A legacy deployment that shows another backend**: the state a request would write down is not
    the External route the relay assumes. -/
def Controller.ShowsLocal (c : Controller) (d : Disk) : Prop :=
  ∃ s, c.boundState d = .ok (s, true) ∧ s.appliedBackend = .localOpenCodex

/-- The inferred state of a legacy deployment, as far as it matters here. -/
theorem inferLegacyState_applied {t : State} (h : c.inferLegacyState d t = .ok s) :
    s.appliedBackend = .none ∨ s.appliedBackend = .external ∨
      s.appliedBackend = .localOpenCodex ∨ s.appliedBackend = .localAppleContainer := by
  unfold Controller.inferLegacyState at h
  split at h
  · cases h
  split_ifs at h
  · cases h
    exact .inl rfl
  split at h
  · cases h
  split at h
  · cases h
  · rename_i backend hbackend
    cases h
    unfold Controller.managedBackendFromArtifacts at hbackend
    split at hbackend
    · split_ifs at hbackend
      cases hbackend
      exact .inr (.inr (.inl rfl))
    · simp only at hbackend
      split_ifs at hbackend
      all_goals
        cases hbackend
        simp
    · cases hbackend

/-- A state that a request writes over the bound state `s`. -/
theorem request_staying (hs : c.boundState d = .ok (s, legacy)) (hlocal : ¬ c.ShowsLocal d)
    (happle : Controller.mentionsApple s = false) (h1 : s.phase ≠ .applying)
    (h2 : s.phase ≠ .recoveryRequired) (hj : d.journal = .absent)
    (happlied : next.appliedBackend = s.appliedBackend) : c.store.Stays next d := by
  rcases (boundState_eq hs).1 with ⟨rfl, hr⟩ | ⟨rfl, hr, hinferred⟩
  · exact staying_settled hr hj h1 h2 happlied
  · -- the artifacts show External, or native routing
    rcases inferLegacyState_applied hinferred with h | h | h | h
    · exact .inl (State.backing_native (happlied.trans h))
    · exact staying hr hj (.inr (.inr rfl)) (happlied.trans h)
    · exact absurd ⟨s, hs, h⟩ hlocal
    · simp [Controller.mentionsApple, h] at happle

theorem requestBackend_backed (target : Backend) (legacy : Bool)
    (witness : Option Controller.RequestWitness) (hlocal : A.backs → ¬ c.ShowsLocal d) :
    Backed c A none (c.requestBackend target legacy witness) Whatever d := by
  refine backed_unless fun _ => backed_unless fun _ => ?_
  refine backed_interlocked fun _ => backed_withoutJournal fun hj => ?_
  refine backed_read ?_
  split
  · exact backed_ret trivial
  rename_i s inferred hs
  refine backed_unless fun happle => backed_unless fun _ =>
    backed_unless fun _ => ?_
  split
  · exact backed_ret trivial
  rename_i staged changed hstaged
  obtain ⟨hcodex, happlied, h1, h2⟩ := requestBackendTransition_eq hstaged
  have hpreflight : Frames anyReply (Settled c A none) id (if (changed && target ≠ s.appliedBackend) =
      true then c.preflightRequestedBackend target else pure (.ok ())) :=
    frames_ite (fun _ => preflightRequested_inert (settled_inert c A none)) fun _ => frames_pure _
  refine backed_attempt (hpreflight.same d) ?_
  rintro - _ rfl
  refine backed_unless fun _ => backed_ite (fun _ => ?_) fun _ => backed_ret trivial
  refine (backed_of_safe (save_stays (fun _ => ?_) fun hback =>
    request_staying hs (hlocal hback) ?_ h1 h2 hj ?_)).mono fun _ _ _ => trivial
  · exact hcodex.trans ((boundState_eq hs).2)
  · simpa using happle
  · exact happlied

theorem cancel_backed : Backed c A none c.cancel Whatever d := by
  refine backed_interlocked fun _ => backed_withoutJournal fun hj => ?_
  refine backed_read ?_
  split
  · exact backed_ret trivial
  · exact backed_ret trivial
  rename_i s hs
  split
  · exact backed_ret trivial
  rename_i next hnext
  obtain ⟨hcodex, happlied, h1, h2⟩ : next.boundCodexConfigPath = s.boundCodexConfigPath ∧
      next.appliedBackend = s.appliedBackend ∧ s.phase ≠ .applying ∧
      s.phase ≠ .recoveryRequired := by
    unfold cancelTransition at hnext
    split at hnext <;> cases hnext <;> simp_all
  refine (backed_of_safe (save_stays (fun _ => ?_) fun _ =>
    staying_settled (boundState_durable hs) hj h1 h2 ?_)).mono fun _ _ _ => trivial
  · exact hcodex.trans (boundState_eq hs).2
  · exact happlied

theorem seedNativeParked_backed : Backed c A none c.seedNativeParked Whatever d := by
  refine backed_interlocked fun _ => backed_withoutJournal fun _ => ?_
  refine backed_read ?_
  split
  · exact backed_ret trivial
  · split
    · exact backed_ret trivial
    · exact backed_unless fun _ => backed_ret trivial
  · exact (backed_of_safe (save_stays (fun _ => rfl) fun _ =>
      .inl (State.backing_native rfl))).mono fun _ _ _ => trivial

theorem apply_backed (hc : A.backs → c.runtimeControl = true) (desktopExited : Bool) :
    Backed c A none (c.apply desktopExited) Clears d := by
  refine backed_unless fun _ => ?_
  refine backed_interlocked fun _ => backed_withoutJournal fun hj => ?_
  refine backed_read ?_
  split
  · exact backed_ret trivial
  rename_i s legacy hs
  refine backed_unless fun hpending => backed_unless fun happle => ?_
  obtain ⟨⟨-, hr⟩ | ⟨rfl, -⟩, hcodex⟩ := boundState_eq hs
  · exact (applyLocked_backed hc (fun _ => hr) hj (fun _ => hcodex) fun _ hd => happle
      (by simp [hd])).mono Switches.clears
  · simp at hpending

/-! ## Native repair -/

section Repair

variable {d₀ : Disk}

theorem commitNative_settled {unavailable unproven : Err} (h0 : c.store.read d₀ = .ok (s, false))
    (hr : c.store.read d = .ok (s, false)) (hb : s.boundCodexConfigPath = c.codexConfigPath)
    (hw : d.runtimeRouting = .absent) (hs : s.phase = .recoveryRequired)
    (hR : A.grows → ∀ next d', PutsBack c d₀ next d' → A.restored next d') :
    Safe anyReply (Settled c A none) (c.commitNative s unavailable unproven) Whatever d := by
  have hcommit : Safe anyReply (Settled c A none) (c.store.replace (repairedState s))
      (Commits c.store (repairedState s) d) d :=
    replace_stays (fun _ => hb) (fun _ => (AtMost.of_read hr).newer rfl)
      fun _ => .inl (State.backing_native rfl)
  refine safe_guarded_of hcommit (fun _ _ _ => trivial) fun _ d1 hd1 => ?_
  refine ⟨(settled_inert c A none).asked _ rfl, fun unedited _ => ?_⟩
  refine safe_read.mpr ?_
  refine safe_if (fun _ => trivial) fun _ => ?_
  -- the parked state is put back
  have hrestore : Safe anyReply (Settled c A none) (c.store.replace s) (Commits c.store s d1) d1 :=
    safe_replace (fun hwf => commitSafe_settled hwf (fun _ => hb)
      (fun hg => .inl (hR hg s _ ⟨h0, Store.read_congr hd1.read rfl⟩)) fun _ =>
        settles_stays (stays_unwitnessed (hd1.runtimeRouting.trans hw) (.inr hs)) hwf) fun _ => rfl
  exact safe_guarded_of hrestore (fun _ _ _ => trivial) fun _ _ _ => trivial

theorem repairNative_backed (generation : UInt64) (confirmed : Bool)
    (hR : A.grows → ∀ next d', PutsBack c d next d' → A.restored next d') :
    Backed c A none (c.repairNative generation confirmed) Whatever d := by
  refine backed_unless fun _ => backed_interlocked fun hw => ?_
  refine backed_read ?_
  split
  · exact backed_ret trivial
  rename_i s hs
  refine backed_unless fun _ => ?_
  obtain ⟨-, hr, hb, hphase, -⟩ := repairableState_eq_ok_iff.mp hs
  exact backed_of_safe (commitNative_settled hr hr hb hw.runtimeRouting hphase hR)

theorem tolerates_settled : Tolerates (Settled c A none) := by
  refine ⟨fun d hq => (settled_inert c A none).asked d ?_, fun d hw =>
    (settled_inert c A none).wrote (editsCodex_routing hw d)⟩
  rename_i q
  cases q with
  | store w => cases w <;> first | rfl | cases hq
  | _ => first | rfl | cases hq

theorem repairNativeRouting_backed (generation : UInt64) (owner : NativeRepairKind)
    (confirmed desktopExited : Bool) (restored : String)
    (hR : A.grows → ∀ next d', PutsBack c d next d' → A.restored next d') :
    Backed c A none (c.repairNativeRouting generation owner confirmed desktopExited restored)
      Whatever d := by
  rw [Controller.repairNativeRouting_eq]
  refine backed_of_safe (safe_attempt_of (beforeCommitNative_spec tolerates_settled)
    (fun _ _ _ => trivial) ?_)
  rintro s d1 ⟨hsame, hlock, hs, -⟩
  have hw : d1.runtimeRouting = .absent := hsame.runtimeRouting.trans
    (Controller.unwitnessed_of_interlock hlock).runtimeRouting
  obtain ⟨-, hr, hb, hphase, -⟩ := repairableState_eq_ok_iff.mp hs
  exact commitNative_settled hr (Store.read_congr hr hsame.state) hb hw hphase hR

end Repair

/-! ## Container operations -/

section RuntimeRouting

variable {w : RuntimeRoutingJournal}
variable {direction : RuntimeRoutingDirection} {selected : Backend}

/-- A witness over which an operation starts or goes on: it may be written where there is one, beside
    a journal, and beside a state that is stable. -/
def Admissible (st : Store) (d : Disk) : Prop :=
  d.runtimeRouting ≠ .absent ∨ d.journal ≠ .absent ∨
    ∃ s, st.standing d = some s ∧ (s.appliedBackend = .none ∨ s.allowsDataPlane = true)

theorem settles_witness (h : Admissible c.store d) :
    Settles c.store none (.wrote d { d with runtimeRouting := .record w }) := by
  refine ⟨?_, fun _ ht => nomatch ht⟩
  unfold Store.backing
  have hstanding : c.store.standing { d with runtimeRouting := .record w } = c.store.standing d :=
    rfl
  rw [hstanding]
  cases hs : c.store.standing d with
  | none => exact .inl rfl
  | some s =>
    simp only
    cases hj : d.journal with
    | malformed => exact .inl rfl
    | record j => exact .inr (.inl rfl)
    | absent =>
      rcases h with hw | hjournal | ⟨t, ht, hnone | hadmits⟩
      · right; left
        simp [State.backing, hw]
      · exact absurd hj hjournal
      · rw [hs] at ht
        cases ht
        exact .inl (State.backing_native hnone)
      · rw [hs] at ht
        cases ht
        right; left
        simp [State.backing, hadmits]

/-- The two files an attempt leaves alone, and the witness that is then there. -/
structure Attested (d d' : Disk) : Prop where
  state : d'.state = d.state
  journal : d'.journal = d.journal
  witness : d'.runtimeRouting ≠ .absent

variable (hc : A.backs → c.runtimeControl = true) (hA : ¬ A.waits)
include hA

theorem writeRuntimeRouting_settled (h : Admissible c.store d) :
    Safe anyReply (Settled c A none) (c.store.writeRuntimeRouting c.codexConfigPath w)
      (outcome (fun _ d' => Attested d d') fun _ _ => True) d := by
  unfold Store.writeRuntimeRouting
  split
  · exact trivial
  · refine safe_if (fun _ => ?_) fun _ => trivial
    exact safe_store ((settled_inert c A none).asked d rfl)
      ⟨fun _ => .inl rfl, fun hw => absurd hw hA, fun _ => settles_witness h⟩
      ⟨rfl, rfl, by simp [FileWrite.apply]⟩ trivial

theorem planAttempt_settled {report : Err → Err} {planned : Option RuntimeRoutingJournal}
    (h : Admissible c.store d) :
    Safe anyReply (Settled c A none) (c.planAttempt report planned)
      (outcome (fun w' d' => planned = some w' ∧ Attested d d') fun _ _ => True) d := by
  unfold Controller.planAttempt
  split
  · exact trivial
  · exact safe_guarded_of (writeRuntimeRouting_settled hA h) (fun _ _ _ => trivial)
      fun _ d1 hd1 => ⟨rfl, hd1⟩

theorem markResolved_backed (hj : d.journal = .absent) (hw : d.runtimeRouting ≠ .absent) :
    Backed c A none (c.markRuntimeRoutingResolved w direction s) Clears d := by
  refine backed_unless fun _ => ?_
  exact backed_attempt (writeRuntimeRouting_settled hA (.inl hw)) fun _ d1 hd1 => backed_ret (hd1.journal.trans hj)

/-- Look at the route and mark the witness. -/
theorem verifyThenMark_backed (hj : d.journal = .absent) (hw : d.runtimeRouting ≠ .absent) :
    Backed c A none (attempt (c.verifyStableRuntimeRoute s selected) fun _ =>
      c.markRuntimeRoutingResolved w direction s) Clears d := by
  have hinert := settled_inert c A none
  have hverify : Frames anyReply (Settled c A none) id (c.verifyStableRuntimeRoute s selected) :=
    frames_read fun _ => frames_ite (fun _ => frames_pure _) fun _ =>
      frames_attempt (preflight_inert hinert) fun _ _ =>
        safe_require ⟨fun _ => trivial, fun h => absurd h hA, fun _ => trivial⟩ rfl rfl
  refine backed_attempt (hverify.same d) ?_
  rintro - _ rfl
  exact markResolved_backed hA hj hw

/-- The switch of an attempt, and what follows. -/
theorem switchThenSettle_backed {p : Op (Except Err Unit)}
    (hp : Backed c A none p (Switches d) d) (hw : d.runtimeRouting ≠ .absent) :
    Backed c A none (attempt p fun _ => c.settleRuntimeRouting w direction selected) Clears d := by
  refine backed_after hp ?_
  rintro - d1 ⟨hj1, hw1⟩
  rw [← hw1] at hw
  refine backed_question ((settled_inert c A none).asked d1 rfl) (backed_ret trivial) ?_
  refine backed_read ?_
  split
  · exact backed_ret trivial
  · exact backed_unless fun _ => markResolved_backed hA hj1 hw

/-- The durable state under a witness, without a journal. -/
structure UnderWitness (c : Controller) (A : Aims) (s : State) (d : Disk) : Prop where
  read : c.store.read d = .ok (s, false)
  journal : d.journal = .absent
  witness : d.runtimeRouting ≠ .absent
  bound : A.grows → s.boundCodexConfigPath = c.codexConfigPath

omit hA in
theorem UnderWitness.attested {d' : Disk} (h : UnderWitness c A s d) (hd : Attested d d') :
    UnderWitness c A s d' :=
  ⟨Store.read_congr h.read hd.state, hd.journal.trans h.journal, hd.witness, h.bound⟩

include hc

theorem applyPending_backed (h : UnderWitness c A s d) :
    Backed c A none (c.applyPendingRuntimeRouting w s direction selected) Clears d := by
  refine backed_unless fun _ => ?_
  refine backed_attempt (planAttempt_settled hA (.inl h.witness)) ?_
  rintro planned d1 ⟨-, hd1⟩
  have h1 := h.attested hd1
  exact switchThenSettle_backed hA (applyLocked_backed hc (fun _ => h1.read) h1.journal h1.bound
    fun hw => absurd hw hA) h1.witness

omit hc hA in
theorem stage_settled {t : State} (h : UnderWitness c A s d)
    (happlied : t.appliedBackend = s.appliedBackend)
    (hcodex : t.boundCodexConfigPath = s.boundCodexConfigPath) :
    Safe anyReply (Settled c A none) (c.stageRuntimeRouting w t target)
      (outcome (fun next d' => UnderWitness c A next d') fun _ _ => True) d := by
  unfold Controller.stageRuntimeRouting
  split
  · rename_i staged hstaged
    obtain ⟨hcodex', happlied', -⟩ := requestBackendTransition_eq hstaged
    have hb : A.grows → staged.boundCodexConfigPath = c.codexConfigPath :=
      fun hg => (hcodex'.trans hcodex).trans (h.bound hg)
    refine safe_attempt_of (save_stays ?_ fun _ => staying h.read h.journal (.inl h.witness) ?_)
      (fun _ _ _ => trivial) fun _ d1 hd1 => ⟨hd1.read, hd1.journal.trans h.journal, ?_, hb⟩
    · exact hb
    · exact happlied'.trans happlied
    · rw [hd1.runtimeRouting]
      exact h.witness
  · exact trivial

theorem switchStable_backed (h : UnderWitness c A s d) :
    Backed c A none (c.switchStableRuntimeRouting w s direction selected) Clears d := by
  refine backed_unless fun _ => ?_
  refine backed_attempt ((preflightRequested_inert (settled_inert c A none)).same d) ?_
  rintro - _ rfl
  refine backed_attempt (planAttempt_settled hA (.inl h.witness)) ?_
  rintro planned d1 ⟨-, hd1⟩
  exact backed_attempt (stage_settled (h.attested hd1) rfl rfl)
    fun next d2 h2 => applyPending_backed hc hA h2

theorem resume_backed (h : UnderWitness c A s d) (hphase : s.phase = .applying)
    (hdesired : s.desiredBackend = selected) :
    Backed c A none (c.resumeApplyingRuntimeRouting w s direction selected) Clears d := by
  refine backed_unless fun _ => ?_
  refine backed_attempt ((preflight_inert (settled_inert c A none)).same d) ?_
  rintro preflight _ rfl
  refine backed_attempt (planAttempt_settled hA (.inl h.witness)) ?_
  rintro planned d1 ⟨-, hd1⟩
  have h1 := h.attested hd1
  exact switchThenSettle_backed hA ((finishApplying_backed hc h1.read hphase hdesired h1.bound
    fun hw => absurd hw hA).mono (Concludes.switches rfl)) h1.witness

omit hc in
/-- **Replacing the state** without asking the relay: the applied backend stays, and the next
    generation is put in the place of the last. -/
theorem replaceRuntimeRouting_backed (h : UnderWitness c A s d)
    (happlied : s.appliedBackend = selected) :
    Backed c A none (c.replaceRuntimeRoutingState w s direction selected) Clears d := by
  refine backed_attempt (planAttempt_settled hA (.inl h.witness)) ?_
  rintro planned d1 ⟨hplan, hd1⟩
  obtain ⟨-, rfl⟩ := setAttempt_replace.mp hplan
  have h1 := h.attested hd1
  have hreplace : Safe anyReply (Settled c A none)
      (c.store.replace (Controller.replacedState s (s.generation + 1) selected))
      (Commits c.store _ d1) d1 :=
    replace_stays h1.bound (fun _ => (AtMost.of_read h1.read).newer rfl) fun _ =>
      staying h1.read h1.journal (.inl h1.witness) happlied.symm
  refine backed_attempt hreplace fun _ d2 hd2 => ?_
  refine verifyThenMark_backed hA (hd2.journal.trans h1.journal) ?_
  rw [hd2.runtimeRouting]
  exact h1.witness

/-- **A recovery under the witness**, beside a journal or from a parked state whose applied backend it
    keeps.  The parked state is new, or already there. -/
theorem recoverRuntimeRouting_backed {source : Option TransactionJournal}
    {park originAuthoritative : Bool} (hr : c.store.read d = .ok (s, false))
    (hw : d.runtimeRouting ≠ .absent)
    (hgen : A.grows → recovery.boundCodexConfigPath = c.codexConfigPath ∧
      s.generation ≤ recovery.generation ∧ (park = true → s.generation < recovery.generation))
    (h : d.journal ≠ .absent ∧ recovery.phase = .recoveryRequired ∨
      d.journal = .absent ∧ park = false ∧ recovery.appliedBackend = s.appliedBackend ∧
        selected ≠ s.appliedBackend) :
    Backed c A none (c.recoverRuntimeRouting w s recovery direction selected source park
      originAuthoritative legacy) Clears d := by
  refine backed_attempt (planAttempt_settled hA (.inl hw)) ?_
  rintro planned d1 ⟨-, hd1⟩
  have hr1 := Store.read_congr hr hd1.state
  rw [← hd1.journal] at h
  have hpark : Safe anyReply (Settled c A none) (if park = true then c.store.replace recovery
      else pure (.ok ())) (outcome (fun _ d' => d'.journal = d1.journal ∧
        d'.runtimeRouting ≠ .absent ∧ (A.grows → AtMost c recovery.generation d') ∧
        (d1.journal = .absent → d' = d1)) fun _ _ => True) d1 := by
    refine safe_if (fun hp => ?_) fun _ => ⟨rfl, hd1.witness, fun hg previous hread => ?_, fun _ => rfl⟩
    · rcases h with ⟨hj, hphase⟩ | ⟨-, hp', -⟩
      · refine (replace_stays (fun hg => (hgen hg).1) (fun hg => newer_of_read hr1
          ((hgen hg).2.2 hp)) fun _ => .inl (State.backing_journal hj (.inr hphase))).except_mono
          (fun _ _ _ => trivial) fun _ d' hd' => ?_
        refine ⟨hd'.journal, ?_, fun _ => AtMost.of_read hd'.read, fun habs => absurd habs hj⟩
        rw [hd'.runtimeRouting]
        exact hd1.witness
      · rw [hp] at hp'
        cases hp'
    · rw [hr1] at hread
      cases hread
      exact (hgen hg).2.1
  refine backed_attempt hpark ?_
  rintro - d2 ⟨hj2, hw2, hmost, hsame⟩
  refine switchThenSettle_backed hA (applyRecovery_backed hc (fun hg => ⟨(hgen hg).1, hmost hg⟩)
    (fun hw => absurd hw hA) fun required applying happlying => ?_) hw2
  obtain ⟨-, hphase, -, happlied, -⟩ := Controller.recoveryApplying_eq happlying
  rcases h with ⟨hj, -⟩ | ⟨hj, -, hkept, hne⟩
  · rw [← hj2] at hj
    exact .inl (State.backing_journal hj (.inl hphase))
  · rw [hsame hj]
    refine staying hr1 hj (.inl hd1.witness) ?_
    rw [happlied, if_neg (by rw [hkept]; exact hne), hkept]

omit hc hA in
/-- Retiring the journal of a switch whose final state is durable. -/
theorem settles_retire (hr : c.store.read d = .ok (s, false)) (hj : loadJournal d = .ok (some j))
    (hkind : j.kind = .routingSwitch) (hstable : stableStateForBackend s selected = true)
    (htarget : j.targetBackend = selected) (hstage : j.stage = .configMutated) :
    Settles c.store none (.wrote d { d with journal := .absent }) := by
  refine ⟨?_, fun _ ht => nomatch ht⟩
  have happlied : s.appliedBackend = selected := by
    simp only [stableStateForBackend, Bool.and_eq_true, decide_eq_true_eq] at hstable
    exact hstable.1.1.2
  have hr' : c.store.read { d with journal := .absent } = .ok (s, false) := Store.read_congr hr rfl
  have hbacking : c.store.backing d = s.appliedBackend := by
    rw [Store.backing_of_read hr]
    unfold loadJournal at hj
    cases hd : d.journal with
    | absent => simp [hd] at hj
    | malformed => simp [hd] at hj
    | record stored =>
      simp only [hd] at hj
      split_ifs at hj
      cases hj
      simp [State.backing, State.finishes, happlied, hstable, hkind, htarget, hstage]
  rw [hbacking, Store.backing_of_read hr']
  exact (State.backing_cases _ _ _).imp_right .inl

theorem transaction_backed (hev : c.runtimeRoutingEvidence d w = some (s, some j))
    (hw : d.runtimeRouting ≠ .absent) (hahead : A.grows → ¬ c.RecoveryBehind d) :
    Backed c A none (c.reconcileRuntimeRoutingTransaction w s j direction selected) Clears d := by
  obtain ⟨hr, hj, -⟩ := runtimeRoutingEvidence_eq hev
  have hpresent : d.journal ≠ .absent := by
    intro habs
    rw [loadJournal_absent habs] at hj
    cases hj
  refine backed_unless fun hfits => backed_ite (fun hfinal => ?_)
    fun _ => ?_
  · rw [not_or, not_not] at hfits
    refine backed_attempt (removeJournal_settled fun _ =>
      settles_retire hr hj hfits.1 hfinal.1 hfinal.2.1 hfinal.2.2) ?_
    rintro - _ rfl
    exact verifyThenMark_backed hA rfl hw
  · split
    · exact backed_ret trivial
    rename_i recovery hrecovery
    obtain ⟨hle, hphase, hcodex, -⟩ := recoveryStateBeyond_eq hrecovery
    refine recoverRuntimeRouting_backed hc hA hr hw (fun hg => ⟨hcodex, hle, fun hp => ?_⟩)
      (.inl ⟨hpresent, hphase⟩)
    by_contra hlt
    exact hahead hg ⟨w, s, j, recovery, hev, hrecovery, by simpa using hp,
      UInt64.le_antisymm (UInt64.not_lt.mp hlt) hle⟩

theorem withoutTransaction_backed (h : UnderWitness c A s d) :
    Backed c A none (c.reconcileRuntimeRoutingWithoutTransaction w s direction selected)
      Clears d := by
  have hgen : A.grows → s.boundCodexConfigPath = c.codexConfigPath ∧ s.generation ≤ s.generation ∧
      (false = true → s.generation < s.generation) :=
    fun hg => ⟨h.bound hg, UInt64.le_refl _, nofun⟩
  refine backed_ite (fun _ => backed_ite (replaceRuntimeRouting_backed hA h) fun hne => ?_) fun _ => ?_
  · refine backed_unless fun _ => ?_
    exact recoverRuntimeRouting_backed hc hA h.read h.witness hgen
      (.inr ⟨h.journal, rfl, rfl, fun hs => hne hs.symm⟩)
  · refine backed_unless fun _ => ?_
    refine backed_ite (fun happlied => replaceRuntimeRouting_backed hA h happlied.symm) fun hne => ?_
    refine backed_unless fun _ => ?_
    exact recoverRuntimeRouting_backed hc hA h.read h.witness hgen (.inr ⟨h.journal, rfl, rfl, hne⟩)

theorem reconcileFrom_backed
    {t : Option TransactionJournal} (hev : c.runtimeRoutingEvidence d w = some (s, t))
    (hw : d.runtimeRouting ≠ .absent) (hB : A.grows → c.Bound d ∧ ¬ c.RecoveryBehind d) :
    Backed c A none (c.reconcileFrom w s t direction) Clears d := by
  obtain ⟨hr, hload, -⟩ := runtimeRoutingEvidence_eq hev
  unfold Controller.reconcileFrom
  cases t with
  | some j => exact transaction_backed hc hA hev hw fun hg => (hB hg).2
  | none =>
    have h : UnderWitness c A s d :=
      ⟨hr, loadJournal_eq_none_iff.mp hload, hw, fun hg => (hB hg).1 s hr⟩
    refine backed_ite (fun _ => verifyThenMark_backed hA h.journal hw) fun _ => ?_
    refine backed_ite (fun _ => withoutTransaction_backed hc hA h) fun _ => ?_
    refine backed_ite (fun _ => switchStable_backed hc hA h) fun _ => ?_
    refine backed_ite (fun _ => ?_) fun _ => backed_ite (fun hphase => ?_) fun _ => backed_ret trivial
    · refine backed_ite (fun _ => applyPending_backed hc hA h) fun _ => ?_
      exact backed_ite (replaceRuntimeRouting_backed hA h) fun _ => backed_ret trivial
    · refine backed_ite (fun hdesired => resume_backed hc hA h hphase hdesired) fun _ => ?_
      exact backed_ite (replaceRuntimeRouting_backed hA h) fun _ => backed_ret trivial

theorem reconcile_backed
    (request : RuntimeRoutingRequest) (desktopExited : Bool)
    (hB : A.grows → c.Bound d ∧ ¬ c.RecoveryBehind d) :
    Backed c A none (c.reconcileRuntimeRouting request desktopExited) Clears d := by
  refine backed_unless fun _ => backed_unless fun _ =>
    backed_ungated fun gated => backed_unless fun _ => ?_
  refine backed_read ?_
  split
  · rename_i w hm hw
    refine backed_unless fun _ => ?_
    split
    · exact backed_ret trivial
    · rename_i s t hev
      refine reconcileFrom_backed hc hA hev (fun habs => ?_) hB
      simp [Store.loadRuntimeRouting, habs] at hw
  · exact backed_ret trivial

omit hc hA in
/-- A stable state relies on its backend already. -/
theorem stableRoutingState_admits (h : stableRoutingState s = true) :
    s.appliedBackend = .none ∨ s.allowsDataPlane = true := by
  simp only [stableRoutingState, stableStateForBackend, Bool.and_eq_true, decide_eq_true_eq] at h
  by_cases hnone : s.appliedBackend = .none
  · exact .inl hnone
  · right
    have hphase := h.2.1.1.1.1.2
    rw [if_neg hnone] at hphase
    simp [State.allowsDataPlane, hphase]

omit hc in
/-- Beginning an operation changes nothing, or starts where there is no journal. -/
theorem begin_backed (request : RuntimeRoutingRequest)
    (hB : A.grows → c.Bound d ∧ ¬ c.RecoveryBehind d) :
    Backed c A none (c.beginRuntimeRouting request)
      (outcome (fun _ d' => A.grows → c.Bound d' ∧ ¬ c.RecoveryBehind d') fun _ _ => True) d := by
  refine backed_ungated fun gated => backed_unless fun _ => ?_
  refine backed_read ?_
  split
  · exact backed_ite (fun _ => backed_ret hB) fun _ => backed_ret trivial
  · split
    swap
    · exact backed_ret trivial
    rename_i s hj hs
    refine backed_ite (fun hstable => ?_) fun _ => backed_ret trivial
    refine backed_unless fun _ => ?_
    refine backed_attempt ((preflightRequested_inert (settled_inert c A none)).same d) ?_
    rintro - _ rfl
    have hr := boundState_durable hs
    refine backed_attempt (planAttempt_settled hA (.inr (.inr ⟨s, Store.standing_of_read hr,
      stableRoutingState_admits hstable.2⟩))) ?_
    rintro planned d1 ⟨-, hd1⟩
    have h1 : UnderWitness c A s d1 := ⟨Store.read_congr hr hd1.state,
      hd1.journal.trans (loadJournal_eq_none_iff.mp hj), hd1.witness, fun _ => (boundState_eq hs).2⟩
    refine backed_attempt (stage_settled h1 ?_ ?_) fun next d2 h2 =>
      backed_ret fun hg => ⟨.of_read h2.read (h2.bound hg), ?_⟩
    · rfl
    · rfl
    -- without a journal there is no journal-derived recovery
    rintro ⟨w, s', j, recovery, hev, -⟩
    obtain ⟨-, hload, -⟩ := runtimeRoutingEvidence_eq hev
    rw [loadJournal_absent h2.journal] at hload
    cases hload
  · exact backed_ret trivial

theorem switch_backed
    (request : RuntimeRoutingRequest) (desktopExited : Bool)
    (hB : A.grows → c.Bound d ∧ ¬ c.RecoveryBehind d) :
    Backed c A none (c.switchRuntimeRouting request desktopExited) Clears d := by
  refine backed_unless fun _ => backed_unless fun _ =>
    ?_
  exact backed_after (begin_backed hA request hB)
    fun _ d1 hB1 => reconcile_backed hc hA request desktopExited hB1

omit hc in
theorem acknowledge_backed (request : RuntimeRoutingRequest) (generation : UInt64) :
    Backed c A none (c.acknowledgeRuntimeRouting request generation) Whatever d := by
  refine backed_unless fun _ => ?_
  refine backed_read ?_
  split
  swap
  · exact backed_ret trivial
  rename_i w hw hm
  refine backed_ite (fun _ => ?_) fun _ => backed_ret trivial
  split
  swap
  · exact backed_ret trivial
  rename_i s hev
  refine backed_ite (fun _ => ?_) fun _ => backed_ret trivial
  obtain ⟨hr, hload, -⟩ := runtimeRoutingEvidence_eq hev
  have hpresent : d.runtimeRouting ≠ .absent := by
    intro habs
    simp [Store.loadRuntimeRouting, habs] at hw
  refine backed_read ?_
  split
  · exact backed_ret trivial
  · refine backed_of_safe (safe_store ((settled_inert c A none).asked d rfl)
      ⟨fun _ => .inl rfl, fun h => absurd h hA, fun _ => ⟨?_, fun _ ht => nomatch ht⟩⟩ trivial trivial)
    -- without a journal the applied backend was relied on because of the witness
    have hr' : c.store.read { d with runtimeRouting := .absent } = .ok (s, false) :=
      Store.read_congr hr rfl
    have hbefore : s.backing .absent d.runtimeRouting = s.appliedBackend := by
      simp [State.backing, hpresent]
    rw [show FileWrite.removeRuntimeRouting.apply d = { d with runtimeRouting := .absent } from rfl,
      Store.backing_of_read hr', Store.backing_of_read hr, loadJournal_eq_none_iff.mp hload, hbefore]
    exact (State.backing_cases _ _ _).imp_right .inl

end RuntimeRouting

/-! ## Every call -/

/-- Every call that may write the routing state. -/
inductive ControllerCall where
  | requestBackend (target : Backend) (knownLegacyBackupAndMigrate : Bool)
      (witness : Option Controller.RequestWitness)
  | cancel
  | seedNativeParked
  | apply (desktopExited : Bool)
  | recover (action : RecoveryAction) (desktopExited : Bool)
  | repairNative (expectedGeneration : UInt64) (confirmed : Bool)
  | repairNativeRouting (expectedGeneration : UInt64) (owner : NativeRepairKind)
      (confirmed desktopExited : Bool) (restored : String)
  | gatewayApply (request : GatewayCandidate) (expectedConfigDigest : Fingerprint)
      (expectedRoutingGeneration : UInt64)
  | runtimeRouting (call : RuntimeRoutingCall)
  | maintenancePrepare (generation : UInt64) (intent : Intent)
  | maintenanceFinish (operation : ControlOperation) (witness : MaintenanceWitness)

namespace ControllerCall

def Result : ControllerCall → Type
  | .gatewayApply _ _ _ => Except Err GatewayApplyReceipt
  | .runtimeRouting call => call.Result
  | .maintenancePrepare _ _ => Except Err MaintenanceWitness
  | _ => Except Err Unit

def prog (c : Controller) (m : MaintenanceCoordinator) : (call : ControllerCall) → Op call.Result
  | .requestBackend target legacy witness => c.requestBackend target legacy witness
  | .cancel => c.cancel
  | .seedNativeParked => c.seedNativeParked
  | .apply desktopExited => c.apply desktopExited
  | .recover action desktopExited => c.recover action desktopExited
  | .repairNative generation confirmed => c.repairNative generation confirmed
  | .repairNativeRouting generation owner confirmed desktopExited restored =>
    c.repairNativeRouting generation owner confirmed desktopExited restored
  | .gatewayApply request digest generation => c.gatewayApply request digest generation
  | .runtimeRouting call => call.prog c
  | .maintenancePrepare generation intent => m.prepare generation intent
  | .maintenanceFinish operation witness => m.finish operation witness

/-- The two repairs. -/
def repairsNative : ControllerCall → Bool
  | .repairNative _ _ | .repairNativeRouting _ _ _ _ _ => true
  | _ => false

/-- The call is not made beside a journal that the state has overtaken. -/
def Ordered (c : Controller) : ControllerCall → Disk → Prop
  | .recover _ _, d => ¬ c.JournalBehind d
  | .runtimeRouting (.switch _ _), d | .runtimeRouting (.reconcile _ _), d => ¬ c.RecoveryBehind d
  | _, _ => True

/-- What a call may put back: a repair the state it has found, any other call nothing. -/
def Restored (c : Controller) (d : Disk) (call : ControllerCall) (next : State) (d' : Disk) : Prop :=
  call.repairsNative = true ∧ PutsBack c d next d'

/-- The call is one of the controller's own. -/
def ofController : ControllerCall → Bool
  | .maintenancePrepare _ _ | .maintenanceFinish _ _ => false
  | _ => true

/-- It is not a request on a legacy deployment that shows another backend. -/
def Plain (c : Controller) : ControllerCall → Disk → Prop
  | .requestBackend _ _ _, d => ¬ c.ShowsLocal d
  | _, _ => True

/-- The call carries out a switch, and has succeeded. -/
def succeeded : (call : ControllerCall) → call.Result → Bool
  | .apply _, r => Except.isOk (r : Except Err Unit)
  | .recover _ _, r => Except.isOk (r : Except Err Unit)
  | .runtimeRouting (.switch _ _), r => Except.isOk (r : Except Err UInt64)
  | .runtimeRouting (.reconcile _ _), r => Except.isOk (r : Except Err UInt64)
  | _, _ => false

/-- **Every call of the controller meets the demands**, and a successful switch leaves no journal. -/
theorem conduct {c : Controller} {m : MaintenanceCoordinator} {A : Aims} {d : Disk}
    (call : ControllerCall) (hcall : call.ofController = true) (hA : ¬ A.waits)
    (hbacks : A.backs → c.runtimeControl = true ∧ call.Plain c d)
    (hgrows : A.grows → c.Bound d ∧ call.Ordered c d ∧
      ∀ next d', call.Restored c d next d' → A.restored next d') :
    Backed c A none (call.prog c m) (fun r d' => call.succeeded r = true → d'.journal = .absent)
      d := by
  have hc : A.backs → c.runtimeControl = true := fun hb => (hbacks hb).1
  have hclears : ∀ {α : Type} (r : Except Err α) (d' : Disk), Clears r d' → r.isOk = true →
      d'.journal = .absent := by
    intro α r d' h hr
    cases r with
    | error e => cases hr
    | ok a => exact h
  cases call with
  | requestBackend target legacy witness =>
    exact (requestBackend_backed target legacy witness fun hb => (hbacks hb).2).mono
      fun _ _ _ h => nomatch h
  | cancel => exact cancel_backed.mono fun _ _ _ h => nomatch h
  | seedNativeParked => exact seedNativeParked_backed.mono fun _ _ _ h => nomatch h
  | apply desktopExited => exact (apply_backed hc desktopExited).mono hclears
  | recover action desktopExited =>
    exact (recover_backed hc action desktopExited fun hg => ⟨(hgrows hg).1, (hgrows hg).2.1⟩).mono
      hclears
  | repairNative generation confirmed =>
    exact (repairNative_backed generation confirmed fun hg next d' hput =>
      (hgrows hg).2.2 next d' ⟨rfl, hput⟩).mono fun _ _ _ h => nomatch h
  | repairNativeRouting generation owner confirmed desktopExited restored =>
    exact (repairNativeRouting_backed generation owner confirmed desktopExited restored
      fun hg next d' hput => (hgrows hg).2.2 next d' ⟨rfl, hput⟩).mono fun _ _ _ h => nomatch h
  | gatewayApply request digest generation =>
    exact (gatewayApply_backed hA request digest generation).mono fun _ _ _ h => nomatch h
  | runtimeRouting call =>
    cases call with
    | switch request desktopExited =>
      exact (switch_backed hc hA request desktopExited fun hg =>
        ⟨(hgrows hg).1, (hgrows hg).2.1⟩).mono hclears
    | reconcile request desktopExited =>
      exact (reconcile_backed hc hA request desktopExited fun hg =>
        ⟨(hgrows hg).1, (hgrows hg).2.1⟩).mono hclears
    | acknowledge request generation =>
      exact (acknowledge_backed hA request generation).mono fun _ _ _ h => nomatch h
  | maintenancePrepare generation intent => cases hcall
  | maintenanceFinish operation witness => cases hcall

/-- **Every call is backed.** -/
theorem backed {c : Controller} {m : MaintenanceCoordinator} {d : Disk}
    (hc : c.runtimeControl = true) (call : ControllerCall) (hcall : call.ofController = true)
    (hplain : call.Plain c d) (past : List Observed) :
    Traced anyReply (Honest c.store) (call.prog c m)
      (fun r d' _ => call.succeeded r = true → d'.journal = .absent) d past := by
  have h := call.conduct (m := m) (A := ⟨fun _ _ => True, False, False, True⟩) hcall id
    (fun _ => ⟨hc, hplain⟩) False.elim
  exact (h past (confirmed_none past)).mono (fun _ _ hC => hC.backs trivial) fun _ _ _ hr => hr

end ControllerCall

end OpenCodexRelay.Routing
