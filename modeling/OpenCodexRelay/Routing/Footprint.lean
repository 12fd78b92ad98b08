/-
  Footprints: which files the building blocks of a transaction can touch.

  The invariants proved later are about the routing state and the witnesses.  Most steps of a
  transaction have nothing to do with either: they edit the Codex artifacts, or they only ask.  One
  footprint lemma per building block says so, and `Safe.invariant` turns it into a rule that carries
  ANY predicate the block cannot disturb across it.  A native repair is such a block up to its commit.
-/
import OpenCodexRelay.Routing.Requests

namespace OpenCodexRelay.Routing

open Durable

/-! ## Classifying writes and questions -/

/-- The write touches a Codex artifact or the backup a legacy migration takes of one. -/
def FileWrite.editsCodex : FileWrite → Bool
  | .codex _ | .removeCodex | .profile _ | .removeProfile | .legacyBackup _ => true
  | _ => false

/-- The question only looks: no file changes because it was asked. -/
def Query.probe : Query → Bool
  | .recoveryGate | .removalWitnessMatches | .rebindRemovalWitness | .loadCredentials _
  | .credentialsUnchanged _ | .localPreflight _ | .applePreflight | .validateGateway _ => true
  | _ => false

/-- Only Codex artifacts are written. -/
def CodexEdits : Observed → Prop
  | .wrote d d' => ∃ w : FileWrite, w.editsCodex = true ∧ d' = w.apply d
  | .asked q _ => ∃ w : FileWrite, w.editsCodex = true ∧ q = .store w
  | .answered _ _ => True

/-- Everything but the Codex artifacts is the same. -/
structure Disk.SameControl (d d' : Disk) : Prop where
  state : d'.state = d.state
  marker : d'.marker = d.marker
  journal : d'.journal = d.journal
  maintenance : d'.maintenance = d.maintenance
  runtimeRouting : d'.runtimeRouting = d.runtimeRouting
  relay : d'.relay = d.relay
  gatewayBackup : d'.gatewayBackup = d.gatewayBackup

theorem Disk.SameControl.refl (d : Disk) : d.SameControl d := ⟨rfl, rfl, rfl, rfl, rfl, rfl, rfl⟩

variable {d d' : Disk} {C : Observed → Prop} {α : Type} {E : Env Disk Query (fun _ => Bool)}
variable {legacy desktopExited : Bool} {target : Backend} {c : Controller} {s : State}

theorem Disk.SameControl.edit (h : d.SameControl d') {w : FileWrite} (hw : w.editsCodex = true) :
    d.SameControl (w.apply d') := by
  cases w with
  | codex | removeCodex | profile | removeProfile | legacyBackup =>
    exact { h with }
  | _ => cases hw

section Codex

variable (c : Controller)

theorem store_codexEdits {w : FileWrite} (hw : w.editsCodex = true) :
    Always E CodexEdits (store w) :=
  fun _ => safe_store ⟨w, hw, rfl⟩ ⟨w, hw, rfl⟩ rfl rfl

theorem restoreCodex_codexEdits (f : File) : Always E CodexEdits (Controller.restoreCodex f) := by
  cases f with
  | content text => exact store_codexEdits rfl
  | irregular => exact frames_pure _
  | absent =>
    refine frames_read fun d => ?_
    split
    · exact frames_pure _
    · exact store_codexEdits rfl

/-- Two edits: after a failed second one the first is taken back, and the failure is reported. -/
theorem edits_codexEdits {p q r : Op (Except Err Unit)} (hp : Always E CodexEdits p)
    (hq : Always E CodexEdits q) (hr : Always E CodexEdits r) :
    Always E CodexEdits (guarded p refuse fun _ =>
      guarded q (fun e => r >>= fun _ => refuse e) fun _ => pure (.ok ())) :=
  frames_guarded hp (fun _ => frames_pure _) fun _ =>
    frames_guarded hq (fun _ => frames_bind hr fun _ => frames_pure _) fun _ => frames_pure _

theorem enableForOwner_codexEdits (general catalogPath : String) :
    Always E CodexEdits (c.enableForOwner general catalogPath) := by
  refine frames_read fun d => ?_
  split
  · exact frames_pure _
  · exact store_codexEdits rfl

theorem enableWithInteractiveProfile_codexEdits (cfg : Config) :
    Always E CodexEdits (c.enableWithInteractiveProfile cfg) := by
  refine frames_read fun d => frames_ite (fun _ => frames_pure _) fun _ => ?_
  exact edits_codexEdits (enableForOwner_codexEdits c _ _) (store_codexEdits rfl)
    (restoreCodex_codexEdits d.codex)

theorem disableForOwner_codexEdits : Always E CodexEdits c.disableForOwner := by
  refine frames_read fun d => ?_
  split
  · exact frames_pure _
  · exact frames_pure _
  · split
    · exact frames_pure _
    · exact frames_ite (fun _ => frames_pure _) fun _ => store_codexEdits rfl

theorem disableWithInteractiveProfile_codexEdits :
    Always E CodexEdits c.disableWithInteractiveProfile := by
  refine frames_read fun d => ?_
  split
  · exact frames_pure _
  · refine frames_ite (fun _ => frames_pure _) fun _ => ?_
    split
    · exact frames_pure _
    · exact disableForOwner_codexEdits c
    · refine frames_ite (fun _ => frames_pure _) fun _ => ?_
      exact edits_codexEdits (disableForOwner_codexEdits c) (store_codexEdits rfl)
        (restoreCodex_codexEdits d.codex)

theorem migrateLegacy_codexEdits : Always E CodexEdits c.migrateLegacy := by
  refine frames_read fun d => ?_
  split
  · exact frames_pure _
  · split
    · exact frames_pure _
    · exact frames_guarded (store_codexEdits rfl) (fun _ => frames_pure _) fun _ =>
        store_codexEdits rfl

theorem restoreLegacyMigrationBackup_codexEdits :
    Always E CodexEdits Controller.restoreLegacyMigrationBackup := by
  refine frames_read fun d => ?_
  split
  · exact store_codexEdits rfl
  · exact frames_pure _

theorem enableWithLegacyMigration_codexEdits (cfg : Config) :
    Always E CodexEdits (c.enableWithLegacyMigration cfg) := by
  refine frames_read fun d => ?_
  split
  · exact frames_pure _
  · exact enableWithInteractiveProfile_codexEdits c cfg
  · exact edits_codexEdits (migrateLegacy_codexEdits c)
      (enableWithInteractiveProfile_codexEdits c cfg) restoreLegacyMigrationBackup_codexEdits

theorem applyConfig_codexEdits (target : Backend) (cfg : Config) (legacy : Bool) :
    Always E CodexEdits (c.applyConfigWithLegacyIntent target cfg legacy) := by
  have henable : ∀ target, Always E CodexEdits (if legacy = true then
      if target ≠ Backend.external then refuse .recoveryRequired
      else c.enableWithLegacyMigration cfg
    else c.enableWithInteractiveProfile cfg) :=
    fun target => frames_ite (fun _ => frames_ite (fun _ => frames_pure _) fun _ =>
      enableWithLegacyMigration_codexEdits c cfg) fun _ => enableWithInteractiveProfile_codexEdits c cfg
  refine frames_read fun d => frames_ite (fun _ => frames_pure _) fun _ => ?_
  cases target with
  | none => exact disableWithInteractiveProfile_codexEdits c
  | unknown => exact frames_pure _
  | external => exact henable .external
  | localOpenCodex => exact henable .localOpenCodex
  | localAppleContainer => exact henable .localAppleContainer

/-- What a block of Codex edits leaves alone, it carries across. -/
theorem Safe.codexEdits {p : Op α} {post : α → Disk → Prop} (h : Always E CodexEdits p)
    (hask : ∀ w d', FileWrite.editsCodex w = true → d.SameControl d' → C (.asked (.store w) d'))
    (hwrote : ∀ w d', FileWrite.editsCodex w = true → d.SameControl d' →
      C (.wrote d' (w.apply d'))) (hpost : ∀ r d', d.SameControl d' → post r d') :
    Safe E C p post d := by
  refine (h d).invariant (Disk.SameControl.refl d) ?_ ?_ fun r d' _ => hpost r d'
  · rintro d1 d2 hsame ⟨w, hw, rfl⟩
    exact ⟨hsame.edit hw, hwrote w d1 hw hsame⟩
  · rintro q d1 hsame ⟨w, hw, rfl⟩
    exact hask w d1 hw hsame

end Codex

/-! ## Probes -/

theorem safe_recoveryGateActive {post : Bool → Disk → Prop} (hask : C (.asked .recoveryGate d))
    (hpost : ∀ b, post b d) : Safe E C c.recoveryGateActive post d := by
  unfold Controller.recoveryGateActive
  exact safe_if (fun _ => ⟨hask, fun _ _ => hpost _⟩) fun _ => hpost _

/-- Past the interlock neither the gate nor a lifecycle witness is active. -/
theorem safe_interlocked {post : Except Err α → Disk → Prop} {e : Err} {k : Op (Except Err α)}
    (hask : C (.asked .recoveryGate d)) (herr : post (.error e) d)
    (hk : c.maintenancePendingOrInvalid d = false → Safe E C k post d) :
    Safe E C (c.interlocked e k) post d := by
  unfold Controller.interlocked
  rw [safe_bind]
  refine safe_recoveryGateActive hask fun b => ?_
  refine safe_if (fun _ => herr) fun _ => ?_
  refine safe_read.mpr ?_
  exact safe_if (fun _ => herr) fun h => hk (by simpa using h)

theorem safe_withoutJournal {post : Except Err α → Disk → Prop} {k : Op (Except Err α)}
    (herr : post (.error .recoveryRequired) d)
    (hk : d.journal = .absent → Safe E C k post d) :
    Safe E C (Controller.withoutJournal k) post d := by
  refine safe_read.mpr ?_
  split
  · rename_i h
    exact hk (loadJournal_eq_none_iff.mp h)
  · exact herr

/-- A preflight looks and asks; a required migration is one to External, and was asked for. -/
theorem safe_preflight {post : Except Err Controller.BackendPreflight → Disk → Prop}
    (hask : ∀ q, Query.probe q = true → C (.asked q d)) (hok : ∀ p : Controller.BackendPreflight,
      (p.legacyMigrationRequired = true → target = .external ∧ legacy = true) → post (.ok p) d)
    (herr : ∀ e, post (.error e) d) :
    Safe E C (c.preflightBackendWithLegacyIntent target legacy) post d := by
  have hthen : ∀ (q : Query) (e : Err) (p : Controller.BackendPreflight), q.probe = true →
      (p.legacyMigrationRequired = true → target = .external ∧ legacy = true) →
      Safe E C (attempt (require q e) fun _ => pure (.ok p)) post d := by
    intro q e p hq hp
    rw [safe_attempt]
    exact safe_require (hask q hq) (hok p hp) (herr _)
  have hno : ∀ cfg : Config, ((⟨cfg, false⟩ : Controller.BackendPreflight).legacyMigrationRequired
      = true → target = .external ∧ legacy = true) := fun _ h => by cases h
  unfold Controller.preflightBackendWithLegacyIntent
  refine safe_read.mpr ?_
  split
  · exact herr _
  · rename_i cfg hcfg
    cases target with
    | none =>
      simp only
      split
      · exact herr _
      · exact hok _ (hno cfg)
    | unknown => exact herr _
    | external =>
      simp only
      refine safe_if (fun _ => herr _) fun _ => ?_
      split
      · exact herr _
      · rename_i required hplanned
        refine hthen _ _ _ rfl fun hreq => ⟨rfl, ?_⟩
        have hreq : required = true := hreq
        cases legacy with
        | true => rfl
        | false =>
          rw [hreq] at hplanned
          simp at hplanned
    | localOpenCodex =>
      simp only
      refine safe_if (fun _ => herr _) fun _ => ?_
      refine safe_if (fun _ => hok _ (hno cfg)) fun _ => ?_
      refine safe_if (fun _ => herr _) fun _ => ?_
      split
      · exact herr _
      · exact hthen _ _ _ rfl (hno _)
    | localAppleContainer =>
      simp only
      refine safe_if (fun _ => herr _) fun _ => ?_
      refine safe_if (fun _ => herr _) fun _ => ?_
      split
      · exact herr _
      · exact hthen _ _ _ rfl (hno _)

/-- So does the preflight of a request. -/
theorem safe_preflightRequested {post : Except Err Unit → Disk → Prop}
    (hask : ∀ q, Query.probe q = true → C (.asked q d)) (hpost : ∀ r, post r d) :
    Safe E C (c.preflightRequestedBackend target) post d := by
  have hprobe : ∀ (q : Query) (e : Err), q.probe = true → Safe E C (require q e) post d :=
    fun q _ hq => safe_require (hask q hq) (hpost _) (hpost _)
  cases target with
  | none => exact hpost _
  | unknown => exact hpost _
  | external =>
    simp only [Controller.preflightRequestedBackend, safe_read]
    split
    · exact hpost _
    · exact safe_if (fun _ => hpost _) fun _ => hpost _
  | localOpenCodex =>
    simp only [Controller.preflightRequestedBackend, safe_read]
    split
    · exact hpost _
    · rw [safe_ite, safe_ite]
      refine ⟨fun _ => hpost _, fun _ => ⟨fun _ => hpost _, fun _ => ?_⟩⟩
      split
      · exact hpost _
      · exact hprobe _ _ rfl
  | localAppleContainer =>
    simp only [Controller.preflightRequestedBackend, safe_read]
    split
    · exact hpost _
    · refine safe_if (fun _ => hpost _) fun _ => ?_
      split
      · exact hpost _
      · exact hprobe _ _ rfl

/-- And the preflight of a gateway change. -/
theorem safe_gatewayPreflight {request : GatewayCandidate}
    {post : Except Err GatewayPreflight → Disk → Prop}
    (hask : ∀ q, Query.probe q = true → C (.asked q d)) (hpost : ∀ r, post r d) :
    Safe E C (c.gatewayPreflight request) post d := by
  have hthen : ∀ (q : Query) (e : Err) (k : Unit → Op (Except Err GatewayPreflight)),
      q.probe = true → Safe E C (k ()) post d → Safe E C (attempt (require q e) k) post d := by
    intro q e k hq hk
    rw [safe_attempt]
    exact safe_require (hask q hq) hk (hpost _)
  refine safe_interlocked (hask _ rfl) (hpost _) fun _ => ?_
  refine safe_read.mpr ?_
  split
  swap
  · exact hpost _
  refine safe_if (fun _ => hpost _) fun _ => ?_
  split
  · exact hpost _
  split
  swap
  · exact hpost _
  rw [safe_ite, safe_ite, safe_ite]
  refine ⟨fun _ => hpost _, fun _ => ⟨fun _ => hpost _, fun _ => ⟨fun _ => hpost _, fun _ => ?_⟩⟩⟩
  refine safe_withoutJournal (hpost _) fun _ => hthen _ _ _ rfl (hthen _ _ _ rfl ?_)
  -- the second look, at the same files
  refine safe_read.mpr ?_
  refine safe_if (fun _ => hpost _) fun _ => ?_
  split
  · exact safe_if (fun _ => hpost _) fun _ => hthen _ _ _ rfl (hpost _)
  · exact hpost _

theorem safe_removalWitnessAllows {post : Except Err Unit → Disk → Prop}
    (hask : ∀ q, Query.probe q = true → C (.asked q d)) (hpost : ∀ r, post r d) :
    Safe E C c.removalWitnessAllows post d := by
  unfold Controller.removalWitnessAllows
  refine safe_if (fun _ => hpost _) fun _ => ?_
  refine safe_if (fun _ => hpost _) fun _ => ?_
  rw [safe_attempt]
  exact safe_require (hask _ rfl) (safe_require (hask _ rfl) (hpost _) (hpost _)) (hpost _)

/-- The evidence half of `Recover` only asks until it comes to the files. -/
theorem safe_recoverEvidence {action : RecoveryAction}
    {post : Except Err RecoveryPlan → Disk → Prop}
    (hask : ∀ q, Query.probe q = true → C (.asked q d)) (herr : ∀ e, post (.error e) d)
    (hfrom : c.maintenancePendingOrInvalid d = false →
      (c.durableState d).any Controller.mentionsApple = false →
      Controller.journalMentionsApple d = false →
      Safe E C (c.recoverFrom d action desktopExited) post d) :
    Safe E C (c.recoverEvidence action desktopExited) post d := by
  have hgate : Safe E C c.ordinaryGateActive (fun _ d' => d' = d) d := by
    unfold Controller.ordinaryGateActive
    exact safe_if (fun _ => rfl) fun _ => safe_recoveryGateActive (hask _ rfl) fun _ => rfl
  have hallows : Safe E C c.removalWitnessAllows
      (outcome (fun _ d' => d' = d) fun _ d' => d' = d) d := by
    refine safe_removalWitnessAllows hask fun r => ?_
    cases r <;> rfl
  unfold Controller.recoverEvidence
  refine safe_if (fun _ => herr _) fun _ => ?_
  rw [safe_bind]
  refine hgate.post_mono ?_
  rintro gated _ rfl
  refine safe_read.mpr ?_
  rw [safe_ite, safe_ite, safe_ite]
  refine ⟨fun _ => herr _, fun hlock => ⟨fun _ => herr _, fun hstate => ⟨fun _ => herr _,
    fun hjournal => ?_⟩⟩⟩
  refine safe_attempt_of hallows ?_ ?_
  · rintro e _ rfl
    exact herr e
  · rintro - _ rfl
    simp only [Bool.or_eq_true, not_or, Bool.not_eq_true] at hlock hstate hjournal
    exact hfrom hlock.1 hstate hjournal

/-- Which of its three ways it then takes. -/
theorem safe_recoverFrom {action : RecoveryAction} {post : Except Err RecoveryPlan → Disk → Prop}
    (herr : ∀ e, post (.error e) d)
    (hobserved : Safe E C (c.recoverObservedLocked (c.durableState d) desktopExited) post d)
    (hgateway : ∀ j selected stage, loadJournal d = .ok (some j) →
      post (.ok (.gateway (c.durableState d) j selected stage)) d)
    (hjournalled : ∀ j, loadJournal d = .ok (some j) → j.kind ≠ .gatewayReload →
      Safe E C (c.recoverJournalledLocked (c.durableState d) j action desktopExited) post d) :
    Safe E C (c.recoverFrom d action desktopExited) post d := by
  unfold Controller.recoverFrom
  simp only
  split
  · exact safe_if (fun _ => herr _) fun _ => hobserved
  · refine safe_if (fun _ => herr _) fun _ => ?_
    exact safe_if (fun _ => hobserved) fun _ => herr _
  · rename_i j hj
    refine safe_if (fun _ => herr _) fun _ => ?_
    refine safe_if (fun _ => ?_) fun hkind => hjournalled j hj hkind
    refine safe_if (fun _ => herr _) fun _ => ?_
    split
    · exact herr _
    · exact hgateway j _ _ hj

/-- `newJournal` looks at the fingerprints and writes nothing. -/
theorem safe_newJournal {post : Except Err TransactionJournal → Disk → Prop}
    (h : post (c.journalFor d s target legacy) d) :
    Safe E C (c.newJournal s target legacy) post d := h

/-- What a fresh journal records besides the fingerprints. -/
theorem Controller.journalFor_eq {j : TransactionJournal}
    (h : c.journalFor d s target legacy = .ok j) :
    j.schema = schemaVersion ∧ j.kind = .routingSwitch ∧ j.generation = s.generation ∧
      j.targetBackend = target ∧ j.originBackend = s.appliedBackend ∧
      j.knownLegacyBackupAndMigrate = legacy ∧ j.stage = .prepared := by
  unfold journalFor at h
  split at h
  · cases h
    exact ⟨rfl, rfl, rfl, rfl, rfl, rfl, rfl⟩
  · cases h
  · cases h
  · cases h

/-- The journal of a roll-back is the caller's, or a fresh one whose fingerprints are all the
    origin's. -/
theorem Controller.rollbackBase_schema {applying : State} {originDigest : Fingerprint}
    {journal : Option TransactionJournal} {j : TransactionJournal}
    (hschema : ∀ j ∈ journal, TransactionJournal.schema j = schemaVersion) (h : (match journal with
      | some j => Except.ok j
      | none => (c.journalFor d applying .external false).map fun (j : TransactionJournal) =>
        { j with
          kind := .gatewayReload
          originRelayConfigFingerprint := some originDigest
          targetRelayConfigFingerprint := some originDigest
          backupConfigFingerprint := some originDigest }) = .ok j) :
    j.schema = schemaVersion := by
  cases journal with
  | some j' =>
    cases h
    exact hschema j rfl
  | none =>
    cases hf : c.journalFor d applying .external false with
    | error e => rw [hf] at h; cases h
    | ok fresh =>
      rw [hf] at h
      cases h
      exact (journalFor_eq hf).1

/-! ## Up to the commit of a native repair -/

/-- What a repair asks before it commits. -/
def Query.beforeRepair : Query → Bool
  | .recoveryGate | .codexUnedited | .createNativeRepairBackup | .nativeOwnerReady
  | .nativeOwnerRestored | .nativeOwnerRetryable | .nativeOwnerDisabled => true
  | .store w => w.editsCodex
  | _ => false

/-- The demand minds neither those questions nor the editing of Codex artifacts. -/
structure Tolerates (C : Observed → Prop) : Prop where
  asked : ∀ {q : Query} (d : Disk), q.beforeRepair = true → C (.asked q d)
  wrote : ∀ {w : FileWrite} (d : Disk), w.editsCodex = true → C (.wrote d (w.apply d))

/-- The files a routing transaction is controlled by: everything but the Codex artifacts. -/
def Disk.control (d : Disk) : Disk :=
  { d with codex := .absent, profile := .absent, legacyBackup := .absent }

theorem Disk.control_eq_iff : d'.control = d.control ↔ d.SameControl d' := by
  unfold control
  constructor
  · intro h
    simp only [Disk.mk.injEq] at h
    obtain ⟨h1, h2, h3, h4, h5, h6, h7, -⟩ := h
    exact ⟨h1, h2, h3, h4, h5, h6, h7⟩
  · intro h
    rw [h.state, h.marker, h.journal, h.maintenance, h.runtimeRouting, h.relay, h.gatewayBackup]

/-- `RepairNativeRouting` up to its commit; it ends with the state to be replaced. -/
def Controller.beforeCommitNative (c : Controller) (expectedGeneration : UInt64)
    (owner : NativeRepairKind) (confirmed desktopExited : Bool) (restored : String) :
    Op (Except Err State) :=
  if !c.localDevelopmentOwner || expectedGeneration = 0 || !confirmed || !desktopExited ||
      owner = .other then refuse .nativeRepairUnavailable
  else
  attempt (c.inspectNativeRepair expectedGeneration owner) fun s =>
  attempt (if owner = .openCodex then require .nativeOwnerReady .nativeRepairUnavailable
    else pure (.ok ())) fun _ =>
  attempt (require .createNativeRepairBackup .nativeRepairUnavailable) fun _ =>
  attempt (c.inspectNativeRepair expectedGeneration owner) fun _ =>
  attempt (c.restoreNativeFiles expectedGeneration owner restored) fun _ =>
  .read fun d =>
  if !c.validateNative d then refuse .nativeVerification else
  attempt (if owner = .openCodex then require .nativeOwnerDisabled .nativeRepairUnavailable
    else pure (.ok ())) fun _ => pure (.ok s)

theorem Controller.repairNativeRouting_eq (c : Controller) (generation : UInt64)
    (owner : NativeRepairKind) (confirmed desktopExited : Bool) (restored : String) :
    c.repairNativeRouting generation owner confirmed desktopExited restored =
      attempt (c.beforeCommitNative generation owner confirmed desktopExited restored)
        fun s => c.commitNative s .nativeRepairUnavailable .nativeRepairUnavailable := by
  unfold repairNativeRouting beforeCommitNative
  rw [attempt_ite]
  refine if_congr Iff.rfl rfl ?_
  simp only [attempt_attempt]
  refine congrArg (attempt _) (funext fun s => congrArg (attempt _) (funext fun _ =>
    congrArg (attempt _) (funext fun _ => congrArg (attempt _) (funext fun _ =>
    congrArg (attempt _) (funext fun _ => congrArg Prog.read (funext fun d => ?_))))))
  refine Eq.trans ?_ (attempt_ite _ _ _).symm
  rw [attempt_attempt]
  rfl

/-- A state is read from the state file and the marker. -/
theorem Store.read_control {st : Store} (h : d.SameControl d') :
    st.read d' = st.read d := by
  unfold read
  rw [h.state, h.marker]

theorem State.validateForCodexConfig_eq_ok_iff :
    s.validateForCodexConfig c.store.paths c.store.configPath c.codexConfigPath = .ok () ↔
      s.WellFormed c.store.paths c.store.configPath ∧
        s.boundCodexConfigPath = c.codexConfigPath := by
  unfold validateForCodexConfig
  rw [← validateFor_eq_ok_iff, c.codex_canonical]
  cases s.validateFor c.store.paths c.store.configPath with
  | error e => simp
  | ok u => simp

section Repair

variable {generation : UInt64} {owner : NativeRepairKind} {restored : String}

/-- What a repair may replace: a bound, parked state with the expected generation, and no journal. -/
theorem repairableState_eq_ok_iff : c.repairableState d generation = .ok s ↔
    d.journal = .absent ∧ c.store.read d = .ok (s, false) ∧
    s.boundCodexConfigPath = c.codexConfigPath ∧ s.phase = .recoveryRequired ∧
    s.generation = generation ∧ s.generation ≠ maxGeneration := by
  unfold Controller.repairableState
  constructor
  · intro h
    split at h
    · rename_i s' hj hs'
      split_ifs at h with h1 h2
      cases h
      rw [not_or, not_not, not_not, State.validateForCodexConfig_eq_ok_iff] at h1
      rw [not_or, not_not] at h2
      exact ⟨loadJournal_eq_none_iff.mp hj, hs', h1.1.2, h1.2, h2.1, h2.2⟩
    · cases h
  · rintro ⟨hj, hr, hb, hphase, hgen, hmax⟩
    have hv := State.validateForCodexConfig_eq_ok_iff.mpr ⟨Store.read_wellFormed hr, hb⟩
    rw [loadJournal_eq_none_iff.mpr hj, hr]
    simp only
    rw [if_neg (by simp [hv, hphase]), if_neg (by simp [hgen, hgen ▸ hmax])]

theorem inspectNativeRepair_spec (hC : Tolerates C) :
    Safe E C (c.inspectNativeRepair generation owner)
      (outcome (fun s d' => d' = d ∧ c.maintenancePendingOrInvalid d = false ∧
        c.repairableState d generation = .ok s) fun _ d' => d' = d) d := by
  refine safe_interlocked (hC.asked d rfl) rfl fun hw => ?_
  refine safe_read.mpr ?_
  split
  · exact rfl
  · rename_i s hs
    refine safe_if (fun _ => rfl) fun _ => safe_attempt.mpr ?_
    exact safe_require (hC.asked d rfl) ⟨rfl, hw, hs⟩ rfl

theorem inspectNativeRepair_frames (hC : Tolerates C) :
    Frames E C Disk.control (c.inspectNativeRepair generation owner) :=
  fun _ => (inspectNativeRepair_spec hC).except_mono (fun _ _ h => congrArg Disk.control h)
    fun _ _ h => congrArg Disk.control h.1

theorem askNativeOwner_frames (hC : Tolerates C) {again : Op (Except Err Unit)}
    (h : Frames E C Disk.control again) :
    Frames E C Disk.control (c.askNativeOwner generation restored again) := by
  have hask : ∀ q : Query, q.beforeRepair = true → Frames E C Disk.control (ask q) :=
    fun q hq d => ⟨hC.asked d hq, fun _ _ => rfl⟩
  refine frames_attempt (inspectNativeRepair_frames hC) fun _ => ?_
  refine frames_attempt (fun d => safe_require (hC.asked d rfl) rfl rfl) fun _ =>
    frames_bind (hask _ rfl) fun _ => ?_
  refine frames_ite (fun _ d => safe_store (hC.asked d rfl) (hC.wrote d rfl) rfl rfl) fun _ => ?_
  refine frames_bind (hask _ rfl) fun _ => frames_ite (fun _ => ?_) fun _ => frames_pure _
  exact frames_attempt (inspectNativeRepair_frames hC) fun _ => h

/-- However often the other owner is asked, only the Codex config changes. -/
theorem restoreNativeOwner_frames (hC : Tolerates C) (retries : Nat) :
    Frames E C Disk.control (c.restoreNativeOwner generation restored retries) := by
  induction retries with
  | zero => exact askNativeOwner_frames hC (frames_pure _)
  | succ n ih => exact askNativeOwner_frames hC ih

theorem restoreNativeFiles_frames (hC : Tolerates C) :
    Frames E C Disk.control (c.restoreNativeFiles generation owner restored) := by
  cases owner with
  | localRelay =>
    exact fun d => Safe.codexEdits (disableWithInteractiveProfile_codexEdits c)
      (fun _ d' hw _ => hC.asked d' hw) (fun _ d' hw _ => hC.wrote d' hw)
      fun _ _ hsame => Disk.control_eq_iff.mpr hsame
  | openCodex => exact restoreNativeOwner_frames hC _
  | other => exact frames_pure _

/-- **Up to its commit a repair leaves the control files alone**; it gets there only with a state it
    may replace and with Codex files that prove native routing. -/
theorem beforeCommitNative_spec (hC : Tolerates C) {confirmed : Bool} :
    Safe E C (c.beforeCommitNative generation owner confirmed desktopExited restored)
      (outcome (fun s d' => d.SameControl d' ∧ c.maintenancePendingOrInvalid d = false ∧
        c.repairableState d generation = .ok s ∧ c.validateNative d' = true)
        fun _ d' => d.SameControl d') d := by
  have hrequire : ∀ (q : Query) (e : Err), q.beforeRepair = true →
      Frames E C Disk.control (require q e) :=
    fun q e hq d => safe_require (hC.asked d hq) rfl rfl
  have hready : ∀ q : Query, q.beforeRepair = true → Frames E C id
      (if owner = .openCodex then require q .nativeRepairUnavailable else pure (.ok ())) :=
    fun q hq => frames_ite (fun _ d => safe_require (hC.asked d hq) rfl rfl) fun _ => frames_pure _
  have hkept : ∀ {d'}, d' = d → d.SameControl d' := by
    rintro _ rfl
    exact .refl _
  refine safe_if (fun _ => .refl d) fun _ => ?_
  refine safe_attempt_of (inspectNativeRepair_spec hC) (fun _ _ h => hkept h) ?_
  rintro s _ ⟨rfl, hw, hs⟩
  refine safe_attempt_of ((hready _ rfl).same _) (fun _ _ h => hkept h) ?_
  rintro _ _ rfl
  refine safe_attempt_of ((hrequire _ _ rfl).outcome _) (fun _ _ h => Disk.control_eq_iff.mp h)
    fun _ d2 hd2 => ?_
  refine safe_attempt_of ((inspectNativeRepair_frames hC).outcome d2)
    (fun _ _ h => Disk.control_eq_iff.mp (h.trans hd2)) fun _ d3 hd3 => ?_
  refine safe_attempt_of ((restoreNativeFiles_frames hC).outcome d3)
    (fun _ _ h => Disk.control_eq_iff.mp (h.trans (hd3.trans hd2))) fun _ d4 hd4 => ?_
  have hsame := Disk.control_eq_iff.mp (hd4.trans (hd3.trans hd2))
  refine safe_if (fun _ => hsame) fun hnative => ?_
  refine safe_attempt_of ((hready _ rfl).same d4) (fun _ _ h => h ▸ hsame) ?_
  rintro _ _ rfl
  exact ⟨hsame, hw, hs, by simpa using hnative⟩

end Repair

end OpenCodexRelay.Routing
