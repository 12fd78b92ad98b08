/-
  What goes through when nothing stands in the way.

  The footprint rules say what a block can NOT do, whatever its surroundings answer.  This module is
  the other half: under the answers `succeed` (every write takes place, every question is answered
  yes) a block returns a value, provided the pure checks on the files pass.

  1. One equation per write: `run_save`, `run_replace`, `run_writeJournal`, …
  2. The blocks that look at the Codex artifacts only give the same answer on every disk with the
     same artifacts (`Disk.SameArtifacts`), so a check made once holds until the artifacts are
     edited.
  3. The records a switch writes pass their own checks: its journals, its `applying` and its final
     state.
  4. `goes_to`: a walk through a program does not have to be made twice, once for what every
     run keeps and once for the run that goes through.
-/
import OpenCodexRelay.Routing.Footprint

namespace OpenCodexRelay.Routing

open Durable

/-! ## Calls that are ready -/

/-- Every question is answered yes, and every write takes place. -/
def Calm (E : Env Disk Query (fun _ => Bool)) : Prop := ∀ q d a, E q d a → a = true

variable {d d' : Disk} {j : TransactionJournal} {c : Controller} {b : Backend}

/-- A write that goes through, if `ready`, leaves no other disk than the one it is known to. -/
theorem goes_to {E : Env Disk Query (fun _ => Bool)} {C : Observed → Prop} {ready : Prop}
    {p : Op (Except Err Unit)} {ok : Unit → Disk → Prop} {err : Err → Disk → Prop} {d1 : Disk}
    (h : Safe E C p (outcome ok err) d) (calm : ready → Calm E)
    (hrun : ready → run succeed p d = (.ok (), d1)) :
    Safe E C p (outcome (fun a d' => ok a d' ∧ (ready → d' = d1)) fun e d' => err e d' ∧ ¬ ready)
      d := by
  refine (h.goes succeed calm fun hr => ⟨_, _, hrun hr⟩).ok_mono ?_
  rintro a d' ⟨hok, heq⟩
  exact ⟨hok, fun hr => congrArg Prod.snd ((heq hr).symm.trans (hrun hr))⟩

/-! ## Writes -/

section Writes

variable {st : Store} {next : State}

theorem run_writeInitializedMarker (hm : d.marker ≠ .malformed) :
    run succeed writeInitializedMarker d = (.ok (), d.marked) := by
  unfold writeInitializedMarker
  simp only [run]
  split
  · exact absurd ‹_› hm
  · rename_i hrecord
    rw [Disk.marked_of_record hrecord]
    rfl
  · rfl

theorem run_commitState (hm : d.marker ≠ .malformed) :
    run succeed (commitState next) d = (.ok (), d.marked.withState next) := by
  unfold commitState attempt guarded
  rw [run_bind, run_writeInitializedMarker hm]
  rfl

theorem run_replace (hn : next.WellFormed st.paths st.configPath) (hm : d.marker ≠ .malformed) :
    run succeed (st.replace next) d = (.ok (), d.marked.withState next) := by
  unfold Store.replace
  rw [State.validateFor_eq_ok_iff.mpr hn]
  exact run_commitState hm

theorem run_save {previous : State} (hn : next.WellFormed st.paths st.configPath)
    (hr : st.read d = .ok (previous, false)) (hlt : previous.generation < next.generation)
    (ht : validateTransition previous next = .ok ()) (hm : d.marker ≠ .malformed) :
    run succeed (st.save next) d = (.ok (), d.marked.withState next) := by
  unfold Store.save
  rw [State.validateFor_eq_ok_iff.mpr hn]
  simp only [run, hr]
  rw [if_neg fun hc => absurd hc.2 (UInt64.not_le.mpr hlt), if_neg fun hc => hc.2 ht]
  exact run_commitState hm

theorem run_writeJournal (hv : j.valid = true) :
    run succeed (writeJournal j) d = (.ok (), { d with journal := .record j }) := by
  unfold writeJournal
  simp only [normalizeTransactionJournal_of_schema (TransactionJournal.valid_schema hv), hv, if_true]
  rfl

theorem run_removeJournal : run succeed removeJournal d = (.ok (), { d with journal := .absent }) := by
  unfold removeJournal
  simp only [run]
  split
  · rename_i habs
    have hsame : { d with journal := .absent } = d := by rw [← habs]
    rw [hsame]
    rfl
  · rfl

theorem run_writeRuntimeRouting {w : RuntimeRoutingJournal}
    (hv : w.valid c.store.configPath c.codexConfigPath = true) :
    run succeed (c.store.writeRuntimeRouting c.codexConfigPath w) d =
      (.ok (), { d with runtimeRouting := .record w }) := by
  unfold Store.writeRuntimeRouting
  rw [c.codex_canonical]
  simp only [hv, if_true]
  rfl

end Writes

/-! ## Checks that look at the Codex artifacts only -/

/-- The files a preflight looks at are the same. -/
structure Disk.SameArtifacts (d d' : Disk) : Prop where
  relay : d'.relay = d.relay
  codex : d'.codex = d.codex
  profile : d'.profile = d.profile

/-- Every file a journal takes a fingerprint of has one. -/
structure Disk.Regular (d : Disk) : Prop where
  relay : d.relay ≠ .irregular
  codex : d.codex ≠ .irregular
  profile : d.profile ≠ .irregular

theorem Disk.Regular.congr (h : d.Regular) (hs : d.SameArtifacts d') :
    d'.Regular := by
  refine ⟨?_, ?_, ?_⟩
  · rw [hs.relay]
    exact h.relay
  · rw [hs.codex]
    exact h.codex
  · rw [hs.profile]
    exact h.profile

/-- What is edited is regular again. -/
theorem Disk.Regular.edit (h : d.Regular) {w : FileWrite} (hw : w.editsCodex = true) :
    (w.apply d).Regular := by
  cases w with
  | codex text | removeCodex => exact ⟨h.relay, nofun, h.profile⟩
  | profile text | removeProfile => exact ⟨h.relay, h.codex, nofun⟩
  | legacyBackup text => exact ⟨h.relay, h.codex, h.profile⟩
  | _ => cases hw

/-- The answer of a preflight is a function of the artifacts, and nothing is written. -/
theorem run_preflight (target : Backend) (legacy : Bool) (hs : d.SameArtifacts d') :
    run succeed (c.preflightBackendWithLegacyIntent target legacy) d' =
      ((run succeed (c.preflightBackendWithLegacyIntent target legacy) d).1, d') := by
  have hnative : c.preflightNative d' = c.preflightNative d := by
    unfold Controller.preflightNative
    rw [hs.codex, hs.profile]
  unfold Controller.preflightBackendWithLegacyIntent
  simp only [run, hs.relay, hs.codex, hs.profile, hnative]
  split
  · rfl
  · split
    · split <;> rfl
    · split
      · rfl
      · split <;> rfl
    · split
      · rfl
      · split
        · rfl
        · split
          · rfl
          · split <;> rfl
    · split
      · rfl
      · split
        · rfl
        · split <;> rfl
    · rfl

theorem run_enable (cfg : Config) (hs : d.SameArtifacts d') :
    (run succeed (c.enableWithInteractiveProfile cfg) d').1 =
      (run succeed (c.enableWithInteractiveProfile cfg) d).1 := by
  unfold Controller.enableWithInteractiveProfile Controller.enableForOwner
  simp only [run, hs.codex, hs.profile]
  split
  · rfl
  · simp only [attempt, guarded, run_bind, run, hs.codex]
    cases d.codex.readOptional.bind fun text =>
        c.codexText.prepareEnable text (Controller.baseURL cfg.listenAddress) cfg.catalogPath with
    | none => rfl
    | some updated => rfl

theorem run_disableForOwner (hs : d.SameArtifacts d') :
    (run succeed c.disableForOwner d').1 = (run succeed c.disableForOwner d).1 := by
  unfold Controller.disableForOwner
  simp only [run, hs.codex]
  split
  · rfl
  · rfl
  · split
    · rfl
    · split <;> rfl

theorem run_disable (hs : d.SameArtifacts d') :
    (run succeed c.disableWithInteractiveProfile d').1 =
      (run succeed c.disableWithInteractiveProfile d).1 := by
  unfold Controller.disableWithInteractiveProfile
  simp only [run, hs.codex, hs.profile]
  split
  · rfl
  · split
    · rfl
    · split
      · rfl
      · exact run_disableForOwner hs
      · split
        · rfl
        · simp only [attempt, guarded, run_bind, run_disableForOwner hs]
          split <;> rfl

theorem run_applyConfig (target : Backend) (cfg : Config) (hs : d.SameArtifacts d') :
    (run succeed (c.applyConfigWithLegacyIntent target cfg false) d').1 =
      (run succeed (c.applyConfigWithLegacyIntent target cfg false) d).1 := by
  have hmatch : c.routingArtifactsMatch d' target cfg = c.routingArtifactsMatch d target cfg := by
    unfold Controller.routingArtifactsMatch Controller.validateNative Controller.validateManaged
    rw [hs.codex, hs.profile]
  unfold Controller.applyConfigWithLegacyIntent
  simp only [run, hmatch]
  split
  · rfl
  · cases target with
    | none => exact run_disable hs
    | unknown => rfl
    | external | localOpenCodex | localAppleContainer => exact run_enable cfg hs

/-- Files with fingerprints give a journal. -/
theorem journalFor_regular (h : d.Regular) (s : State) (target : Backend) (legacy : Bool) :
    ∃ j, c.journalFor d s target legacy = .ok j := by
  have hfile : ∀ f : File, f ≠ .irregular → ∃ p, c.fingerprintOptional f = .ok p := by
    intro f hf
    cases f with
    | absent => exact ⟨_, rfl⟩
    | irregular => exact absurd rfl hf
    | content text => exact ⟨_, rfl⟩
  obtain ⟨relay, hrelay⟩ := hfile _ h.relay
  obtain ⟨codex, hcodex⟩ := hfile _ h.codex
  obtain ⟨profile, hprofile⟩ := hfile _ h.profile
  unfold Controller.journalFor
  rw [hrelay, hcodex, hprofile]
  exact ⟨_, rfl⟩

/-! ## The switch -/

section Switch

variable {applying : State} {cfg : Config} {target : Backend}

theorem validRelayBackend_of_valid (h : validBackend b = true) (hb : b ≠ .none) :
    validRelayBackend b = true := by
  cases b with
  | none => exact absurd rfl hb
  | unknown => cases h
  | external | localOpenCodex | localAppleContainer => rfl

theorem modeForBackend_relay (h : validRelayBackend b = true) :
    modeForBackend b = .relay := by
  cases b with
  | none | unknown => cases h
  | external | localOpenCodex | localAppleContainer => rfl

/-- The shape of a state that rests at one backend. -/
theorem phaseShape_stable {s : State} (hb : validBackend b = true) (hd : s.desiredBackend = b)
    (ha : s.appliedBackend = b) (hdm : s.desiredMode = modeForBackend b)
    (ham : s.appliedMode = modeForBackend b)
    (hp : s.phase = if b = .none then .nativeActive else .relayActive) : s.phaseShape = true := by
  unfold State.phaseShape
  by_cases hnone : b = .none
  · rw [if_pos hnone] at hp
    simp [hp, hd, ha, hnone]
  · rw [if_neg hnone] at hp
    have hrelay := validRelayBackend_of_valid hb hnone
    simp [hp, hd, ha, hdm, ham, hrelay, modeForBackend_relay hrelay]

theorem finalState_wellFormed {P : Paths} {bound : String} (h : applying.WellFormed P bound)
    (ht : validBackend target = true) (hg : applying.generation ≠ maxGeneration) :
    (Controller.finalState applying target).WellFormed P bound := by
  refine ⟨h.schema_eq, ?_, h.config_eq, h.codex_eq, rfl, rfl, nofun,
    phaseShape_stable ht rfl rfl rfl rfl rfl⟩
  show applying.generation + 1 ≠ 0
  unfold maxGeneration at hg
  grind

theorem validateTransition_final (hphase : applying.phase = .applying)
    (hd : applying.desiredBackend = target) (ht : validBackend target = true) :
    validateTransition applying (Controller.finalState applying target) = .ok () := by
  unfold validateTransition validTransition Controller.finalState
  by_cases hnone : target = .none
  · simp [hphase, hd, hnone]
  · simp [hphase, hd, hnone, validRelayBackend_of_valid ht hnone]

/-- A journal of an ordinary switch between two known backends. -/
theorem journal_valid {authoritative : Bool} (h : c.journalFor d applying target false = .ok j)
    (hg : applying.generation ≠ 0) (ht : validBackend target = true)
    (ho : validBackend applying.appliedBackend = true) (stage : TransactionStage)
    (relay codex interactive : Option Fingerprint) :
    TransactionJournal.valid { j with
      originAuthoritative := authoritative
      stage := stage
      relayConfigFingerprint := relay
      codexConfigFingerprint := codex
      interactiveFingerprint := interactive } = true := by
  unfold Controller.journalFor at h
  split at h
  · cases h
    simp [TransactionJournal.valid, hg, ht, ho]
  · cases h
  · cases h
  · cases h

/-- The parked state a valid journal stands for is well formed, under any generation. -/
theorem journalState_wellFormed {g : UInt64} (hv : j.valid = true) (hg : g ≠ 0) :
    State.WellFormed c.store.paths c.store.configPath
      { c.recoveryStateFromJournal j with generation := g } := by
  simp only [TransactionJournal.valid, Bool.and_eq_true, decide_eq_true_eq] at hv
  obtain ⟨⟨⟨⟨⟨⟨-, htarget⟩, horigin⟩, hdesired⟩, happlied⟩, -⟩, hlegacy⟩ := hv
  refine ⟨rfl, hg, rfl, c.codex_canonical, hdesired, happlied, fun hk => ?_, ?_⟩
  · have hk' : j.knownLegacyBackupAndMigrate = true := hk
    simp only [hk', Bool.not_true, Bool.false_or, Bool.and_eq_true, decide_eq_true_eq] at hlegacy
    exact hlegacy.2
  · have hmode : ∀ m, validRecoveryMode m = true := by
      intro m
      cases m <;> rfl
    simp [State.phaseShape, Controller.recoveryStateFromJournal, newRecoveryState,
      validRecoveryBackend, htarget, horigin, hmode]

end Switch

end OpenCodexRelay.Routing
