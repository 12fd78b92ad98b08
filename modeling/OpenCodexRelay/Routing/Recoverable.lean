/-
  Where an interrupted switch can be recovered from.

  `Apply` replaces five files one after the other, and its journal remembers the fingerprints of
  three of them.  This module walks every place at which it can stop.

  1. `Position`: the four kinds of places — nothing has been written yet; the state is `applying` or
     parked and there is no journal; there is a journal; the switch is over.  A journal at stage
     `prepared` describes the Codex files as `Apply` FOUND them, one at stage `config_mutated` as
     they are NOW.
  2. `apply_position`: every stop of `Apply` is at one of them.
  3. `recoverable_iff`: what `Recover` makes of each.

  The crux is the window between the edit of the Codex files and the second journal: the journal
  still describes the files before the edit, and `Recover` takes the edit for somebody else's.
-/
import OpenCodexRelay.Routing.Evidence
import OpenCodexRelay.Routing.Generations

namespace OpenCodexRelay.Routing

open Durable
open Controller (Barred finalState journalMentionsApple journalledTarget mentionsApple recoverFrom)
open Sample (controller interrupted staged)

/-! ## Fingerprints -/

/-- The journal carries the fingerprints of the files on `d`. -/
structure TransactionJournal.Records (c : Controller) (j : TransactionJournal) (d : Disk) : Prop where
  relay : c.fingerprintOptional d.relay = (j.relayConfigFingerprint.elim (.error .io) .ok)
  codex : c.fingerprintOptional d.codex = (j.codexConfigFingerprint.elim (.error .io) .ok)
  profile : c.fingerprintOptional d.profile = (j.interactiveFingerprint.elim (.error .io) .ok)
  regular : d.Regular

/-- The Codex files of two disks cannot be told apart by their fingerprints. -/
def Controller.SameFingerprints (c : Controller) (d d' : Disk) : Prop :=
  c.fingerprintOptional d'.codex = c.fingerprintOptional d.codex ∧
    c.fingerprintOptional d'.profile = c.fingerprintOptional d.profile

variable {c : Controller} {legacy : Bool} {j : TransactionJournal} {d' d : Disk} {f : File}
variable {s t : State} {target : Backend} {cfg : Config}

theorem fingerprint_of_regular (h : f ≠ .irregular) :
    ∃ p, c.fingerprintOptional f = .ok p := by
  cases f with
  | absent => exact ⟨_, rfl⟩
  | irregular => exact absurd rfl h
  | content text => exact ⟨_, rfl⟩

theorem regular_of_fingerprint {p : Fingerprint} (h : c.fingerprintOptional f = .ok p) :
    f ≠ .irregular := by
  rintro rfl
  cases h

theorem records_of_journalFor (h : c.journalFor d s target legacy = .ok j) : j.Records c d := by
  unfold Controller.journalFor at h
  split at h
  · rename_i relay codex profile hrelay hcodex hprofile
    cases h
    exact ⟨hrelay, hcodex, hprofile, regular_of_fingerprint hrelay, regular_of_fingerprint hcodex,
      regular_of_fingerprint hprofile⟩
  · cases h
  · cases h
  · cases h

theorem TransactionJournal.Records.congr (h : j.Records c d) (hs : d.SameArtifacts d') :
    j.Records c d' := by
  refine ⟨?_, ?_, ?_, h.regular.congr hs⟩
  · rw [hs.relay]
    exact h.relay
  · rw [hs.codex]
    exact h.codex
  · rw [hs.profile]
    exact h.profile

/-- A recorded fingerprint is the current one exactly when the file has not changed it. -/
theorem fingerprint_matches {f' : File} {o : Option Fingerprint}
    (h : c.fingerprintOptional f = o.elim (.error .io) .ok) (hf : f ≠ .irregular) {p : Fingerprint}
    (hp : c.fingerprintOptional f' = .ok p) :
    some p = o ↔ c.fingerprintOptional f' = c.fingerprintOptional f := by
  obtain ⟨q, hq⟩ := fingerprint_of_regular (c := c) hf
  rw [hq] at h ⊢
  rw [hp]
  cases o with
  | none => cases h
  | some r =>
    cases h
    simp

/-- **A journal fits the files** exactly when they have the fingerprints of the files it was taken
    from. -/
theorem journalMatches_iff (h : j.Records c d) (hkind : j.kind = .routingSwitch)
    (hrelay : d'.relay = d.relay) (hreg : d'.Regular) :
    c.journalMatchesCurrentFiles d' j = true ↔ c.SameFingerprints d d' := by
  obtain ⟨r, hr⟩ := fingerprint_of_regular (c := c) hreg.relay
  obtain ⟨x, hx⟩ := fingerprint_of_regular (c := c) hreg.codex
  obtain ⟨p, hp⟩ := fingerprint_of_regular (c := c) hreg.profile
  have hsame : some r = j.relayConfigFingerprint :=
    (fingerprint_matches h.relay h.regular.relay hr).mpr (by rw [hrelay])
  unfold Controller.journalMatchesCurrentFiles Controller.SameFingerprints
  rw [hr, hx, hp]
  simp only [hkind, reduceCtorEq, if_false, hsame, decide_true, Bool.true_and, Bool.and_eq_true,
    decide_eq_true_eq]
  rw [fingerprint_matches h.codex h.regular.codex hx, fingerprint_matches h.profile
    h.regular.profile hp, hx, hp]

/-! ## Positions -/

/-- The durable state is `t`, and the controller may move both of its backends. -/
structure Holds (c : Controller) (d : Disk) (t : State) : Prop where
  marker : d.marker = .record ()
  read : c.store.read d = .ok (t, false)
  codex : t.boundCodexConfigPath = c.codexConfigPath
  desired_ne : t.desiredBackend ≠ .localAppleContainer
  applied_ne : t.appliedBackend ≠ .localAppleContainer

/-- The files `Apply` has no business with are those it was started with. -/
structure Untaken (d d' : Disk) : Prop where
  relay : d'.relay = d.relay
  maintenance : d'.maintenance = d.maintenance
  runtimeRouting : d'.runtimeRouting = d.runtimeRouting

/-- The journal of a switch that was started at `d`. -/
structure Journalled (c : Controller) (d d' : Disk) (j : TransactionJournal) : Prop where
  journal : d'.journal = .record j
  valid : j.valid = true
  kind : j.kind = .routingSwitch
  target_ne : j.targetBackend ≠ .localAppleContainer
  origin_ne : j.originBackend ≠ .localAppleContainer
  regular : d'.Regular
  /-- Before the edit it describes the files that were found, after it those that are there. -/
  recorded : (j.stage = .prepared ∧ j.Records c d) ∨ (j.stage = .configMutated ∧ j.Records c d')

/-- **The places at which `Apply` can stop.** -/
inductive Position (c : Controller) (d d' : Disk) : Prop where
  /-- At most the marker has been written. -/
  | untouched (state : d'.state = d.state) (journal : d'.journal = .absent)
  /-- The state has left its stable or pending position, and no journal says why. -/
  | bare (t : State) (holds : Holds c d' t) (untaken : Untaken d d')
      (phase : t.phase = .applying ∨ t.phase = .recoveryRequired) (journal : d'.journal = .absent)
  | journalled (t : State) (j : TransactionJournal) (holds : Holds c d' t) (untaken : Untaken d d')
      (written : Journalled c d d' j)
  /-- The switch is over. -/
  | finished (t : State) (holds : Holds c d' t)
      (phase : t.phase = .nativeActive ∨ t.phase = .relayActive) (journal : d'.journal = .absent)

/-- Every write ends at a position. -/
def StaysInPosition (c : Controller) (d : Disk) : Observed → Prop
  | .wrote _ d' => Position c d d'
  | _ => True

/-! ## The walk -/

section Walk

variable {E : Env Disk Query (fun _ => Bool)} {next : State}

theorem Holds.withState (h : Holds c d' t) (hw : next.WellFormed c.store.paths c.store.configPath)
    (hb : next.boundCodexConfigPath = c.codexConfigPath)
    (hd : next.desiredBackend ≠ .localAppleContainer)
    (ha : next.appliedBackend ≠ .localAppleContainer) : Holds c (d'.withState next) next :=
  ⟨h.marker, Store.read_withState hw, hb, hd, ha⟩

theorem Journalled.withState (h : Journalled c d d' j) : Journalled c d (d'.withState next) j where
  __ := h
  regular := h.regular.congr ⟨rfl, rfl, rfl⟩
  recorded := h.recorded.imp_right fun hm => ⟨hm.1, hm.2.congr ⟨rfl, rfl, rfl⟩⟩

/-- Saving over a state that is held: the marker is there already. -/
theorem save_position (h : Holds c d' t) (hat : Position c d d')
    (hpos : next.WellFormed c.store.paths c.store.configPath → Position c d (d'.withState next)) :
    Safe E (StaysInPosition c d) (c.store.save next)
      (outcome (fun _ d'' => d'' = d'.withState next ∧
        next.WellFormed c.store.paths c.store.configPath) fun _ d'' => d'' = d') d' := by
  have hm := Disk.marked_of_record h.marker
  refine safe_save (fun hchk => ?_) fun _ => rfl
  refine ⟨trivial, ?_, trivial, ?_, ?_, ?_⟩
  · rw [hm]
    exact hat
  · rw [hm]
    exact hpos hchk.wellFormed
  · rw [hm]
    exact ⟨rfl, hchk.wellFormed⟩
  · rintro d'' (rfl | rfl) _
    · rfl
    · exact hm

/-- The position of a state that is `applying` or parked, with or without a journal. -/
theorem position_of_journal (h : Holds c d' t) (hu : Untaken d d')
    (hphase : t.phase = .applying ∨ t.phase = .recoveryRequired)
    (hj : d'.journal = .absent ∨ ∃ j, Journalled c d d' j) : Position c d d' := by
  rcases hj with habs | ⟨j, hj⟩
  · exact .bare t h hu hphase habs
  · exact .journalled t j h hu hj

/-- **The one exit on failure** parks the state and leaves the journal. -/
theorem fail_stays {α : Type} (h : Holds c d' t) (hu : Untaken d d') (hat : Position c d d')
    (hj : d'.journal = .absent ∨ ∃ j, Journalled c d d' j) (e : Err) :
    Safe E (StaysInPosition c d) (c.failApplyingLocked t e : Op (Except Err α))
      (fun _ _ => True) d' := by
  unfold Controller.failApplyingLocked
  rw [safe_bind]
  have hsave : Safe E (StaysInPosition c d) (c.store.save { t with
      phase := .recoveryRequired, generation := t.generation + 1 }) _ d' :=
    save_position h hat fun hw => position_of_journal
      (h.withState hw h.codex h.desired_ne h.applied_ne)
      { hu with } (.inr rfl)
      (hj.imp_right fun ⟨j, hj⟩ => ⟨j, hj.withState⟩)
  exact hsave.post_mono fun _ _ _ => trivial

theorem require_stays {q : Query} {e : Err} : Safe E (StaysInPosition c d) (require q e)
    (outcome (fun _ d'' => d'' = d') fun _ d'' => d'' = d') d' :=
  safe_require trivial rfl rfl

/-- Writing a journal over a held state. -/
theorem writeJournal_stays (hschema : j.schema = schemaVersion)
    (hpos : j.valid = true → Position c d { d' with journal := .record j }) :
    Safe E (StaysInPosition c d) (writeJournal j)
      (outcome (fun _ d'' => d'' = { d' with journal := .record j } ∧ j.valid = true)
        fun _ d'' => d'' = d') d' :=
  safe_writeJournal hschema (fun _ => trivial) hpos (fun hv => ⟨rfl, hv⟩) fun _ => rfl

theorem materialize_stays : Safe E (StaysInPosition c d)
    (Controller.materializeLocalCatalog target cfg)
    (outcome (fun _ d'' => d'' = d') fun _ d'' => d'' = d') d' := by
  unfold Controller.materializeLocalCatalog
  exact safe_if (fun _ => require_stays) fun _ => rfl

theorem applyRuntime_stays : Safe E (StaysInPosition c d)
    (c.applyRuntime s target) (outcome (fun _ d'' => d'' = d') fun _ d'' => d'' = d') d' := by
  unfold Controller.applyRuntime
  exact safe_if (fun _ => require_stays) fun _ => rfl

/-- **The edit** leaves the state and the journal of a prepared switch alone. -/
structure Prepared (c : Controller) (d d' : Disk) (t : State) (j : TransactionJournal) : Prop where
  holds : Holds c d' t
  untaken : Untaken d d'
  written : Journalled c d d' j
  stage : j.stage = .prepared

theorem Prepared.position (h : Prepared c d d' t j) : Position c d d' :=
  .journalled t j h.holds h.untaken h.written

theorem Prepared.edit (h : Prepared c d d' t j) {w : FileWrite} (hw : w.editsCodex = true) :
    Prepared c d (w.apply d') t j := by
  have hs := (Disk.SameControl.refl d').edit hw
  refine ⟨{ h.holds with
      marker := hs.marker.trans h.holds.marker
      read := Store.read_congr h.holds.read hs.state },
    ⟨hs.relay.trans h.untaken.relay, hs.maintenance.trans h.untaken.maintenance,
      hs.runtimeRouting.trans h.untaken.runtimeRouting⟩,
    { h.written with
      journal := hs.journal.trans h.written.journal
      regular := h.written.regular.edit hw
      recorded := .inl ⟨h.stage, ?_⟩ }, h.stage⟩
  · rcases h.written.recorded with hp | hm
    · exact hp.2
    · have hstage := hm.1
      rw [h.stage] at hstage
      cases hstage

theorem applyConfig_stays (h : Prepared c d d' t j) :
    Safe E (StaysInPosition c d)
      (c.applyConfigWithLegacyIntent target cfg legacy)
      (outcome (fun _ d'' => Prepared c d d'' t j) fun _ d'' => Prepared c d d'' t j) d' := by
  refine (applyConfig_codexEdits c target cfg legacy d').invariant
    (I := fun d'' => Prepared c d d'' t j) h ?_ (fun _ _ _ _ => trivial) ?_
  · rintro d1 d2 h1 ⟨w, hw, rfl⟩
    exact ⟨h1.edit hw, (h1.edit hw).position⟩
  · intro r d'' _ h''
    cases r with
    | error e => exact h''
    | ok u => exact h''

/-- The second journal describes the files as they are when it is written. -/
theorem Prepared.mutate {updated mutated : TransactionJournal} (h : Prepared c d d' t j)
    (hrec : updated.Records c d') (hv : mutated.valid = true)
    (hm : mutated = { j with
      stage := .configMutated
      relayConfigFingerprint := updated.relayConfigFingerprint
      codexConfigFingerprint := updated.codexConfigFingerprint
      interactiveFingerprint := updated.interactiveFingerprint }) :
    Holds c { d' with journal := .record mutated } t ∧
      Untaken d { d' with journal := .record mutated } ∧
      Journalled c d { d' with journal := .record mutated } mutated := by
  subst hm
  exact ⟨{ h.holds with }, { h.untaken with }, { h.written with
    journal := rfl
    valid := hv
    regular := h.written.regular.congr ⟨rfl, rfl, rfl⟩
    recorded := .inr ⟨rfl, { hrec with regular := hrec.regular.congr ⟨rfl, rfl, rfl⟩ }⟩ }⟩

/-- **The end of the switch**: the final state, the removal of the journal, the wait. -/
theorem finish_stays {final : State} (h : Holds c d' t) (hu : Untaken d d')
    (hj : Journalled c d d' j) (hfinal : final = finalState t target)
    (htarget : target ≠ .localAppleContainer) :
    Safe E (StaysInPosition c d)
      (guarded (c.store.save final) (fun e => c.failApplyingLocked t e) fun _ =>
        attempt removeJournal fun _ =>
        guarded (require (.awaitFinalized final) .relayFinalization)
          (fun e => c.failApplyingLocked final e) fun _ => pure (.ok ()))
      (fun _ _ => True) d' := by
  subst hfinal
  have hat : Position c d d' := .journalled t j h hu hj
  have hphase : (finalState t target).phase = .nativeActive ∨
      (finalState t target).phase = .relayActive := by
    unfold finalState
    simp only
    split_ifs
    · exact .inl rfl
    · exact .inr rfl
  have hheld : (finalState t target).WellFormed c.store.paths c.store.configPath →
      Holds c (d'.withState (finalState t target)) (finalState t target) :=
    fun hw => h.withState hw h.codex htarget htarget
  have hu1 : Untaken d (d'.withState (finalState t target)) :=
    { hu with }
  refine safe_guarded_of (save_position h hat fun hw =>
    .journalled _ j (hheld hw) hu1 hj.withState) ?_ ?_
  · rintro e _ rfl
    exact fail_stays h hu hat (.inr ⟨j, hj⟩) e
  rintro - _ ⟨rfl, hw⟩
  have hholds := hheld hw
  have hlast : Holds c { d'.withState (finalState t target) with journal := .absent }
      (finalState t target) :=
    { hholds with }
  have hover : Position c d { d'.withState (finalState t target) with
      journal := .absent } := .finished _ hlast hphase rfl
  have hremove : Safe E (StaysInPosition c d) removeJournal
      (outcome (fun _ d'' => d'' = { d'.withState (finalState t target) with
        journal := .absent }) fun _ _ => True) (d'.withState (finalState t target)) :=
    safe_removeJournal trivial hover rfl fun _ => trivial
  refine safe_attempt_ok hremove ?_
  rintro - _ rfl
  refine safe_guarded_of require_stays ?_ fun _ _ _ => trivial
  rintro e _ rfl
  exact fail_stays hlast { hu with } hover (.inl rfl) e

/-- **The whole of the switch** after its `applying` state has been saved. -/
theorem finishApplying_stays {authoritative : Bool} (h : Holds c d' t) (hu : Untaken d d')
    (hj : d'.journal = .absent) (hsame : d.SameArtifacts d') (ht : t.phase = .applying)
    (htarget : target ≠ .localAppleContainer) :
    Safe E (StaysInPosition c d) (c.finishApplyingLockedWithOriginAuthority t cfg target
      authoritative legacy) (fun _ _ => True) d' := by
  have hbare : ∀ e, Safe E (StaysInPosition c d) (c.failApplyingLocked t e : Op (Except Err Unit))
      (fun _ _ => True) d' := fail_stays h hu (.bare t h hu (.inl ht) hj) (.inl hj)
  unfold Controller.finishApplyingLockedWithOriginAuthority
  rw [safe_guarded]
  apply safe_newJournal
  split
  · exact hbare _
  rename_i fresh hfresh
  obtain ⟨hschema, hkind, -, htgt, horg, -, hstage⟩ := Controller.journalFor_eq hfresh
  have hrec : fresh.Records c d := (records_of_journalFor hfresh).congr
    ⟨hsame.relay.symm, hsame.codex.symm, hsame.profile.symm⟩
  have hprepared : ∀ journal : TransactionJournal, journal = { fresh with
      originAuthoritative := authoritative && !legacy } → journal.valid = true →
      Prepared c d { d' with journal := .record journal } t journal := by
    rintro _ rfl hv
    exact ⟨{ h with },
      { hu with }, ⟨rfl, hv, hkind, htgt ▸ htarget,
        horg ▸ h.applied_ne, (records_of_journalFor hfresh).regular.congr ⟨rfl, rfl, rfl⟩,
        .inl ⟨hstage, { hrec with }⟩⟩, hstage⟩
  refine safe_guarded_of (writeJournal_stays hschema fun hv => (hprepared _ rfl hv).position) ?_ ?_
  · rintro e _ rfl
    exact hbare e
  rintro - _ ⟨rfl, hv⟩
  have hp := hprepared _ rfl hv
  -- every failure from here to the second journal parks beside the first
  have hfail : ∀ {journal : TransactionJournal} e d'', Prepared c d d'' t journal →
      Safe E (StaysInPosition c d) (c.failApplyingLocked t e : Op (Except Err Unit))
        (fun _ _ => True) d'' :=
    fun e d'' hp => fail_stays hp.holds hp.untaken hp.position (.inr ⟨_, hp.written⟩) e
  refine safe_guarded_of require_stays (fun e d'' hd => hd ▸ hfail e _ hp) ?_
  rintro - _ rfl
  refine safe_guarded_of materialize_stays (fun e d'' hd => hd ▸ hfail e _ hp) ?_
  rintro - _ rfl
  refine safe_guarded_of applyRuntime_stays (fun e d'' hd => hd ▸ hfail e _ hp) ?_
  rintro - _ rfl
  refine safe_guarded_of (applyConfig_stays hp) (fun e d'' hd => hfail e d'' hd) ?_
  intro _ d1 hp1
  rw [safe_guarded]
  apply safe_newJournal
  split
  · exact hfail _ d1 hp1
  rename_i updated hupdated
  have hmutate := fun hv => hp1.mutate (records_of_journalFor hupdated) hv rfl
  refine safe_guarded_of (writeJournal_stays hschema fun hv => ?_)
    (fun e d'' hd => hd ▸ hfail e _ hp1) ?_
  · obtain ⟨h2, hu2, hj2⟩ := hmutate hv
    exact .journalled t _ h2 hu2 hj2
  rintro - _ ⟨rfl, hv2⟩
  obtain ⟨h2, hu2, hj2⟩ := hmutate hv2
  exact finish_stays h2 hu2 hj2 rfl htarget

theorem applyLocked_stays (hb : t.boundCodexConfigPath = c.codexConfigPath)
    (hj : d.journal = .absent)
    (hd : t.desiredBackend ≠ .localAppleContainer) (ha : t.appliedBackend ≠ .localAppleContainer) :
    Safe E (StaysInPosition c d) (c.applyLocked t) (fun _ _ => True) d := by
  unfold Controller.applyLocked
  simp only
  refine safe_if (fun _ => trivial) fun _ => ?_
  rw [safe_attempt]
  refine safe_preflight (fun _ _ => trivial) (fun preflight _ => ?_) fun _ => trivial
  have hsave : Safe E (StaysInPosition c d) (c.store.save { t with
      phase := .applying
      knownLegacyBackupAndMigrate := preflight.legacyMigrationRequired
      generation := t.generation + 1 })
      (outcome (fun _ d' => Holds c d' { t with
          phase := .applying
          knownLegacyBackupAndMigrate := preflight.legacyMigrationRequired
          generation := t.generation + 1 } ∧ Untaken d d' ∧ d'.journal = .absent ∧
        d.SameArtifacts d') fun _ _ => True) d := by
    refine safe_save (fun hchk => ?_) fun _ => trivial
    have hholds : Holds c (d.marked.withState { t with
        phase := .applying
        knownLegacyBackupAndMigrate := preflight.legacyMigrationRequired
        generation := t.generation + 1 }) _ :=
      ⟨rfl, Store.read_withState hchk.wellFormed, hb, hd, ha⟩
    exact ⟨trivial, .untouched rfl hj, trivial, .bare _ hholds ⟨rfl, rfl, rfl⟩ (.inl rfl) hj,
      ⟨hholds, ⟨rfl, rfl, rfl⟩, hj, ⟨rfl, rfl, rfl⟩⟩, fun _ _ _ => trivial⟩
  refine safe_attempt_ok hsave ?_
  rintro - d1 ⟨hholds, hu, hj1, hsame⟩
  exact finishApplying_stays hholds hu hj1 hsame rfl hd

/-- **Every stop of `Apply`** is at a position, and behind the interlock if anything was written. -/
theorem apply_position {desktopExited : Bool} (hj : d.journal = .absent)
    (hstop : Stops E (c.apply desktopExited) d d') :
    Position c d d' ∧ (c.maintenancePendingOrInvalid d = true → d' = d) := by
  by_cases hlock : c.maintenancePendingOrInvalid d = true
  · have hsafe : Safe E (fun e => ∀ d1 d2, e = .wrote d1 d2 → d2 = d) (c.apply desktopExited)
        (fun _ _ => True) d := by
      unfold Controller.apply
      refine safe_if (fun _ => trivial) fun _ => ?_
      refine safe_interlocked (fun _ _ => nofun) trivial fun hopen => ?_
      rw [hlock] at hopen
      cases hopen
    have hsame : d' = d :=
      stops_of_safe (I := fun d2 => d2 = d) hsafe (fun d1 d2 h _ => h d1 d2 rfl) rfl hstop
    subst hsame
    exact ⟨.untouched rfl hj, fun _ => rfl⟩
  · refine ⟨?_, fun h => absurd h hlock⟩
    have hsafe : Safe E (StaysInPosition c d) (c.apply desktopExited) (fun _ _ => True) d := by
      unfold Controller.apply
      refine safe_if (fun _ => trivial) fun _ => ?_
      refine safe_interlocked trivial trivial fun _ => ?_
      refine safe_withoutJournal trivial fun _ => ?_
      refine safe_read.mpr ?_
      split
      · exact trivial
      rename_i s legacy hs
      refine safe_if (fun _ => trivial) fun _ => ?_
      refine safe_if (fun _ => trivial) fun happle => ?_
      simp only [Bool.or_eq_true, decide_eq_true_eq, not_or] at happle
      exact applyLocked_stays (boundState_eq hs).2 hj happle.1 happle.2
    exact stops_of_safe hsafe (fun _ _ h _ => h) (.untouched rfl hj) hstop

end Walk

/-! ## What `Recover` makes of each position -/

/-- `Recover` reaches the point at which it re-applies a backend. -/
def Controller.ReachesSwitch (c : Controller) (d : Disk) (action : RecoveryAction) : Prop :=
  ∃ recovery target originAuthoritative legacyMigration,
    (run succeed (c.recoverEvidence action true) d).1 =
      .ok (.switch recovery target originAuthoritative legacyMigration)

/-- Without a journal, recovery has to find out where Codex is. -/
theorem recoverObserved_reaches_iff {current : Option State} (hm : d.marker ≠ .malformed) :
    (∃ recovery target o l, (run succeed (c.recoverObservedLocked current true) d).1 =
        .ok (.switch recovery target o l)) ↔
      c.Identified d ∧ ∀ s, current = some s → s.generation ≠ maxGeneration := by
  rw [run_recoverObserved]
  constructor
  · rintro ⟨recovery, target, o, l, h⟩
    split at h
    · cases h
    rename_i observed hobserved
    have hid := identified_of_target hobserved
    refine ⟨hid, ?_⟩
    obtain ⟨observed', hobserved', hstate⟩ := target_of_identified hid
    rw [hobserved] at hobserved'
    cases hobserved'
    rw [← observedRecoveryState_generation_ne hstate]
    cases hr : (run succeed (c.store.replace
        (Controller.observedRecoveryState current observed)) d).1 with
    | error e =>
      rw [hr] at h
      cases h
    | ok u => exact (replace_ok_iff.mp hr).1.generation_ne
  · rintro ⟨hid, hroom⟩
    obtain ⟨observed, hobserved, hstate⟩ := target_of_identified hid
    rw [hobserved]
    have hgen := (observedRecoveryState_generation_ne hstate).mpr hroom
    simp only [replace_ok_iff.mpr ⟨observedRecoveryState_wellFormed hstate hgen, hm⟩]
    exact ⟨_, _, _, _, rfl⟩

/-- A valid journal always names a destination to complete. -/
theorem journalledTarget_complete (hs : validRecoveryBackend s.desiredBackend = true)
    (hv : j.valid = true) :
    ∃ target, journalledTarget s j .complete = some target := by
  have htarget : validBackend j.targetBackend = true := by
    simp only [TransactionJournal.valid, Bool.and_eq_true] at hv
    exact hv.1.1.1.1.1.2
  unfold journalledTarget
  simp only
  by_cases hu : s.desiredBackend = .unknown
  · rw [if_pos hu]
    exact ⟨j.targetBackend, by simp [Option.filter, htarget]⟩
  · rw [if_neg hu]
    unfold validRecoveryBackend at hs
    simp only [hu, decide_false, Bool.false_or] at hs
    exact ⟨s.desiredBackend, by simp [Option.filter, hs]⟩

/-- With one, the only thing that can be missing is a generation for the state it stands for. -/
theorem recoverJournalled_reaches_iff (hm : d.marker ≠ .malformed) (hv : j.valid = true)
    (ht : t.WellFormed c.store.paths c.store.configPath) :
    (∃ recovery target o l, (run succeed (c.recoverJournalledLocked (some t) j .complete true) d).1 =
        .ok (.switch recovery target o l)) ↔
      t.phase = .recoveryRequired ∨ j.generation ≠ maxGeneration := by
  rw [run_recoverJournalled]
  unfold Controller.parkedState
  by_cases hphase : t.phase = .recoveryRequired
  · have hshape := ht.shape
    unfold State.phaseShape at hshape
    rw [hphase] at hshape
    simp only [Bool.and_eq_true] at hshape
    obtain ⟨target, htarget⟩ := journalledTarget_complete hshape.1.2 hv
    simp only [Option.filter, hphase, decide_true, if_true, htarget, true_or, iff_true]
    exact ⟨_, _, _, _, rfl⟩
  · simp only [Option.filter, hphase, decide_false, Bool.false_eq_true, if_false, false_or]
    have hroom : j.generation + 1 ≠ 0 ↔ j.generation ≠ maxGeneration := by
      unfold maxGeneration
      grind
    have hok : (run succeed (c.store.replace (c.recoveryStateFromJournal j)) d).1 = .ok () ↔
        j.generation ≠ maxGeneration := by
      rw [replace_ok_iff, ← hroom]
      exact ⟨fun h => h.1.generation_ne, fun h => ⟨journalState_wellFormed hv h, hm⟩⟩
    have hdesired : validRecoveryBackend (c.recoveryStateFromJournal j).desiredBackend = true := by
      have htarget : validBackend j.targetBackend = true := by
        simp only [TransactionJournal.valid, Bool.and_eq_true] at hv
        exact hv.1.1.1.1.1.2
      simp [validRecoveryBackend, Controller.recoveryStateFromJournal, htarget]
    obtain ⟨target, htarget⟩ := journalledTarget_complete hdesired hv
    rw [← hok]
    cases (run succeed (c.store.replace (c.recoveryStateFromJournal j)) d).1 with
    | error e => simp [Except.bind]
    | ok u =>
      simp only [Except.bind, htarget, iff_true]
      exact ⟨_, _, _, _, rfl⟩

theorem Holds.durableState (h : Holds c d' t) : c.durableState d' = some t := by
  refine durableState_of_read (fun s hs => ?_) h.read
  rw [h.read] at hs
  cases hs
  exact h.codex

/-- Neither the lifecycle nor an Apple backend stands in the way of a switch `Apply` started. -/
theorem barred_iff (h : Holds c d' t) (hopen : c.maintenancePendingOrInvalid d' = false)
    (hj : journalMentionsApple d' = false) :
    c.Barred d' .complete ↔ ¬ (c.removalRecoveryWitness = true → c.recoveryGate = true) := by
  have hnot : mentionsApple t = false := by
    simp [mentionsApple, h.desired_ne, h.applied_ne]
  unfold Barred
  rw [h.durableState]
  simp [hopen, hj, hnot]

theorem Untaken.unlocked (h : Untaken d d') (hopen : c.maintenancePendingOrInvalid d = false) :
    c.maintenancePendingOrInvalid d' = false := by
  unfold Controller.maintenancePendingOrInvalid Store.loadMaintenance Store.loadRuntimeRouting
  rw [h.maintenance, h.runtimeRouting]
  exact hopen

/-- A barred recovery reaches nothing; any other reaches what its files authorise. -/
theorem reachesSwitch_iff {action : RecoveryAction} : c.ReachesSwitch d' action ↔
    ¬ c.Barred d' action ∧ ∃ recovery target o l,
      (run succeed (c.recoverFrom d' action true) d').1 = .ok (.switch recovery target o l) := by
  unfold Controller.ReachesSwitch
  by_cases hb : c.Barred d' action
  · rw [run_recoverEvidence_barred true hb]
    exact ⟨fun ⟨_, _, _, _, h⟩ => (by cases h), fun h => absurd hb h.1⟩
  · rw [run_recoverEvidence true hb]
    exact ⟨fun h => ⟨hb, h⟩, fun h => h.2⟩

/-- Where there is no transaction, there is nothing to recover. -/
theorem not_reachesSwitch_of_settled (hs : c.durableState d' = some t)
    (hphase : t.phase ≠ .applying ∧ t.phase ≠ .recoveryRequired) (hj : d'.journal = .absent) :
    ¬ c.ReachesSwitch d' .complete := by
  rw [reachesSwitch_iff]
  rintro ⟨-, recovery, target, o, l, h⟩
  have hnone : loadJournal d' = .ok none := loadJournal_absent hj
  unfold recoverFrom at h
  simp only [hnone, hs, Option.all_some, hphase.1, hphase.2, ne_eq, not_true_eq_false, if_false,
    decide_false, Bool.or_self, Bool.false_eq_true] at h
  cases h

/-! ## The result -/

/-- **Where a stopped switch can be recovered from.**  A removal controller needs its gate.  Without
    a journal the state must be on its way and the Codex files must identify one backend.  With one,
    the Codex files must still have the fingerprints they had when `Apply` was called, unless the
    journal was already written again AFTER the edit. -/
def Controller.Recoverable (c : Controller) (d d' : Disk) : Prop :=
  (c.removalRecoveryWitness = true → c.recoveryGate = true) ∧
  ∃ t, c.store.read d' = .ok (t, false) ∧
    match d'.journal with
    | .record j =>
      (j.stage = .configMutated ∨ c.SameFingerprints d d') ∧
        (t.phase = .recoveryRequired ∨ j.generation ≠ maxGeneration)
    | _ =>
      (t.phase = .applying ∨ t.phase = .recoveryRequired) ∧ t.generation ≠ maxGeneration ∧
        c.Identified d'

theorem recoverable_absent_iff (hr : c.store.read d' = .ok (t, false))
    (hj : d'.journal = .absent) : c.Recoverable d d' ↔
      (c.removalRecoveryWitness = true → c.recoveryGate = true) ∧
      (t.phase = .applying ∨ t.phase = .recoveryRequired) ∧ t.generation ≠ maxGeneration ∧
        c.Identified d' := by
  unfold Controller.Recoverable
  rw [hr, hj]
  simp

theorem recoverable_record_iff (hr : c.store.read d' = .ok (t, false))
    (hj : d'.journal = .record j) : c.Recoverable d d' ↔
      (c.removalRecoveryWitness = true → c.recoveryGate = true) ∧
      (j.stage = .configMutated ∨ c.SameFingerprints d d') ∧
        (t.phase = .recoveryRequired ∨ j.generation ≠ maxGeneration) := by
  unfold Controller.Recoverable
  rw [hr, hj]
  simp

theorem reaches_bare_iff (h : Holds c d' t) (hopen : c.maintenancePendingOrInvalid d' = false)
    (hphase : t.phase = .applying ∨ t.phase = .recoveryRequired) (hj : d'.journal = .absent) :
    c.ReachesSwitch d' .complete ↔ c.Recoverable d d' := by
  have hnone : loadJournal d' = .ok none := loadJournal_absent hj
  have hnoApple : journalMentionsApple d' = false := by
    unfold journalMentionsApple
    rw [hnone]
  have hall : (t.phase = .recoveryRequired || t.phase = .applying : Bool) = true := by
    rcases hphase with hp | hp <;> simp [hp]
  have hfrom : c.recoverFrom d' .complete true = c.recoverObservedLocked (some t) true := by
    unfold recoverFrom
    simp only [hnone, h.durableState, Option.all_some, ne_eq, not_true_eq_false, if_false]
    rw [if_pos hall]
  have hm : d'.marker ≠ .malformed := by
    rw [h.marker]
    nofun
  rw [reachesSwitch_iff, barred_iff h hopen hnoApple, not_not, hfrom,
    recoverObserved_reaches_iff hm, recoverable_absent_iff h.read hj]
  simp only [Option.some.injEq, forall_eq', hphase, true_and]
  exact and_congr_right fun _ => and_comm

theorem Journalled.matches_iff (h : Journalled c d d' j) (hu : Untaken d d') :
    c.journalMatchesCurrentFiles d' j = true ↔
      (j.stage = .configMutated ∨ c.SameFingerprints d d') := by
  rcases h.recorded with ⟨hstage, hrec⟩ | ⟨hstage, hrec⟩
  · rw [journalMatches_iff hrec h.kind hu.relay h.regular, hstage]
    simp
  · rw [journalMatches_iff hrec h.kind rfl h.regular, hstage]
    simp [Controller.SameFingerprints]

theorem reaches_journalled_iff (h : Holds c d' t) (hu : Untaken d d')
    (hopen : c.maintenancePendingOrInvalid d' = false) (hj : Journalled c d d' j) :
    c.ReachesSwitch d' .complete ↔ c.Recoverable d d' := by
  have hsome : loadJournal d' = .ok (some j) := loadJournal_record hj.journal hj.valid
  have hnoApple : journalMentionsApple d' = false := by
    unfold journalMentionsApple
    rw [hsome]
    simp [hj.target_ne, hj.origin_ne]
  have hm : d'.marker ≠ .malformed := by
    rw [h.marker]
    nofun
  rw [reachesSwitch_iff, barred_iff h hopen hnoApple, not_not,
    recoverable_record_iff h.read hj.journal, ← hj.matches_iff hu]
  refine and_congr_right fun _ => ?_
  unfold recoverFrom
  simp only [hsome, h.durableState, hj.kind, reduceCtorEq, if_false]
  cases hmatch : c.journalMatchesCurrentFiles d' j with
  | false =>
    refine ⟨fun ⟨_, _, _, _, hrun⟩ => ?_, fun hc => absurd hc.1 Bool.false_ne_true⟩
    simp only [Bool.not_false, if_true] at hrun
    cases hrun
  | true =>
    simp only [Bool.not_true, Bool.false_eq_true, if_false, true_and]
    exact recoverJournalled_reaches_iff hm hj.valid (Store.read_wellFormed h.read)

/-- **An interrupted `Apply` can be recovered exactly at the places `Recoverable` lists**, wherever
    it stopped and whatever it was answered on the way.  What is left out is the window between the
    edit of the Codex files and the journal that records it. -/
theorem recoverable_iff (c : Controller) (d d' : Disk) (s : State) (desktopExited : Bool)
    (hs : c.durableState d = some s) (hpending : pendingRoutingState s = true)
    (hj : d.journal = .absent) (hstop : Stops anyReply (c.apply desktopExited) d d') :
    c.ReachesSwitch d' .complete ↔ c.Recoverable d d' := by
  obtain ⟨hpos, hlocked⟩ := apply_position hj hstop
  have hsettled : ∀ {t : State}, c.durableState d' = some t →
      (t.phase ≠ .applying ∧ t.phase ≠ .recoveryRequired) → d'.journal = .absent →
      (c.ReachesSwitch d' .complete ↔ c.Recoverable d d') := by
    intro t ht hphase hj'
    refine iff_of_false (not_reachesSwitch_of_settled ht hphase hj') fun hrec => ?_
    rw [recoverable_absent_iff (durableState_eq ht).1 hj'] at hrec
    rcases hrec.2.1 with hp | hp
    · exact hphase.1 hp
    · exact hphase.2 hp
  -- a pending state is on its way neither to a backend nor to a recovery
  have hstart : s.phase ≠ .applying ∧ s.phase ≠ .recoveryRequired := by
    unfold pendingRoutingState at hpending
    constructor <;> intro hp <;> simp [hp] at hpending
  by_cases hopen : c.maintenancePendingOrInvalid d = true
  · rw [hlocked hopen] at hsettled ⊢
    exact hsettled hs hstart hj
  rw [Bool.not_eq_true] at hopen
  cases hpos with
  | untouched hstate hj' =>
    refine hsettled ?_ hstart hj'
    obtain ⟨hread, hcodex⟩ := durableState_eq hs
    have hread' := Store.read_congr hread hstate
    refine durableState_of_read (fun t ht => ?_) hread'
    rw [hread'] at ht
    cases ht
    exact hcodex
  | bare t holds untaken phase journal =>
    exact reaches_bare_iff holds (untaken.unlocked hopen) phase journal
  | journalled t j holds untaken written =>
    exact reaches_journalled_iff holds untaken (untaken.unlocked hopen) written
  | finished t holds phase journal =>
    refine hsettled holds.durableState ?_ journal
    rcases phase with hp | hp <;> simp [hp]

/-- A switch to native routing that dies right after its first journal. -/
theorem recoverable_after_journal :
    controller.ReachesSwitch (interrupted 4) .complete := by
  have hstop : Stops anyReply (controller.apply true) staged (interrupted 4) :=
    stops_halt succeed (fun _ _ => trivial) _ 4 _
  refine (recoverable_iff controller staged (interrupted 4) _ true rfl rfl rfl
    hstop).mpr ⟨nofun, _, rfl, .inr ⟨rfl, rfl⟩, .inr (by decide)⟩

/-- **The same switch, four writes later**: the Codex config has been edited, nobody else has touched
    anything, and the recovery is refused. -/
theorem not_recoverable_after_edit :
    controller.durableState staged =
        some (Sample.state 5 .none .external .nativePendingRestart) ∧
      Stops anyReply (controller.apply true) staged (interrupted 8) ∧
      (run succeed (controller.recoverEvidence .complete true) (interrupted 8)).1 =
        .error .recoveryRequired :=
  ⟨rfl, stops_halt succeed (fun _ _ => trivial) _ 8 _, rfl⟩

end OpenCodexRelay.Routing
