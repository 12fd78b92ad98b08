/-
  Taking a migration back.

  The rollback is followed ONCE, in an environment that is left open.  If any call may fail, every durable
  step leaves a disk that its journal tracks; if none does, the rollback ends well or the disk was torn.

  1. `Torn`: the one position from which there is no way back.  The journal names the Codex config as
     migrated while the file has its original content: `apply` died between the two, or an earlier
     `rollback` has restored it.  The digest does not match, and the rollback is refused.
  2. The checks, the deletions and the restorations; `rollback_safe` puts them together.
  3. `rollback_restores`: from every other position that interruptions can lead to, the files and the
     Keychain are what they were.  The journal stays, marked as rolled back.  `rollback_torn`: from a torn
     one no rollback succeeds.
-/
import OpenCodexRelay.LegacyMigration.Tracking

namespace LegacyMigration

open Durable

section Reversal

variable {δ : Type} {digest : Bytes → δ} {validDigest : δ → Bool} {start : Disk δ}
  {items : List Mapping} {keys : List Service} {record : Journal δ} {d d' : Disk δ} {item : Mapping}
  {service : Service}

/-- `apply` accepts the disk: no journal, no maintenance, and the preflight passes. -/
structure Accepts (start : Disk δ) : Prop where
  journal : start.journal = none
  maintenance : start.maintenance = false
  preflight : ∃ r, (run allOk inspect start).1 = .ok r ∧ r.status ≠ .blocked

/-- **The disk is what it was.**  A rewritten Codex config has its content back, but not its mode. -/
structure Restored (start d : Disk δ) : Prop where
  files : ∀ path, path ≠ .codexConfig → (∀ name, path ≠ .backup name) → d.files path = start.files path
  codexConfig : d.files .codexConfig = start.files .codexConfig ∨ ∃ content mode,
    start.files .codexConfig = some (.file content mode) ∧
      d.files .codexConfig = some (.file content 0o600)
  keychain : d.keychain = start.keychain

/-- **The journal names the Codex config as migrated while it has its original content.** -/
def Torn (start d : Disk δ) : Prop :=
  ∃ record, d.journal = some record ∧ (∃ e ∈ record.artifacts, e.path = .codexConfig) ∧
    shape (d.files .codexConfig) = shape (start.files .codexConfig)

/-- A file that is rewritten in place has been rewritten. -/
def Converted (start : Disk δ) (files : Path → Option Entry) (item : Mapping) : Prop :=
  item.inPlace = true → files item.destination = some (.file (after start item) 0o600)

/-- What a listed file will be. -/
def restored (start : Disk δ) (item : Mapping) : Option Entry :=
  if item.inPlace then some (.file (before start item) 0o600) else none

/-! ## What the rollback reads -/

theorem inPlace_destination :
    ∀ item ∈ mappings, item.inPlace = true ↔ item.destination = .codexConfig := by
  decide

theorem entryOf_created : (entryOf digest start item).created = !item.inPlace := rfl

theorem entryOf_backup (h : item.inPlace = true) :
    (entryOf digest start item).backup = some (.backup item.name) := if_pos h

/-- The original content of the Codex config, beside its entry. -/
theorem Staged.torn (h : Staged start d.files item) (hitem : item ∈ mappings)
    (hjournal : d.journal = some record) (hentry : entryOf digest start item ∈ record.artifacts)
    (hin : item.inPlace = true) :
    Torn start d ↔ ∃ mode, d.files item.destination = some (.file (before start item) mode) := by
  have hcodex := (inPlace_destination item hitem).mp hin
  obtain ⟨mode', hsource⟩ := h.source
  rw [inPlace_source item hitem hin] at hsource
  constructor
  · rintro ⟨-, -, -, hshape⟩
    rw [← hcodex, hsource] at hshape
    rcases h.content with hafter | ⟨hcopied, -⟩ | ⟨-, hbefore⟩
    · rw [hafter] at hshape
      exact absurd (Option.some.inj (Option.some.inj hshape)).symm (h.changes hin)
    · rw [hin] at hcopied
      cases hcopied
    · exact hbefore
  · rintro ⟨mode, hbefore⟩
    refine ⟨record, hjournal, ⟨_, hentry, hcodex⟩, ?_⟩
    rw [← hcodex, hbefore, hsource]
    rfl

variable {E : Env (Disk δ) Access (fun _ => Bool)} {T : Prop}

theorem safe_readArtifact (h : Staged start d.files item) :
    Safe E (Kept digest start) (readArtifact (entryOf digest start item))
      (outcome (fun content d' => d' = d ∧
        ((content = none ∧ item.inPlace = false ∧ d.files item.destination = none) ∨
          ∃ bytes mode, content = some bytes ∧ d.files item.destination = some (.file bytes mode)))
        fun _ _ => Fails E ∨ T) d := by
  refine safe_guarded_of (says_readFile _) ?_ ?_
  · rintro e d' ⟨rfl, ⟨hf, rfl⟩ | he⟩
    · exact safe_if (fun hc => nomatch hc.1) fun _ => .inl hf
    · have hpath : (entryOf digest start item).path = item.destination := rfl
      rw [hpath] at he
      rcases h.content with hafter | ⟨hcopied, habsent⟩ | ⟨-, mode, hbefore⟩
      · rw [hafter] at he
        cases he
      · rw [habsent] at he
        cases he
        refine safe_if (fun _ => ⟨rfl, .inl ⟨rfl, hcopied, habsent⟩⟩) fun hno => absurd ⟨rfl, ?_⟩ hno
        rw [entryOf_created, hcopied]
        rfl
      · rw [hbefore] at he
        cases he
  · rintro content d' ⟨rfl, hc⟩
    obtain ⟨mode, hfile⟩ := contentOf_ok hc
    exact ⟨rfl, .inr ⟨content, mode, rfl, hfile⟩⟩

/-- The digest of a converted file is the one in the journal. -/
theorem torn_of_digest (h : Staged start d.files item) (hT : T ∨ Converted start d.files item)
    {bytes : Bytes} {mode : ℕ} (hfile : d.files item.destination = some (.file bytes mode))
    (hne : digest bytes ≠ digest (after start item)) : T := by
  rcases hT with hT | hconverted
  · exact hT
  have hafter : d.files item.destination = some (.file (after start item) 0o600) := by
    rcases h.content with hafter | ⟨-, habsent⟩ | ⟨hin, -⟩
    · exact hafter
    · rw [hfile] at habsent
      cases habsent
    · exact hconverted hin
  rw [hfile] at hafter
  cases hafter
  exact absurd rfl hne

variable [DecidableEq δ]

/-! ## The checks -/

theorem checkArtifact_safe (h : Staged start d.files item) (hT : T ∨ Converted start d.files item) :
    Safe E (Kept digest start) (checkArtifact digest (entryOf digest start item))
      (outcome (fun _ d' => d' = d ∧ (Function.Injective digest → ∀ mode,
        d.files item.destination = some (.file (before start item) mode) → item.inPlace = false))
        fun _ _ => Fails E ∨ T) d := by
  refine safe_attempt_ok (safe_readArtifact h) ?_
  rintro content d' ⟨rfl, ⟨rfl, hcopied, -⟩ | ⟨bytes, mode, rfl, hfile⟩⟩
  · exact ⟨rfl, fun _ _ _ => hcopied⟩
  refine safe_if (fun hne => .inr (torn_of_digest h hT hfile hne)) fun hdigest => ?_
  refine safe_if (fun hcreated => ⟨rfl, fun _ _ _ => ?_⟩) fun hcreated => ?_
  · simpa [entryOf] using hcreated
  have hin : item.inPlace = true := by simpa [entryOf] using hcreated
  rw [entryOf_backup hin]
  refine safe_guarded_of (says_regular _) ?_ ?_
  · rintro e d'' ⟨rfl, ⟨hf, -⟩ | he⟩
    · exact .inl hf
    · rw [h.backup hin] at he
      cases he
  · rintro found d'' ⟨rfl, hfound⟩
    rw [h.backup hin] at hfound
    cases hfound
    refine ⟨rfl, fun hinjective mode' hbefore => ?_⟩
    rw [hfile] at hbefore
    cases hbefore
    exact absurd (hinjective (not_not.mp hdigest)) (h.changes hin)

theorem checkArtifacts_safe {l : List Mapping}
    (h : ∀ a ∈ l, Staged start d.files a ∧ (T ∨ Converted start d.files a)) :
    Safe E (Kept digest start) (checkArtifacts digest (l.map (entryOf digest start)))
      (outcome (fun _ d' => d' = d ∧ (Function.Injective digest → ∀ a ∈ l, ∀ mode,
        d.files a.destination = some (.file (before start a) mode) → a.inPlace = false))
        fun _ _ => Fails E ∨ T) d := by
  induction l with
  | nil => exact ⟨rfl, fun _ => List.forall_mem_nil _⟩
  | cons item rest ih =>
    obtain ⟨⟨hstaged, hT⟩, hrest⟩ := List.forall_mem_cons.mp h
    refine safe_attempt_ok (checkArtifact_safe hstaged hT) ?_
    rintro - d' ⟨rfl, hcheck⟩
    refine (ih hrest).ok_mono fun _ _ hok => ⟨hok.1, fun hinjective => ?_⟩
    exact List.forall_mem_cons.mpr ⟨hcheck hinjective, hok.2 hinjective⟩

omit [DecidableEq δ] in
theorem StagedKey.read (h : StagedKey start d.keychain service) :
    secretOf (d.keychain (.current service)) = .ok (d.keychain (.current service)) := by
  refine secretOf_ok_iff.mpr ⟨rfl, fun hempty => ?_⟩
  rcases h.value with hnone | hsome
  · rw [hempty] at hnone
    cases hnone
  · exact h.nonempty (Option.some.inj (hsome.symm.trans hempty))

section

variable (hvalid : ∀ b, validDigest (digest b) = true)
include hvalid

theorem checkKeychain_safe {l : List Service}
    (h : ∀ s ∈ l, StagedKey start d.keychain s) :
    Safe E (Kept digest start) (checkKeychain digest validDigest (l.map (keyOf digest start)))
      (outcome (fun _ d' => d' = d) fun _ _ => Fails E ∨ T) d := by
  induction l with
  | nil => exact rfl
  | cons service rest ih =>
    obtain ⟨hstaged, hrest⟩ := List.forall_mem_cons.mp h
    have hone : Safe E (Kept digest start)
        (checkKeychainItem digest validDigest (keyOf digest start service))
        (outcome (fun _ d' => d' = d) fun _ _ => Fails E ∨ T) d := by
      refine safe_if (fun hno => nomatch hno) fun _ => safe_if (fun hno => ?_) fun _ => ?_
      · exact absurd ((hvalid _).symm.trans hno) Bool.true_eq_false.mp
      have hsays : Says E digest start d (fingerprint digest (.current service))
          (.ok ((d.keychain (.current service)).map digest)) := by
        have hfingerprint := @says_fingerprint δ digest start d E (.current service)
        rwa [hstaged.read] at hfingerprint
      refine safe_attempt_of hsays ?_ ?_
      · rintro e d' ⟨rfl, ⟨hf, -⟩ | he⟩
        · exact .inl hf
        · cases he
      · rintro f d' ⟨rfl, hf⟩
        cases hf
        refine safe_if (fun hany => ?_) fun _ => rfl
        rcases hstaged.value with hnone | hsome
        · rw [hnone] at hany
          cases hany
        · rw [hsome] at hany
          exact absurd rfl (of_decide_eq_true hany)
    refine safe_attempt_ok hone ?_
    rintro - d' rfl
    exact ih hrest

/-! ## The way back -/

section Undoing

variable (hitems : items.Sublist mappings) (hkeys : keys.Sublist services)
  (hjournal : d.journal = some record) (ht : Tracks digest start items keys record d)
include hitems hkeys hjournal ht

theorem deleteIfMatching_safe (hservice : service ∈ keys) :
    Safe E (Kept digest start)
      (deleteIfMatching digest validDigest (.current service) (digest (secret start service)))
      (outcome (fun _ d' => d' = d.withItem (.current service) none) fun _ _ => Fails E ∨ T) d := by
  have hstaged := ht.stagedKeys service hservice
  refine safe_attempt_of (says_readKeychain _) ?_ ?_
  · rintro e d' ⟨rfl, ⟨hf, -⟩ | he⟩
    · exact .inl hf
    · rw [hstaged.read] at he
      cases he
  rintro value d' ⟨rfl, hvalue⟩
  rw [hstaged.read] at hvalue
  cases hvalue
  rcases hstaged.value with hnone | hsome
  · rw [hnone]
    exact (d'.withItem_same hnone).symm
  · rw [hsome]
    refine safe_if (fun hno => ?_) fun _ => ?_
    · simp [hvalid] at hno
    · refine (safe_security (.inr ⟨record, hjournal, items, keys, hitems, hkeys,
        ht.placeKey hservice (.inl rfl)⟩)).except_mono (fun _ _ hf => .inl hf.2) fun _ _ hd => hd.2

/-- **The listed items go**, and the rest of the disk stays. -/
theorem deleteKeychain_safe {l : List Service}
    (hl : ∀ s ∈ l, s ∈ keys) :
    Safe E (Kept digest start) (deleteKeychain digest validDigest (l.map (keyOf digest start)))
      (outcome (fun _ d' => d'.journal = some record ∧ Tracks digest start items keys record d' ∧
        d'.files = d.files ∧ (∀ s ∈ l, d'.keychain (.current s) = none) ∧
        ∀ s, d.keychain s = none → d'.keychain s = none) fun _ _ => Fails E ∨ T) d := by
  induction l generalizing d with
  | nil => exact ⟨hjournal, ht, rfl, List.forall_mem_nil _, fun _ hs => hs⟩
  | cons service rest ih =>
    obtain ⟨hservice, hrest⟩ := List.forall_mem_cons.mp hl
    refine safe_if (fun _ => ?_) fun hno => absurd rfl hno
    refine safe_attempt_ok (deleteIfMatching_safe hvalid hitems hkeys hjournal ht hservice) ?_
    rintro - d' rfl
    refine (ih (d := d.withItem _ none) hjournal (ht.placeKey hservice (.inl rfl)) hrest).ok_mono ?_
    rintro - d' ⟨hjournal', ht', hfiles, hnone, hkept⟩
    refine ⟨hjournal', ht', hfiles, List.forall_mem_cons.mpr ⟨hkept _ (Disk.withItem_self _ _ _), hnone⟩,
      fun s hs => hkept s ?_⟩
    by_cases heq : s = .current service
    · rw [heq, Disk.withItem_self]
    · rwa [Disk.withItem_of_ne _ _ heq]

omit hvalid in
/-- A listed file is taken back, and nothing else changes. -/
theorem restoreArtifact_safe (hitem : item ∈ items) (hT : T ∨ Converted start d.files item) :
    Safe E (Kept digest start) (restoreArtifact digest (entryOf digest start item))
      (outcome (fun _ d' => d' = d.withFile item.destination (restored start item) ∧
        Tracks digest start items keys record d') fun _ _ => Fails E ∨ T) d := by
  have hstaged := ht.staged item hitem
  have hplaced : Tracks digest start items keys record
      (d.withFile item.destination (restored start item)) := by
    refine ht.place (fun a ha => hitems.subset ha) hitem (.inr ?_)
    cases hin : item.inPlace with
    | false => exact .inl ⟨rfl, by simp [restored, hin]⟩
    | true => exact .inr ⟨rfl, 0o600, by simp [restored, hin]⟩
  have hinv : Inv digest start (d.withFile item.destination (restored start item)) :=
    .inr ⟨record, hjournal, items, keys, hitems, hkeys, hplaced⟩
  refine safe_attempt_ok (safe_readArtifact hstaged) ?_
  rintro content d' ⟨rfl, ⟨rfl, hcopied, habsent⟩ | ⟨bytes, mode, rfl, hfile⟩⟩
  · -- It is not there: the disk stays as it is.
    refine ⟨(d'.withFile_same ?_).symm, ht⟩
    rw [habsent, restored, hcopied]
    rfl
  refine safe_if (fun hne => .inr (torn_of_digest hstaged hT hfile hne)) fun _ => ?_
  refine safe_if (fun hcreated => ?_) fun hcreated => ?_
  · -- Created by the migration: removed.
    have hnone : restored start item = none := by simpa [entryOf, restored] using hcreated
    rw [hnone] at hinv hplaced ⊢
    exact safe_access ⟨hinv, rfl, hplaced⟩ .inl
  · -- Rewritten in place: the backup is written back.
    have hin : item.inPlace = true := by simpa [entryOf] using hcreated
    have hbackup : restored start item = some (.file (before start item) 0o600) := if_pos hin
    rw [hbackup] at hinv hplaced ⊢
    rw [entryOf_backup hin]
    refine safe_attempt_of (says_readFile _) ?_ ?_
    · rintro e d'' ⟨rfl, ⟨hf, -⟩ | he⟩
      · exact .inl hf
      · rw [hstaged.backup hin] at he
        cases he
    · rintro saved d'' ⟨rfl, hsaved⟩
      rw [hstaged.backup hin] at hsaved
      cases hsaved
      exact safe_access ⟨hinv, rfl, hplaced⟩ .inl

omit hvalid in
/-- **The listed files are taken back.** -/
theorem restoreArtifacts_safe {l : List Mapping} (hl : ∀ a ∈ l, a ∈ items) (hnodup : l.Nodup)
    (hT : ∀ a ∈ l, T ∨ Converted start d.files a) :
    Safe E (Kept digest start) (restoreArtifacts digest (l.map (entryOf digest start)))
      (outcome (fun _ d' => Tracks digest start items keys record d' ∧ d'.keychain = d.keychain ∧
        (∀ a ∈ l, d'.files a.destination = restored start a) ∧
        ∀ path, (∀ a ∈ l, a.destination ≠ path) → d'.files path = d.files path)
        fun _ _ => Fails E ∨ T) d := by
  induction l generalizing d with
  | nil => exact ⟨ht, rfl, List.forall_mem_nil _, fun _ _ => rfl⟩
  | cons item rest ih =>
    obtain ⟨hnew, hnodup⟩ := List.nodup_cons.mp hnodup
    obtain ⟨hitem, hrest⟩ := List.forall_mem_cons.mp hl
    obtain ⟨hitemT, hrestT⟩ := List.forall_mem_cons.mp hT
    have hother : ∀ a ∈ rest, a.destination ≠ item.destination := fun a ha heq =>
      hnew (destination_injective a (hitems.subset (hrest a ha)) item (hitems.subset hitem) heq ▸ ha)
    refine safe_attempt_ok (restoreArtifact_safe hitems hkeys hjournal ht hitem hitemT) ?_
    rintro - d' ⟨rfl, ht'⟩
    have hrestT' : ∀ a ∈ rest, T ∨ Converted start
        (d.withFile item.destination (restored start item)).files a := by
      refine fun a ha => (hrestT a ha).imp_right fun hconverted hin => ?_
      rw [Disk.withFile_of_ne _ _ (hother a ha)]
      exact hconverted hin
    refine (ih (d := d.withFile _ _) hjournal ht' hrest hnodup hrestT').ok_mono ?_
    rintro - d' ⟨ht', hkeychain, hrestored, hsame⟩
    refine ⟨ht', hkeychain, List.forall_mem_cons.mpr ⟨?_, hrestored⟩, fun path hpath => ?_⟩
    · rw [hsame _ hother, Disk.withFile_self]
    · obtain ⟨hne, hpath⟩ := List.forall_mem_cons.mp hpath
      rw [hsame path hpath, Disk.withFile_of_ne _ _ hne.symm]

end Undoing

omit hvalid in
omit [DecidableEq δ] in
/-- What is listed has been taken back, and what is not listed was never touched. -/
theorem Tracks.restored (ht : Tracks digest start items keys record d) (hitems : items.Sublist mappings)
    (hrestored : ∀ item ∈ items, d.files item.destination = restored start item)
    (hdeleted : ∀ service ∈ keys, d.keychain (.current service) = none) : Restored start d where
  files := by
    intro path hcodex hbackup
    by_cases hlisted : ∃ item ∈ items, item.destination = path
    · obtain ⟨item, hitem, rfl⟩ := hlisted
      have hcopied : item.inPlace = false := by
        rw [← Bool.not_eq_true, inPlace_destination item (hitems.subset hitem)]
        exact hcodex
      rw [hrestored item hitem, LegacyMigration.restored, hcopied, (ht.staged item hitem).absent hcopied]
      rfl
    · exact ht.files path hbackup fun item hitem heq => hlisted ⟨item, hitem, heq⟩
  codexConfig := by
    by_cases hlisted : ∃ item ∈ items, item.destination = .codexConfig
    · obtain ⟨item, hitem, hcodex⟩ := hlisted
      have hin := (inPlace_destination item (hitems.subset hitem)).mpr hcodex
      obtain ⟨mode, hsource⟩ := (ht.staged item hitem).source
      rw [inPlace_source item (hitems.subset hitem) hin, hcodex] at hsource
      refine .inr ⟨before start item, mode, hsource, ?_⟩
      rw [← hcodex, hrestored item hitem]
      exact if_pos hin
    · exact .inl (ht.files _ (fun _ => nofun) fun item hitem heq => hlisted ⟨item, hitem, heq⟩)
  keychain := by
    funext item
    by_cases hlisted : ∃ service ∈ keys, item = .current service
    · obtain ⟨service, hservice, rfl⟩ := hlisted
      rw [hdeleted service hservice, (ht.stagedKeys service hservice).absent]
    · exact ht.secrets item fun service hservice heq => hlisted ⟨service, hservice, heq⟩

omit hvalid in
omit [DecidableEq δ] in
/-- `inspect` cannot tell a restored disk from the one before. -/
theorem Restored.alike_inspect (h : Restored start d) : Alike d start inspect := by
  have hshape : ∀ path, (∀ name, path ≠ .backup name) →
      shape (d.files path) = shape (start.files path) := by
    intro path hbackup
    by_cases hcodex : path = .codexConfig
    · subst hcodex
      rcases h.codexConfig with hsame | ⟨content, mode, hstart, hd⟩
      · rw [hsame]
      · rw [hstart, hd]
        rfl
    · rw [h.files path hcodex hbackup]
  exact LegacyMigration.alike_inspect
    (fun item hitem => ⟨hshape _ (source_ne_backup hitem), hshape _ (destination_ne_backup hitem)⟩)
    h.keychain

omit [DecidableEq δ] in
theorem readJournal_safe (hstart : start.journal = none)
    (h : Inv digest start d) :
    Safe E (Kept digest start) (readJournal validDigest)
      (outcome (fun record d' => d' = d ∧ d.journal = some record ∧
        Tracked digest start mappings services record d) fun _ _ => d.journal = none ∨ Fails E ∨ T) d := by
  refine safe_access ?_ fun hf => .inr (.inl hf)
  refine safe_read.mpr ?_
  rcases h with rfl | ⟨record, hjournal, items, keys, hitems, hkeys, ht⟩
  · rw [hstart]
    exact .inl rfl
  rw [hjournal]
  refine safe_if (fun hany => ?_) fun _ => ⟨rfl, rfl, items, keys, hitems, hkeys, ht⟩
  rw [ht.keychain, List.any_eq_true] at hany
  obtain ⟨k, hk, hno⟩ := hany
  obtain ⟨service, -, rfl⟩ := List.mem_map.mp hk
  simp [keyOf, hvalid] at hno

/-- **The rollback**, wherever interruptions have led to. -/
theorem rollback_safe (haccept : Accepts start)
    (h : Inv digest start d) :
    Safe E (Kept digest start) (rollback digest validDigest)
      (outcome (fun _ d' => (Restored start d' ∧ ∃ record, d'.journal = some record ∧
          record.phase = .rolledBack) ∧ (Function.Injective digest → ¬Torn start d))
        fun _ _ => d.journal = none ∨ Fails E ∨ Torn start d) d := by
  refine safe_attempt_ok (readJournal_safe hvalid haccept.journal h) ?_
  rintro record d' ⟨rfl, hjournal, items, keys, hitems, hkeys, ht⟩
  have htorn : ∀ a ∈ items, a.inPlace = true → (Torn start d' ↔
      ∃ mode, d'.files a.destination = some (.file (before start a) mode)) := fun a ha =>
    (ht.staged a ha).torn (hitems.subset ha) hjournal (ht.artifacts ▸ List.mem_map_of_mem ha)
  have hT : ∀ a ∈ items, Torn start d' ∨ Converted start d'.files a := by
    intro a ha
    by_cases htorn' : Torn start d'
    · exact .inl htorn'
    refine .inr fun hin => ?_
    rcases (ht.staged a ha).content with hafter | ⟨hcopied, -⟩ | ⟨-, hbefore⟩
    · exact hafter
    · rw [hcopied] at hin
      cases hin
    · exact absurd ((htorn a ha hin).mpr hbefore) htorn'
  rw [ht.artifacts, ht.keychain, ← List.map_reverse, ← List.map_reverse]
  refine safe_attempt_of (checkArtifacts_safe fun a ha => ⟨ht.staged a ha, hT a ha⟩)
    (fun _ _ hf => .inr hf) ?_
  rintro - d'' ⟨rfl, hchecked⟩
  refine safe_access ?_ fun hf => .inr (.inl hf)
  refine safe_attempt_of (checkKeychain_safe hvalid ht.stagedKeys) (fun _ _ hf => .inr hf) ?_
  rintro - d1 rfl
  refine safe_attempt_of (deleteKeychain_safe hvalid hitems hkeys hjournal ht
    fun s hs => List.mem_reverse.mp hs) (fun _ _ hf => .inr hf) ?_
  rintro - d2 ⟨hjournal2, ht2, hfiles, hdeleted, -⟩
  refine safe_attempt_of (restoreArtifacts_safe hitems hkeys hjournal2 ht2
    (fun a ha => List.mem_reverse.mp ha) ((List.reverse_perm items).nodup_iff.mpr (mappings_nodup.sublist hitems))
    fun a ha => hfiles ▸ hT a (List.mem_reverse.mp ha)) (fun _ _ hf => .inr hf) ?_
  rintro - d3 ⟨ht3, hkeychain, hrestored, -⟩
  have hback := ht3.restored hitems (fun a ha => hrestored a (List.mem_reverse.mpr ha))
    fun s hs => hkeychain ▸ hdeleted s (List.mem_reverse.mpr hs)
  refine safe_attempt_of (safe_writeJournal
    ⟨items, keys, hitems, hkeys, { ht3 with artifacts := rfl, keychain := rfl }⟩)
    (fun _ _ hf => .inr (.inl hf.2)) ?_
  rintro - d4 rfl
  have hback' : ∀ r, Restored start (d3.withJournal r) :=
    fun r => { hback with }
  have hinspect : ∀ r, Safe E (Kept digest start) inspect
      (outcome (fun _ d' => d' = d3.withJournal r) fun _ _ => Fails E) (d3.withJournal r) := by
    refine fun r => (hback' r).alike_inspect.safe.except_mono ?_ fun _ _ hr => hr.1
    rintro e d' ⟨-, hf | hr⟩
    · exact hf
    · obtain ⟨r, hok, -⟩ := haccept.preflight
      rw [hok] at hr
      cases hr
  refine safe_attempt_of (hinspect _) (fun _ _ hf => .inr (.inl hf)) ?_
  rintro r d' rfl
  refine ⟨⟨hback' _, _, rfl, rfl⟩, fun hinjective htorn' => ?_⟩
  -- A torn config would not have passed the check.
  obtain ⟨record', hjournal', ⟨entry, hentry, hcodex⟩, -⟩ := id htorn'
  obtain rfl := Option.some.inj (hjournal.symm.trans hjournal')
  rw [ht.artifacts] at hentry
  obtain ⟨a, ha, rfl⟩ := List.mem_map.mp hentry
  have hin := (inPlace_destination a (hitems.subset ha)).mpr hcodex
  obtain ⟨mode, hbefore⟩ := (htorn a ha hin).mp htorn'
  rw [hchecked hinjective a ha mode hbefore] at hin
  cases hin

/-! ## Histories -/

/-- The three commands, any number of times, each of which may be interrupted anywhere. -/
def system (digest : Bytes → δ) (validDigest : δ → Bool) :
    System (Disk δ) Access (fun _ => Bool) Operation where
  Result := fun _ => Except Error Result
  prog := runOperation digest validDigest
  env := anyAnswer
  allowed := fun _ _ => True
  other := fun _ _ => False

/-- **Wherever the commands are interrupted**, nothing has been done or the journal says what. -/
theorem reachable_inv (haccept : Accepts start)
    (h : (system digest validDigest).Reachable start d) : Inv digest start d := by
  refine System.reachable_inv (system digest validDigest) (.inl rfl) ?_ (fun _ _ _ hno => nomatch hno) h
  intro operation s s' _ hs hstops
  have hsafe : Safe anyAnswer (Kept digest start) (runOperation digest validDigest operation)
      (fun _ _ => True) s := by
    refine ⟨trivial, fun ok _ => safe_if (fun _ => trivial) fun _ => ?_⟩
    cases operation with
    | inspect => exact (safe_inspect s).post_mono fun _ _ _ => trivial
    | apply => exact apply_safe hs
    | rollback => exact (rollback_safe hvalid haccept hs).post_mono fun _ _ _ => trivial
  exact stops_of_safe hsafe (fun _ _ hkept _ => hkept) hs hstops

/-- A rollback that nothing interrupts. -/
theorem run_rollback (haccept : Accepts start)
    (h : Inv digest start d) :
    outcome (fun _ d' => (Restored start d' ∧ ∃ record, d'.journal = some record ∧
        record.phase = .rolledBack) ∧ (Function.Injective digest → ¬Torn start d))
      (fun _ _ => d.journal = none ∨ Torn start d)
      (run allOk (runOperation digest validDigest .rollback) d).1
      (run allOk (runOperation digest validDigest .rollback) d).2 := by
  have hmaintenance : d.maintenance = false := by
    rcases h with rfl | ⟨record, -, items, keys, -, -, ht⟩
    · exact haccept.maintenance
    · exact ht.maintenance.trans haccept.maintenance
  refine @run_of_safe _ _ _ _ allOk (fun _ _ ok => ok = true) (Kept digest start) _ _ _ (fun _ _ => rfl) ?_
  refine ⟨trivial, fun ok hok => safe_if (fun hno => ?_) fun _ => ?_⟩
  · rw [hok, hmaintenance] at hno
    simp at hno
  refine (rollback_safe hvalid haccept h).except_mono (fun _ _ hf => ?_) fun _ _ hr => hr
  rcases hf with hnone | ⟨a, d', hfails⟩ | htorn
  · exact .inl hnone
  · cases hfails
  · exact .inr htorn

end

/-- **From a torn disk no rollback succeeds**, if the digest tells the two contents apart. -/
theorem rollback_torn (hvalid : ∀ b, validDigest (digest b) = true)
    (hinjective : Function.Injective digest) (haccept : Accepts start)
    (h : (system digest validDigest).Reachable start d) (htorn : Torn start d) :
    ∃ e, (run allOk (runOperation digest validDigest .rollback) d).1 = .error e := by
  have hrun := run_rollback hvalid haccept (reachable_inv hvalid haccept h)
  cases hresult : (run allOk (runOperation digest validDigest .rollback) d).1 with
  | error e => exact ⟨e, rfl⟩
  | ok r =>
    rw [hresult] at hrun
    exact absurd htorn (hrun.2 hinjective)

end Reversal

/-! ## The position from which there is no way back -/

/-- The migration of one file: a Codex config with a marked block and nothing else. -/
def markedConfig : Disk Bytes where
  files := fun path => if path = .codexConfig then some (.file (Json.ascii
    "# >>> pw-opencodex-relay managed begin >>>\n# <<< pw-opencodex-relay managed end <<<\n") 0o644)
    else none
  keychain := fun _ => none
  journal := none
  maintenance := false

theorem markedConfig_accepts : Accepts markedConfig := by
  refine ⟨rfl, rfl, ?_⟩
  have hpreflight : (run allOk inspect markedConfig).1.toOption.any (·.status ≠ .blocked) = true := by
    decide +kernel
  obtain ⟨r, hr, hstatus⟩ := (Option.any_eq_true _ _).mp hpreflight
  refine ⟨r, ?_, of_decide_eq_true hstatus⟩
  cases hrun : (run allOk inspect markedConfig).1 with
  | error e =>
    rw [hrun] at hr
    cases hr
  | ok r' =>
    rw [hrun] at hr
    exact congrArg _ (Option.some.inj hr)

end LegacyMigration
