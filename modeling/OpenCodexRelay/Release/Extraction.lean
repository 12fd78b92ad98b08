/-
  What an accepted archive has put on the disk.

  1. `Valid`: what `validateArchiveEntry` has established of an entry.
  2. `Represents`: which paths the map `seen` stands for.  A path is folded name by name, so two paths
     fold alike only if they have as many names (`toLower_join`).
  3. `checkPrefixes_ok`: the loop over the components, by induction on those that are left.  It accepts
     a path only if it FITS: what folds like a part of it is that part, no part of it is a file, and
     nothing folds like the whole.
  4. `Extracted`: the invariant of the loop over the entries, `extractEntry_extracted` its step.
  5. `extractReleaseArchive_faithful`: the tree, on a file system that may or may not fold case.
-/
import OpenCodexRelay.Release.Archive
import Mathlib.Data.Set.Insert
import Mathlib.Algebra.BigOperators.Group.List.Basic

namespace Release

open Json SlashPath FileTree

/-! ## Paths, folded -/

/-- A path whose components are to be read back from its spelling. -/
def Spelled (p : List Bytes) : Prop := p ≠ [] ∧ ∀ c ∈ p, slash ∉ c

/-- A path in lower case. -/
def fold (p : List Bytes) : List Bytes := p.map toLower

theorem slash_mem_toLower {c : Bytes} (h : slash ∈ toLower c) : slash ∈ c := by
  obtain ⟨b, hb, hlower⟩ := List.mem_map.mp h
  -- Only a slash is sent to the slash: the letters go to letters.
  have hslash : b = slash := by
    rw [slash] at hlower ⊢
    split at hlower <;> grind
  exact hslash ▸ hb

variable {p q : List Bytes} {validString : Bytes → Bool} {seen : Seen}
variable {entryKinds : Bytes → Option Bool} {e : ZipFile} {files : List ZipFile}

theorem Spelled.fold (h : Spelled p) : Spelled (fold p) := by
  refine ⟨fun hnil => h.1 (List.map_eq_nil_iff.mp hnil), fun c hc hslash => ?_⟩
  obtain ⟨d, hd, rfl⟩ := List.mem_map.mp hc
  exact h.2 d hd (slash_mem_toLower hslash)

theorem toLower_join : toLower (join p) = join (fold p) := by
  induction p with
  | nil => rfl
  | cons c rest ih =>
    cases rest with
    | nil => simp [join, fold, List.intercalate]
    | cons d rest =>
      have hjoin : ∀ (a b : Bytes) (cs : List Bytes), join (a :: b :: cs) = a ++ slash :: join (b :: cs) :=
        fun a b cs => by simp [join, List.intercalate]
      have hslash : toLower (slash :: join (d :: rest)) = slash :: toLower (join (d :: rest)) := rfl
      have happend : toLower (c ++ slash :: join (d :: rest)) =
          toLower c ++ toLower (slash :: join (d :: rest)) := List.map_append
      rw [hjoin, happend, hslash, ih]
      exact (hjoin (toLower c) (toLower d) (rest.map toLower)).symm

theorem fold_eq_of_toLower (hp : Spelled p) (hq : Spelled q)
    (h : toLower (join p) = toLower (join q)) : fold p = fold q := by
  rw [toLower_join, toLower_join] at h
  exact join_injective hp.fold.2 hp.fold.1 hq.fold.2 hq.fold.1 h

theorem fold_length (h : fold p = fold q) : p.length = q.length := by
  have := congrArg List.length h
  rwa [fold, fold, List.length_map, List.length_map] at this

/-! ## An entry that is let through -/

namespace ZipFile

def path (entry : ZipFile) : List Bytes := components (trimSlash entry.name)

def isDirectory (entry : ZipFile) : Bool := entry.name.getLast? == some slash

/-- What the entry itself becomes. -/
def node (entry : ZipFile) : Node FileMode Bytes :=
  if entry.isDirectory then .dir 0o700 else .file entry.mode.created entry.content

end ZipFile

structure Valid (entry : ZipFile) : Prop where
  plain : ∀ c ∈ entry.path, Plain c
  head : entry.path.head? = some stageApplicationDirectory
  ordinary : entry.mode &&& FileMode.special = 0
  directory : entry.isDirectory = entry.mode.isDir
  regular : entry.isDirectory = false → entry.mode.isRegular = true

theorem Valid.spelled {entry : ZipFile} (h : Valid entry) : Spelled entry.path := by
  refine ⟨fun hnil => ?_, fun c hc => (h.plain c hc).noSlash⟩
  have hhead := h.head
  rw [hnil] at hhead
  cases hhead

theorem validateArchiveEntry_ok {entry : ZipFile} {normalized : Bytes} {isDirectory : Bool}
    (h : validateArchiveEntry validString entry = some (normalized, isDirectory)) :
    Valid entry ∧ normalized = join entry.path ∧ isDirectory = entry.isDirectory := by
  simp only [validateArchiveEntry] at h
  split at h
  · cases h
  split at h
  · cases h
  split at h
  · cases h
  split at h
  · cases h
  rename_i hhead
  split at h
  · cases h
  rename_i hnames
  split at h
  · cases h
  rename_i hspecial
  split at h
  · cases h
  rename_i hkind
  have hvalid : Valid entry := by
    obtain ⟨hdir, hregular⟩ := not_or.mp hkind
    refine ⟨fun c hc => ?_, not_not.mp hhead, not_not.mp hspecial, not_not.mp hdir, fun hfile => ?_⟩
    · have hc' : ¬(c == [] || c == dot || c == dotDot) = true :=
        fun hbad => hnames (List.any_eq_true.mpr ⟨c, hc, hbad⟩)
      simp only [Bool.or_eq_true, beq_iff_eq, not_or] at hc'
      exact ⟨hc'.1.1, hc'.1.2, hc'.2, noSlash_of_components _ _ hc⟩
    · exact Bool.of_not_eq_false fun hirregular => hregular ⟨hfile, hirregular⟩
  have hresult : some (trimSlash entry.name, entry.isDirectory) = some (normalized, isDirectory) := by
    split at h
    · split at h
      · cases h
      · split at h
        · cases h
        · exact h
    · exact h
  obtain ⟨rfl, rfl⟩ := Prod.mk.inj (Option.some.inj hresult)
  exact ⟨hvalid, (List.intercalate_splitOn _).symm, rfl⟩

/-! ## The loop over the components -/

/-- A map with one more value in it. -/
theorem update_eq_some {α β : Type} [DecidableEq α] {f : α → Option β} {R : α → β → Prop}
    (h : ∀ x y, f x = some y ↔ R x y) {x0 : α} {y0 : β} (hnew : ∀ y, R x0 y → y = y0) (x : α) (y : β) :
    Function.update f x0 (some y0) x = some y ↔ R x y ∨ (x0 = x ∧ y0 = y) := by
  by_cases hx : x = x0
  · subst hx
    rw [Function.update_self, Option.some.injEq]
    exact ⟨fun hy => .inr ⟨rfl, hy⟩, fun hy => hy.elim (fun hold => (hnew y hold).symm) And.right⟩
  · rw [Function.update_of_ne hx, h]
    exact ⟨.inl, fun hy => hy.resolve_right fun hnew => hx hnew.1.symm⟩

/-- The paths that `seen` stands for. -/
def Represents (seen : Seen) (K : Set (List Bytes)) : Prop :=
  ∀ x y, seen x = some y ↔ ∃ p ∈ K, toLower (join p) = x ∧ join p = y

section Represents

variable {K : Set (List Bytes)}

theorem Represents.lookup (h : Represents seen K) (hp : p ∈ K) :
    seen (toLower (join p)) = some (join p) :=
  (h _ _).mpr ⟨p, hp, rfl, rfl⟩

/-- Two paths of the map that fold alike are the same. -/
theorem Represents.unique (h : Represents seen K) (hK : ∀ p ∈ K, Spelled p) (hp : p ∈ K) (hq : q ∈ K)
    (hfold : fold p = fold q) : p = q := by
  have hlookup := h.lookup hp
  rw [toLower_join, hfold, ← toLower_join, h.lookup hq, Option.some.injEq] at hlookup
  exact join_injective (hK p hp).2 (hK p hp).1 (hK q hq).2 (hK q hq).1 hlookup.symm

theorem Represents.insert (h : Represents seen K) (hK : ∀ p ∈ K, Spelled p) (hp : Spelled p)
    (hagree : ∀ q ∈ K, fold q = fold p → q = p) :
    Represents (Function.update seen (toLower (join p)) (some (join p))) (insert p K) := by
  intro x y
  rw [update_eq_some h, Set.exists_mem_insert, or_comm]
  rintro y ⟨q, hq, hlower, rfl⟩
  rw [hagree q hq (fold_eq_of_toLower (hK q hq) hp hlower)]

end Represents

/-- The parts of a path that end beyond its part `done`. -/
def Ahead (path done : List Bytes) : Set (List Bytes) := {p | p <+: path ∧ done.length < p.length}

theorem not_ahead_self {path : List Bytes} : p ∉ Ahead path path :=
  fun hp => Nat.not_le.mpr hp.2 hp.1.length_le

theorem ahead_cons (done rest : List Bytes) (c : Bytes) :
    Ahead (done ++ c :: rest) done =
      insert (done ++ [c]) (Ahead (done ++ c :: rest) (done ++ [c])) := by
  ext p
  have hpart : done ++ [c] <+: done ++ c :: rest := ⟨rest, by simp⟩
  have hlength : (done ++ [c]).length = done.length + 1 := List.length_append
  constructor
  · rintro ⟨hp, hlt⟩
    rcases Nat.lt_or_ge (done ++ [c]).length p.length with hbeyond | hle
    · exact .inr ⟨hp, hbeyond⟩
    · exact .inl ((List.prefix_of_prefix_length_le hp hpart hle).eq_of_length (by omega))
  · rintro (rfl | ⟨hp, hlt⟩)
    · exact ⟨hpart, by omega⟩
    · exact ⟨hp, by omega⟩

/-- **A path fits those that are there**, as far as the loop still has to look at it. -/
structure Fits (K : Set (List Bytes)) (entryKinds : Bytes → Option Bool) (path done : List Bytes) :
    Prop where
  agree : ∀ p ∈ Ahead path done, ∀ q ∈ K, fold q = fold p → q = p
  above : ∀ p ∈ Ahead path done, p ≠ path → entryKinds (toLower (join p)) ≠ some false
  fresh : done ≠ path → ∀ q ∈ K, fold q ≠ fold path

theorem checkPrefixes_ok {seen' : Seen} {path rest : List Bytes} (hslash : ∀ c ∈ path, slash ∉ c) :
    ∀ {done : List Bytes} {seen : Seen} {K : Set (List Bytes)}, done ++ rest = path →
      (∀ p ∈ K, Spelled p) → Represents seen K →
      checkPrefixes entryKinds done rest seen = some seen' →
      Fits K entryKinds path done ∧ Represents seen' (K ∪ Ahead path done \ {path}) := by
  induction rest with
  | nil =>
    intro done seen K hpath _ hseen h
    rw [List.append_nil] at hpath
    subst hpath
    obtain rfl := Option.some.inj h
    have hnone : Ahead done done = ∅ := Set.eq_empty_of_forall_notMem fun p => not_ahead_self
    rw [hnone, Set.empty_sdiff, Set.union_empty]
    exact ⟨⟨fun p hp => absurd hp not_ahead_self, fun p hp => absurd hp not_ahead_self,
      fun hne => absurd rfl hne⟩, hseen⟩
  | cons c rest ih =>
    intro done seen K hpath hK hseen h
    have hnext : done ++ [c] ++ rest = path := by rw [← hpath, List.append_assoc]; rfl
    have hahead : Ahead path done = insert (done ++ [c]) (Ahead path (done ++ [c])) :=
      hpath ▸ ahead_cons done rest c
    have hspelled : Spelled (done ++ [c]) :=
      ⟨by simp, fun d hd => hslash d (hnext ▸ List.mem_append_left _ hd)⟩
    rw [checkPrefixes] at h
    split at h
    · cases h
    rename_i hother
    split at h
    · cases h
    rename_i hkind
    -- What folds like the part of the way up to here is that part.
    have hagree : ∀ q ∈ K, fold q = fold (done ++ [c]) → q = done ++ [c] := by
      intro q hq hfold
      have hlookup := hseen.lookup hq
      rw [toLower_join, hfold, ← toLower_join] at hlookup
      rw [hlookup, Option.any_some, Bool.not_eq_true, bne_eq_false_iff_eq] at hother
      exact join_injective (hK q hq).2 (hK q hq).1 hspelled.2 hspelled.1 hother
    by_cases hlast : rest = []
    · -- The last component.
      subst hlast
      rw [List.append_nil] at hnext
      subst hnext
      rw [if_pos rfl] at h
      split at h
      · cases h
      rename_i hnew
      obtain rfl := Option.some.inj h
      have hone : ∀ p ∈ Ahead (done ++ [c]) done, p = done ++ [c] := by
        rw [hahead]
        exact fun p hp => hp.resolve_right not_ahead_self
      have hnone : Ahead (done ++ [c]) done \ {done ++ [c]} = ∅ := Set.sdiff_eq_empty.mpr hone
      rw [hnone, Set.union_empty]
      refine ⟨⟨fun p hp => hone p hp ▸ hagree, fun p hp hproper => absurd (hone p hp) hproper,
        fun _ q hq hfold => hnew ?_⟩, hseen⟩
      rw [← hagree q hq hfold]
      exact hseen.lookup hq
    · -- A component above: from here on the map stands for it as well.
      have hproper : done ++ [c] ≠ path := by
        rw [← hnext]
        exact fun heq => hlast (List.append_right_eq_self.mp heq.symm)
      rw [if_neg hlast] at h
      have hupdate : checkPrefixes entryKinds (done ++ [c]) rest
          (Function.update seen (toLower (join (done ++ [c]))) (some (join (done ++ [c])))) =
            some seen' := by
        split at h
        · exact h
        · rename_i hold
          obtain ⟨y, hy⟩ := Option.ne_none_iff_exists'.mp hold
          rw [hy, Option.any_some, Bool.not_eq_true, bne_eq_false_iff_eq] at hother
          rw [hother] at hy
          rw [← hy, Function.update_eq_self]
          exact h
      obtain ⟨hfits, hseen'⟩ := ih hnext (Set.forall_mem_insert.mpr ⟨hspelled, hK⟩)
        (hseen.insert hK hspelled hagree) hupdate
      rw [hahead]
      refine ⟨⟨?_, ?_, fun _ q hq => hfits.fresh hproper q (Set.mem_insert_of_mem _ hq)⟩, ?_⟩
      · rw [hahead]
        rintro p (rfl | hp) q hq
        · exact hagree q hq
        · exact hfits.agree p hp q (Set.mem_insert_of_mem _ hq)
      · rw [hahead]
        rintro p (rfl | hp)
        · exact fun _ hfile => hkind ⟨hlast, hfile⟩
        · exact hfits.above p hp
      · rw [Set.insert_sdiff_of_notMem _ (Set.mem_singleton_iff.not.mpr hproper), Set.union_insert,
          ← Set.insert_union]
        exact hseen'

/-! ## What has been placed -/

/-- A path that some entry uses: its own, or one above it. -/
def Known (files : List ZipFile) (p : List Bytes) : Prop := p ≠ [] ∧ ∃ e ∈ files, p <+: e.path

/-- **What the archive says of a path**: a file with its content, or a directory. -/
inductive Placed (files : List ZipFile) : List Bytes → Node FileMode Bytes → Prop
  | file {e : ZipFile} (mem : e ∈ files) (regular : e.isDirectory = false) :
    Placed files e.path (.file e.mode.created e.content)
  | dir {e : ZipFile} {p : List Bytes} (mem : e ∈ files) (ne_nil : p ≠ []) (above : p <+: e.path)
    (directory : p = e.path → e.isDirectory = true) : Placed files p (.dir 0o700)

section Placed

variable {node : Node FileMode Bytes}

theorem Placed.known (h : Placed files p node) (hvalid : ∀ e ∈ files, Valid e) : Known files p := by
  cases h with
  | file mem _ => exact ⟨(hvalid _ mem).spelled.1, _, mem, List.prefix_rfl⟩
  | dir mem ne_nil above _ => exact ⟨ne_nil, _, mem, above⟩

/-- Above a directory there are directories. -/
theorem Placed.up {mode : FileMode} (h : Placed files q (.dir mode)) (hne : p ≠ []) (hp : p <+: q) :
    Placed files p (.dir 0o700) := by
  cases h with
  | dir mem _ above directory =>
    refine .dir mem hne (hp.trans above) fun heq => directory ?_
    subst heq
    exact above.eq_of_length (le_antisymm above.length_le hp.length_le)

theorem Known.spelled (h : Known files p) (hvalid : ∀ e ∈ files, Valid e) : Spelled p := by
  obtain ⟨hne, e, he, hpre⟩ := h
  exact ⟨hne, fun c hc => ((hvalid e he).plain c (hpre.subset hc)).noSlash⟩

theorem prefix_dropLast (hp : p <+: q) (hne : p ≠ q) : p <+: q.dropLast := by
  obtain ⟨t, rfl⟩ := hp
  have ht : t ≠ [] := fun hnil => hne (by rw [hnil, List.append_nil])
  rw [List.dropLast_append_of_ne_nil ht]
  exact List.prefix_append _ _

theorem Placed.concat (h : Placed files p node) : Placed (files ++ [e]) p node := by
  cases h with
  | file mem regular => exact .file (List.mem_append_left _ mem) regular
  | dir mem ne_nil above directory => exact .dir (List.mem_append_left _ mem) ne_nil above directory

/-- What a further entry adds: itself, and the directories above it. -/
theorem placed_concat (he : e.path ≠ []) : Placed (files ++ [e]) p node ↔ Placed files p node ∨
    (p = e.path ∧ node = e.node) ∨ (p ≠ [] ∧ p <+: e.path.dropLast ∧ node = .dir 0o700) := by
  have hlast : e ∈ files ++ [e] := List.mem_append_right _ List.mem_cons_self
  constructor
  · intro h
    cases h with
    | file mem regular =>
      rcases List.mem_append.mp mem with mem | mem
      · exact .inl (.file mem regular)
      · obtain rfl := List.mem_singleton.mp mem
        exact .inr (.inl ⟨rfl, by simp [ZipFile.node, regular]⟩)
    | dir mem ne_nil above directory =>
      rcases List.mem_append.mp mem with mem | mem
      · exact .inl (.dir mem ne_nil above directory)
      · rw [List.mem_singleton.mp mem] at above directory
        by_cases heq : p = e.path
        · exact .inr (.inl ⟨heq, by simp [ZipFile.node, directory heq]⟩)
        · exact .inr (.inr ⟨ne_nil, prefix_dropLast above heq, rfl⟩)
  · rintro (hold | ⟨rfl, rfl⟩ | ⟨hne, hp, rfl⟩)
    · exact hold.concat
    · unfold ZipFile.node
      split_ifs with hdir
      · exact .dir hlast he List.prefix_rfl fun _ => hdir
      · exact .file hlast (Bool.of_not_eq_true hdir)
    · refine .dir hlast hne (hp.trans (List.dropLast_prefix _)) fun heq => ?_
      have hle := hp.length_le
      rw [heq, List.length_dropLast] at hle
      have := List.length_pos_iff.mpr he
      omega

end Placed

/-! ## The invariant of the loop over the entries -/

section Extracted

variable {κ : Type} [DecidableEq κ] (key : Bytes → κ) (names : List Bytes)
  (before : List (List Bytes × Node FileMode Bytes))

/-- The destination is a directory, and nothing stands where the application will. -/
structure Ready : Prop where
  plain : ∀ c ∈ names, Plain c
  ne_nil : names ≠ []
  directory : FileTree.isDirectory key before names = true
  fresh : ∀ x ∈ before, ¬(names ++ [stageApplicationDirectory]).map key <+: x.1.map key

/-- **The tree that belongs to the entries**: what has been created below the destination. -/
def Exact (names : List Bytes) (files : List ZipFile)
    (created : List (List Bytes × Node FileMode Bytes)) : Prop :=
  ∀ q node, (q, node) ∈ created ↔ ∃ p, q = names ++ p ∧ Placed files p node

/-- **After the entries `files`.** -/
structure Extracted (files : List ZipFile) (x : Extraction) : Prop where
  valid : ∀ e ∈ files, Valid e
  seen : Represents x.seen {p | Known files p}
  kinds : ∀ y b, x.entryKinds y = some b ↔
    ∃ e ∈ files, toLower (join e.path) = y ∧ e.isDirectory = b
  distinct : files.Pairwise fun e e' => fold e.path ≠ fold e'.path
  leaves : ∀ e ∈ files, ∀ e' ∈ files, e.isDirectory = false → e.path <+: e'.path → e.path = e'.path
  total : x.total ≤ maximumExtractedBytes
  written : x.written ≤ x.total
  bytes : x.written = ((files.filter fun e => !e.isDirectory).map fun e => e.content.length).sum
  nodes : ∃ created, x.nodes = created ++ before ∧ Exact names files created

variable {key names before} {node : Node FileMode Bytes}
variable {created : List (List Bytes × Node FileMode Bytes)}

omit [DecidableEq κ] in
theorem fold_eq_of_key (hkey : ∀ a b, key a = key b → toLower a = toLower b)
    (h : q.map key = p.map key) : fold q = fold p := by
  induction q generalizing p with
  | nil =>
    rw [List.map_nil] at h
    rw [List.map_eq_nil_iff.mp h.symm]
  | cons c q ih =>
    cases p with
    | nil => cases h
    | cons d p =>
      obtain ⟨hhead, htail⟩ := List.cons.inj h
      exact congrArg₂ List.cons (hkey c d hhead) (ih htail)

/-- What the file system finds at a path of the application is something that has been placed at a path
    that folds alike. -/
theorem Ready.found (hready : Ready key names before)
    (hkey : ∀ a b, key a = key b → toLower a = toLower b) (hexact : Exact names files created)
    (hhead : p.head? = some stageApplicationDirectory)
    (h : find key (created ++ before) (names ++ p) = some node) :
    ∃ q, Placed files q node ∧ fold q = fold p := by
  obtain ⟨q', hmem, hk⟩ := find_mem h
  rcases List.mem_append.mp hmem with hmem | hmem
  · obtain ⟨q, rfl, hplaced⟩ := (hexact q' node).mp hmem
    rw [List.map_append, List.map_append] at hk
    exact ⟨q, hplaced, fold_eq_of_key hkey (List.append_cancel_left hk)⟩
  · refine absurd ?_ (hready.fresh _ hmem)
    rw [hk]
    obtain ⟨t, rfl⟩ : ∃ t, p = stageApplicationDirectory :: t := by
      cases p with
      | nil => cases hhead
      | cons c t => exact ⟨t, congrArg (· :: t) (Option.some.inj hhead)⟩
    refine List.IsPrefix.map key ?_
    exact (List.prefix_append_right_inj names).mpr ((List.prefix_cons_inj _).mpr List.nil_prefix)

theorem Ready.find_names (hready : Ready key names before) :
    find key (created ++ before) names ≠ none := by
  intro hnone
  rcases isDirectory_cases hready.directory with hnil | ⟨mode, hfind⟩
  · exact hready.ne_nil hnil
  · obtain ⟨q, hmem, hk⟩ := find_mem hfind
    exact find_eq_none.mp hnone _ (List.mem_append_right _ hmem) hk

theorem head_of_part (hp : p <+: q) (hne : p ≠ []) : p.head? = q.head? := by
  obtain ⟨t, rfl⟩ := hp
  rw [List.head?_append_of_ne_nil _ hne]

section Fitting

variable (hready : Ready key names before) (hkey : ∀ a b, key a = key b → toLower a = toLower b)
variable (hvalid : ∀ e ∈ files, Valid e) (hexact : Exact names files created) (he : Valid e)
variable (hfits : Fits {p | Known files p} entryKinds e.path [])

include hready hkey hvalid hexact he hfits

/-- A part of a path that fits, if it is a directory on the disk, has been placed as one, and so have
    those above it. -/
theorem Ready.placed_above (hq : q <+: e.path)
    (hdirectory : FileTree.isDirectory key (created ++ before) (names ++ q) = true) (hne : p ≠ [])
    (hp : p <+: q) : Placed files p (.dir 0o700) := by
  have hlength : 0 < q.length := (List.length_pos_iff.mpr hne).trans_le hp.length_le
  rcases isDirectory_cases hdirectory with hnil | ⟨mode, hfind⟩
  · exact absurd (List.append_eq_nil_iff.mp hnil).1 hready.ne_nil
  · obtain ⟨q', hplaced, hfold⟩ := hready.found hkey hexact
      ((head_of_part hq (List.length_pos_iff.mp hlength)).trans he.head) hfind
    have hq' := hfits.agree q ⟨hq, hlength⟩ q' (hplaced.known hvalid) hfold
    exact (hq' ▸ hplaced).up hne hp

/-- Nothing stands where a path that fits ends. -/
theorem Ready.find_fresh : find key (created ++ before) (names ++ e.path) = none := by
  rw [Option.eq_none_iff_forall_ne_some]
  intro node hfind
  obtain ⟨q, hplaced, hfold⟩ := hready.found hkey hexact he.head hfind
  exact hfits.fresh he.spelled.1.symm q (hplaced.known hvalid) hfold

/-- The entry has been placed, and the directories above it that were missing. -/
theorem Ready.exact_concat {new : List (List Bytes × Node FileMode Bytes)} {above : List Bytes}
    (hmade : Made key 0o700 (created ++ before) new (names ++ e.path.dropLast) above) :
    Exact names (files ++ [e]) ((names ++ e.path, e.node) :: (new ++ created)) := by
  -- The directory that was there is the destination, or one below it.
  have hlength : names.length ≤ above.length := by
    by_contra hlt
    exact hready.find_names (hmade.free names (List.prefix_append _ _) (Nat.not_le.mp hlt))
  have hbelow : ∀ {q : List Bytes}, q <+: names ++ e.path.dropLast → names.length ≤ q.length →
      ∃ p, q = names ++ p ∧ p <+: e.path.dropLast := by
    intro q hq hle
    obtain ⟨p, rfl⟩ := List.prefix_of_prefix_length_le (List.prefix_append _ _) hq hle
    exact ⟨p, rfl, (List.prefix_append_right_inj names).mp hq⟩
  obtain ⟨a, rfl, ha⟩ := hbelow hmade.onWay hlength
  intro q node
  rw [List.mem_cons, List.mem_append, Prod.mk.injEq, hmade.mem, hexact]
  simp only [placed_concat he.spelled.1]
  constructor
  · rintro (⟨rfl, rfl⟩ | ⟨hq, hlt, rfl⟩ | ⟨p, rfl, hold⟩)
    · exact ⟨e.path, rfl, .inr (.inl ⟨rfl, rfl⟩)⟩
    · obtain ⟨p, rfl, hp⟩ := hbelow hq (hlength.trans hlt.le)
      rw [List.length_append, List.length_append] at hlt
      exact ⟨p, rfl, .inr (.inr ⟨List.length_pos_iff.mp (by omega), hp, rfl⟩)⟩
    · exact ⟨p, rfl, .inl hold⟩
  · rintro ⟨p, rfl, hold | ⟨rfl, rfl⟩ | ⟨hne, hp, rfl⟩⟩
    · exact .inr (.inr ⟨p, rfl, hold⟩)
    · exact .inl ⟨rfl, rfl⟩
    · rcases Nat.lt_or_ge (names ++ a).length (names ++ p).length with hlt | hle
      · exact .inr (.inl ⟨(List.prefix_append_right_inj names).mpr hp, hlt, rfl⟩)
      · -- Not below the directory that was there: then above it, and placed before.
        rw [List.length_append, List.length_append] at hle
        have hpa : p <+: a := List.prefix_of_prefix_length_le hp ha (by omega)
        exact .inr (.inr ⟨p, rfl, hready.placed_above hkey hvalid hexact he hfits
          (ha.trans (List.dropLast_prefix _)) hmade.directory hne hpa⟩)

end Fitting

/-! ## One entry more -/

/-- The variables of the loop when the checks of an entry are behind it. -/
def Extraction.noted (x : Extraction) (seen : Seen) (entry : ZipFile) : Extraction :=
  { x with
    seen := Function.update seen (toLower (join entry.path)) (some (join entry.path))
    entryKinds := Function.update x.entryKinds (toLower (join entry.path)) (some entry.isDirectory)
    total := x.total + entry.uncompressedSize64 }

variable {x x' y : Extraction} {failure : Failure}

/-- An entry that is let through has passed the checks; then the body of the loop places it. -/
theorem extractEntry_ok (hready : Ready key names before)
    (h : extractEntry validString key (spell names) x e = .ok x') :
    Valid e ∧ ∃ seen, checkPrefixes x.entryKinds [] e.path x.seen = some seen ∧
      ¬maximumExtractedBytes - x.total < e.uncompressedSize64 ∧
      (if e.isDirectory then extractDirectory key (spell (names ++ e.path)) (x.noted seen e)
        else extractFile key e (spell (names ++ e.path)) (x.noted seen e)) = .ok x' := by
  rw [extractEntry] at h
  cases hvalid : validateArchiveEntry validString e with
  | none =>
    rw [hvalid] at h
    cases h
  | some r =>
    obtain ⟨normalized, isDirectory⟩ := r
    obtain ⟨hv, rfl, rfl⟩ := validateArchiveEntry_ok hvalid
    have hplain : ∀ c ∈ names ++ e.path, Plain c :=
      List.forall_mem_append.mpr ⟨hready.plain, hv.plain⟩
    have hne : names ++ e.path ≠ [] := fun hnil => hready.ne_nil (List.append_eq_nil_iff.mp hnil).1
    have htarget : clean (clean (spell names ++ slash :: join e.path)) = spell (names ++ e.path) := by
      rw [slash_join hv.spelled.1, ← spell_append, clean_spell hplain hne, clean_spell hplain hne]
    have hpre : spell names ++ [slash] <+: spell (names ++ e.path) := by
      rw [spell_append, ← slash_join hv.spelled.1, List.prefix_append_right_inj]
      exact (List.prefix_cons_inj slash).mpr List.nil_prefix
    simp only [hvalid, components_join hv.spelled.2 hv.spelled.1] at h
    cases hcheck : checkPrefixes x.entryKinds [] e.path x.seen with
    | none =>
      rw [hcheck] at h
      cases h
    | some seen =>
      simp only [hcheck, htarget, not_true_eq_false, hpre, if_false] at h
      split at h
      · cases h
      · exact ⟨hv, seen, rfl, ‹_›, h⟩

theorem extractDirectory_ok {target : Bytes} (h : extractDirectory key target y = .ok x')
    (hfresh : find key y.nodes (resolve target) = none) (hne : resolve target ≠ []) :
    ∃ nodes, mkdir key 0o700 y.nodes (resolve target) = .ok nodes ∧ x' = { y with nodes } := by
  rw [extractDirectory] at h
  cases hmkdir : mkdir key 0o700 y.nodes (resolve target) with
  | ok nodes =>
    rw [hmkdir] at h
    exact ⟨nodes, rfl, (Except.ok.inj h).symm⟩
  | error refusal =>
    rw [hmkdir] at h
    cases refusal with
    | «exists» =>
      -- Nothing is there.
      rw [mkdir, hfresh] at hmkdir
      simp only [Option.isSome_none, Bool.or_false, List.isEmpty_iff, if_neg hne] at hmkdir
      split at hmkdir <;> cases hmkdir
    | missing => cases h
    | notDirectory => cases h

/-- A file that is let through has the size that the archive declares. -/
theorem extractFile_ok {target : Bytes} (h : extractFile key e target y = .ok x') :
    e.content.length = e.uncompressedSize64 ∧ ∃ nodes nodes',
      mkdirAll key 0o700 y.nodes (resolve (parent target)) = .ok nodes ∧
      create key e.mode.created e.content nodes (resolve target) = .ok nodes' ∧
      x' = { y with nodes := nodes', written := y.written + e.content.length } := by
  rw [extractFile] at h
  cases hparents : mkdirAll key 0o700 y.nodes (resolve (parent target)) with
  | error refusal =>
    rw [hparents] at h
    cases h
  | ok nodes =>
    simp only [hparents] at h
    split at h
    · cases h
    cases hcreate : create key e.mode.created (e.content.take (e.uncompressedSize64 + 1)) nodes
        (resolve target) with
    | error refusal =>
      rw [hcreate] at h
      cases h
    | ok nodes' =>
      simp only [hcreate] at h
      split at h
      · cases h
      · rename_i hcopy
        have hlength := not_not.mp (not_or.mp hcopy).2
        have hcontent : e.content.length = e.uncompressedSize64 := by
          rw [List.length_take] at hlength
          omega
        have htake : e.content.take (e.uncompressedSize64 + 1) = e.content :=
          List.take_of_length_le (by omega)
        rw [htake] at hcreate h
        exact ⟨hcontent, nodes, nodes', rfl, hcreate, (Except.ok.inj h).symm⟩

/-- The maps and the total after a further entry, whatever it puts on the disk. -/
theorem Extracted.note (hx : Extracted names before files x) (he : Valid e)
    (hfits : Fits {p | Known files p} x.entryKinds e.path [])
    (hseen : Represents seen ({p | Known files p} ∪ Ahead e.path [] \ {e.path})) :
    Represents (x.noted seen e).seen {p | Known (files ++ [e]) p} ∧
      (∀ y b, (x.noted seen e).entryKinds y = some b ↔
        ∃ e' ∈ files ++ [e], toLower (join e'.path) = y ∧ e'.isDirectory = b) ∧
      (files ++ [e]).Pairwise (fun e e' => fold e.path ≠ fold e'.path) ∧
      (∀ a ∈ files ++ [e], ∀ b ∈ files ++ [e], a.isDirectory = false → a.path <+: b.path →
        a.path = b.path) := by
  have hnew : ∀ {p : List Bytes}, Known files p → fold p ≠ fold e.path :=
    fun hp => hfits.fresh he.spelled.1.symm _ hp
  have hknown : ∀ {f : ZipFile}, f ∈ files → Known files f.path :=
    fun hf => ⟨(hx.valid _ hf).spelled.1, _, hf, List.prefix_rfl⟩
  refine ⟨?_, fun y b => ?_, ?_, fun a ha b hb hfile hab => ?_⟩
  · -- What the map stands for: what it stood for, the way up, and the path itself.
    have hset : {p | Known (files ++ [e]) p} =
        insert e.path ({p | Known files p} ∪ Ahead e.path [] \ {e.path}) := by
      have hself : e.path ∈ Ahead e.path [] := ⟨List.prefix_rfl, List.length_pos_iff.mpr he.spelled.1⟩
      rw [← Set.union_insert, Set.insert_sdiff_singleton, Set.insert_eq_of_mem hself]
      ext p
      simp only [Known, Ahead, Set.mem_union, Set.mem_ofPred_eq, List.mem_append, List.mem_singleton,
        List.length_nil, List.length_pos_iff, or_and_right, exists_or, exists_eq_left]
      rw [and_or_left, and_comm (a := p <+: e.path)]
    rw [hset]
    refine hseen.insert ?_ he.spelled ?_
    · rintro p (hp | ⟨⟨hp, hpos⟩, -⟩)
      · exact hp.spelled hx.valid
      · exact ⟨List.length_pos_iff.mp hpos, fun c hc => he.spelled.2 c (hp.subset hc)⟩
    · rintro q (hq | ⟨⟨hq, -⟩, hproper⟩) hfold
      · exact absurd hfold (hnew hq)
      · exact absurd (hq.eq_of_length (fold_length hfold)) hproper
  · refine (update_eq_some hx.kinds ?_ y b).trans ?_
    · rintro y ⟨f, hf, hlower, -⟩
      exact absurd (fold_eq_of_toLower (hx.valid f hf).spelled he.spelled hlower) (hnew (hknown hf))
    · simp only [List.mem_append, List.mem_singleton, or_and_right, exists_or, exists_eq_left]
  · refine List.pairwise_append.mpr ⟨hx.distinct, List.pairwise_singleton _ _, fun f hf e' he' => ?_⟩
    rw [List.mem_singleton.mp he']
    exact hnew (hknown hf)
  · rcases List.mem_append.mp ha with hold | hnewest
    · rcases List.mem_append.mp hb with hold' | hnewest'
      · exact hx.leaves a hold b hold' hfile hab
      · -- A file that is there would be seen above the new path.
        rw [List.mem_singleton.mp hnewest'] at hab ⊢
        by_contra hproper
        exact hfits.above a.path ⟨hab, List.length_pos_iff.mpr (hknown hold).1⟩ hproper
          ((hx.kinds _ _).mpr ⟨a, hold, rfl, hfile⟩)
    · rw [List.mem_singleton.mp hnewest] at hab ⊢
      rcases List.mem_append.mp hb with hold' | hnewest'
      · -- A path that is there below the new one would have made that one known.
        exact absurd rfl (hnew ⟨he.spelled.1, b, hold', hab⟩)
      · rw [List.mem_singleton.mp hnewest']

/-- **The step.** -/
theorem extractEntry_extracted (hready : Ready key names before)
    (hkey : ∀ a b, key a = key b → toLower a = toLower b) (hx : Extracted names before files x)
    (h : extractEntry validString key (spell names) x e = .ok x') :
    Extracted names before (files ++ [e]) x' := by
  obtain ⟨he, seen, hcheck, hsize, h⟩ := extractEntry_ok hready h
  have hspelled : ∀ p ∈ {p | Known files p}, Spelled p := fun p hp => hp.spelled hx.valid
  obtain ⟨hfits, hseen⟩ := checkPrefixes_ok he.spelled.2 rfl hspelled hx.seen hcheck
  obtain ⟨hseen', hkinds, hdistinct, hleaves⟩ := hx.note he hfits hseen
  obtain ⟨created, hnodes, hexact⟩ := hx.nodes
  have hvalids : ∀ f ∈ files ++ [e], Valid f :=
    List.forall_mem_append.mpr ⟨hx.valid, List.forall_mem_singleton.mpr he⟩
  have hplain : ∀ c ∈ names ++ e.path, Plain c := List.forall_mem_append.mpr ⟨hready.plain, he.plain⟩
  have htotal : x.total + e.uncompressedSize64 ≤ maximumExtractedBytes := by
    have := hx.total
    omega
  have hnoted : (x.noted seen e).nodes = created ++ before := hnodes
  have hplace := @Ready.exact_concat _ _ _ _ _ _ _ _ _ hready hkey hx.valid hexact he hfits
  cases hkind : e.isDirectory with
  | true =>
    rw [hkind, if_pos rfl] at h
    have hfree := hready.find_fresh hkey hx.valid hexact he hfits
    obtain ⟨nodes, hmkdir, rfl⟩ := extractDirectory_ok h (by rwa [resolve_spell hplain, hnoted])
      (by rw [resolve_spell hplain]; simp [hready.ne_nil])
    rw [resolve_spell hplain, hnoted] at hmkdir
    obtain ⟨rfl, hparent⟩ := mkdir_ok hmkdir
    rw [List.dropLast_append_of_ne_nil he.spelled.1] at hparent
    have hexact' := hplace (made_nil hparent)
    rw [ZipFile.node, if_pos hkind] at hexact'
    refine ⟨hvalids, hseen', hkinds, hdistinct, hleaves, htotal, ?_, ?_, _, rfl, hexact'⟩
    · exact hx.written.trans (Nat.le_add_right _ _)
    · rw [List.filter_append, List.filter_cons_of_neg (by simp [hkind]), List.filter_nil,
        List.append_nil]
      exact hx.bytes
  | false =>
    rw [hkind, if_neg Bool.false_ne_true] at h
    obtain ⟨hlength, nodes, nodes', hparents, hcreate, rfl⟩ := extractFile_ok h
    have hsplit : names ++ e.path = (names ++ e.path.dropLast) ++ [e.path.getLast he.spelled.1] := by
      rw [List.append_assoc, List.dropLast_append_getLast]
    have hup : ∀ c ∈ names ++ e.path.dropLast, Plain c := by
      intro c hc
      exact hplain c (hsplit ▸ List.mem_append_left _ hc)
    have hparent : resolve (parent (spell (names ++ e.path))) = names ++ e.path.dropLast := by
      rw [hsplit, parent_spell hup (he.plain _ (List.getLast_mem _)) (by simp [hready.ne_nil]),
        resolve_spell hup]
    rw [hparent, hnoted] at hparents
    rw [resolve_spell hplain] at hcreate
    obtain ⟨new, above, rfl, hmade⟩ := mkdirAll_ok hparents
    obtain ⟨rfl, -⟩ := create_ok hcreate
    have hexact' := hplace hmade
    rw [ZipFile.node, if_neg (by simp [hkind])] at hexact'
    refine ⟨hvalids, hseen', hkinds, hdistinct, hleaves, htotal, ?_, ?_, _, ?_, hexact'⟩
    · change x.written + e.content.length ≤ x.total + e.uncompressedSize64
      have := hx.written
      omega
    · rw [List.filter_append, List.filter_cons_of_pos (by simp [hkind]), List.filter_nil,
        List.map_append, List.sum_append, ← hx.bytes]
      simp [Extraction.noted]
    · simp

theorem extractEntries_extracted (hready : Ready key names before)
    (hkey : ∀ a b, key a = key b → toLower a = toLower b) {rest : List ZipFile}
    (hx : Extracted names before files x)
    (h : extractEntries validString key (spell names) rest x = .ok x') :
    Extracted names before (files ++ rest) x' := by
  induction rest generalizing files x with
  | nil =>
    obtain rfl := Except.ok.inj h
    rwa [List.append_nil]
  | cons e rest ih =>
    rw [extractEntries] at h
    cases hstep : extractEntry validString key (spell names) x e with
    | error failure =>
      rw [hstep] at h
      cases h
    | ok x1 =>
      rw [hstep] at h
      have := ih (extractEntry_extracted hready hkey hx hstep) h
      rwa [List.append_assoc] at this

theorem extracted_start (nodes : List (List Bytes × Node FileMode Bytes)) :
    Extracted names nodes [] ⟨fun _ => none, fun _ => none, 0, nodes, 0⟩ where
  valid := fun e he => absurd he List.not_mem_nil
  seen := by
    intro x y
    refine iff_of_false nofun ?_
    rintro ⟨p, ⟨-, e, he, -⟩, -⟩
    exact absurd he List.not_mem_nil
  kinds := by
    intro y b
    refine iff_of_false nofun ?_
    rintro ⟨e, he, -⟩
    exact absurd he List.not_mem_nil
  distinct := .nil
  leaves := fun e he => absurd he List.not_mem_nil
  total := Nat.zero_le _
  written := le_refl _
  bytes := rfl
  nodes := by
    refine ⟨[], rfl, fun q node => iff_of_false List.not_mem_nil ?_⟩
    rintro ⟨p, -, hplaced⟩
    cases hplaced with
    | file mem _ => exact absurd mem List.not_mem_nil
    | dir mem _ _ _ => exact absurd mem List.not_mem_nil

/-! ## The archive as a whole -/

/-- A node that only the owner can write, with none of the special bits. -/
def Ordinary : Node FileMode Bytes → Prop
  | .dir mode => mode = 0o700
  | .file mode _ => mode &&& ~~~0o755 = 0

theorem created_ordinary (mode : FileMode) : mode.created &&& ~~~0o755 = 0 := by
  rw [FileMode.created]
  split
  · decide
  · rw [FileMode.perm, BitVec.and_assoc, BitVec.and_assoc]
    have hbits : (0o777 : FileMode) &&& (~~~0o022 &&& ~~~0o755) = 0 := by decide
    rw [hbits]
    exact BitVec.and_zero

theorem Placed.ordinary (h : Placed files p node) : Ordinary node := by
  cases h with
  | file _ _ => exact created_ordinary _
  | dir _ _ _ _ => rfl

/-- The names of the destination. -/
def destinationNames (destination : Bytes) : List Bytes := resolve (clean destination)

theorem extractReleaseArchive_ok {destination : Bytes}
    (h : extractReleaseArchive validString key (some files) destination before = .ok x) :
    ∃ names, (∀ c ∈ names, Plain c) ∧ names ≠ [] ∧ clean destination = spell names ∧
      extractEntries validString key (spell names) files
        ⟨fun _ => none, fun _ => none, 0, before, 0⟩ = .ok x := by
  simp only [extractReleaseArchive] at h
  split at h
  · cases h
  rename_i hdestination
  obtain ⟨habs, hroot⟩ := not_or.mp hdestination
  obtain ⟨names, hplain, hne, hclean⟩ := clean_absolute (Bool.of_not_eq_false habs) hroot
  split at h
  · cases h
  cases hrun : extractEntries validString key (clean destination) files
      ⟨fun _ => none, fun _ => none, 0, before, 0⟩ with
  | error failure =>
    simp only [hrun] at h
    cases h
  | ok x1 =>
    simp only [hrun] at h
    split at h
    · cases h
    · obtain rfl := Except.ok.inj h
      exact ⟨names, hplain, hne, hclean, by rw [← hclean, hrun]⟩

end Extracted

/-- **An accepted archive is extracted inside the bundle, and faithfully.**  The file system may identify
    names, as long as it identifies only such that differ in case; the destination is a directory in
    which nothing stands where the application will. -/
theorem extractReleaseArchive_faithful {κ : Type} [DecidableEq κ] (validString : Bytes → Bool)
    (key : Bytes → κ) (hkey : ∀ a b, key a = key b → toLower a = toLower b) {files : List ZipFile}
    {destination : Bytes} {before : List (List Bytes × Node FileMode Bytes)} {x : Extraction}
    (hdirectory : FileTree.isDirectory key before (destinationNames destination) = true)
    (hfresh : ∀ y ∈ before,
      ¬(destinationNames destination ++ [stageApplicationDirectory]).map key <+: y.1.map key)
    (h : extractReleaseArchive validString key (some files) destination before = .ok x) :
    ∃ created, x.nodes = created ++ before ∧
      -- Every path lies under the application directory.
      (∀ y ∈ created, destinationNames destination ++ [stageApplicationDirectory] <+: y.1) ∧
      -- No two entries denote the same path, even if case is folded.
      files.Pairwise (fun e e' => fold e.path ≠ fold e'.path) ∧
      -- No file is a directory of another entry, wherever in the archive they stand.
      (∀ e ∈ files, ∀ e' ∈ files, e.isDirectory = false → fold e.path <+: fold e'.path →
        fold e.path = fold e'.path) ∧
      -- No link, no device, no setuid or setgid file.
      (∀ e ∈ files, e.mode &&& FileMode.special = 0) ∧ (∀ y ∈ created, Ordinary y.2) ∧
      -- The bytes written.
      x.written = ((files.filter fun e => !e.isDirectory).map fun e => e.content.length).sum ∧
      x.written ≤ maximumExtractedBytes ∧
      -- The tree.
      ∀ q node, (q, node) ∈ created ↔
        ∃ p, q = destinationNames destination ++ p ∧ Placed files p node := by
  obtain ⟨names, hplain, hne, hclean, hrun⟩ := extractReleaseArchive_ok h
  have hnames : destinationNames destination = names := by
    rw [destinationNames, hclean, resolve_spell hplain]
  rw [hnames] at hdirectory hfresh ⊢
  have hready : Ready key names before := ⟨hplain, hne, hdirectory, hfresh⟩
  have hx := extractEntries_extracted hready hkey (extracted_start before) hrun
  rw [List.nil_append] at hx
  obtain ⟨created, hnodes, hexact⟩ := hx.nodes
  refine ⟨created, hnodes, fun y hy => ?_, hx.distinct, fun e he e' he' hfile hfold => ?_,
    fun e he => (hx.valid e he).ordinary, fun y hy => ?_, hx.bytes, hx.written.trans hx.total, hexact⟩
  · obtain ⟨p, hq, hplaced⟩ := (hexact y.1 y.2).mp hy
    obtain ⟨hpne, e, he, hp⟩ := hplaced.known hx.valid
    rw [hq, List.prefix_append_right_inj]
    have hhead := (head_of_part hp hpne).trans (hx.valid e he).head
    obtain ⟨c, t, rfl⟩ := List.exists_cons_of_ne_nil hpne
    rw [Option.some.inj hhead]
    exact (List.prefix_cons_inj _).mpr List.nil_prefix
  · -- The part of the other path that folds like the file is the file.
    have hlength := hfold.length_le
    rw [fold, fold, List.length_map, List.length_map] at hlength
    have hpart : fold e.path = fold (e'.path.take e.path.length) := by
      rw [List.prefix_iff_eq_take.mp hfold]
      simp [fold, List.map_take]
    have hknown : Known files e.path := ⟨(hx.valid e he).spelled.1, e, he, List.prefix_rfl⟩
    have hknown' : Known files (e'.path.take e.path.length) := by
      refine ⟨fun hnil => hknown.1 ?_, e', he', List.take_prefix _ _⟩
      rw [hnil] at hpart
      exact List.map_eq_nil_iff.mp hpart
    have heq := hx.seen.unique (fun p hp => Known.spelled hp hx.valid) hknown hknown' hpart
    have hpre : e.path <+: e'.path := by
      rw [heq]
      exact List.take_prefix _ _
    rw [hx.leaves e he e' he' hfile hpre]
  · obtain ⟨p, -, hplaced⟩ := (hexact y.1 y.2).mp hy
    exact hplaced.ordinary

/-- Two entries whose names differ only in case would be refused; a directory, a file in it and a file
    two levels below are extracted, on a file system that folds case. -/
theorem extractReleaseArchive_faithful_bundle :
    let name (s : String) : Bytes := stageApplicationDirectory ++ ascii s
    let files : List ZipFile :=
      [⟨name "/", FileMode.dir ||| 0o755, 0, 0, true, [], false⟩,
        ⟨name "/Info", 0o644, 2, 2, true, [0x41, 0x42], false⟩,
        ⟨name "/Contents/MacOS/relay", 0o755, 1, 1, true, [0x43], false⟩]
    let before : List (List Bytes × Node FileMode Bytes) := [([ascii "stage"], .dir 0o700)]
    ∃ x created,
      extractReleaseArchive (fun _ => true) toLower (some files) (ascii "/stage/") before = .ok x ∧
      x.nodes = created ++ before ∧ x.written = 3 ∧
      ([ascii "stage", stageApplicationDirectory, ascii "Contents"], .dir 0o700) ∈ created := by
  intro name files before
  have hok : (extractReleaseArchive (fun _ => true) toLower (some files) (ascii "/stage/")
      before).toOption.isSome = true := by decide +kernel
  cases hrun : extractReleaseArchive (fun _ => true) toLower (some files) (ascii "/stage/") before with
  | error failure =>
    rw [hrun] at hok
    cases hok
  | ok x =>
    obtain ⟨created, hnodes, -, -, -, -, -, hwritten, -, htree⟩ :=
      extractReleaseArchive_faithful (fun _ => true) toLower (fun _ _ h => h)
        (by decide +kernel) (by decide +kernel) hrun
    refine ⟨x, created, rfl, hnodes, by rw [hwritten]; decide +kernel, (htree _ _).mpr ?_⟩
    refine ⟨[stageApplicationDirectory, ascii "Contents"], by decide +kernel, ?_⟩
    refine .dir (List.getLast_mem (by decide : files ≠ [])) (by decide) ?_ (by decide +kernel)
    exact of_decide_eq_true (by decide +kernel)

end Release
