/-
  Paths as texts, with names between slashes.

  1. `clean`, `parent`: what Go's `path.Clean` and `filepath.Dir` compute (on a system whose separator
     is the slash), as a stack of names.
  2. `spell`: how an absolute path is written.  A path of plain names is its own clean form
     (`clean_spell`), and every clean absolute path is such a path (`clean_absolute`).
  3. `join`: how a relative path is written; the names can be read back (`join_injective`).
-/
import Mathlib.Data.List.TakeWhile
import Mathlib.Tactic.Common

namespace SlashPath

/-- A path, and a name, as bytes. -/
abbrev Bytes := List UInt8

def slash : UInt8 := 0x2f

def dot : Bytes := [0x2e]

def dotDot : Bytes := [0x2e, 0x2e]

/-- `strings.Split(path, "/")`. -/
def components (path : Bytes) : List Bytes := path.splitOn slash

/-- `strings.Join(names, "/")`. -/
def join (names : List Bytes) : Bytes := [slash].intercalate names

/-- `path.IsAbs`. -/
def isAbs (path : Bytes) : Bool := path.head? == some slash

/-- What a name does to the names before it, the last of them first. -/
def push (rooted : Bool) (stack : List Bytes) (name : Bytes) : List Bytes :=
  if name = [] ∨ name = dot then stack
  else if name = dotDot then
    match stack with
    | [] => if rooted then [] else [dotDot]
    | last :: before => if last = dotDot then dotDot :: stack else before
  else name :: stack

/-- `path.Clean`. -/
def clean (path : Bytes) : Bytes :=
  let names := ((components path).foldl (push (isAbs path)) []).reverse
  if isAbs path then slash :: join names
  else if names = [] then dot
  else join names

/-- `filepath.Dir`. -/
def parent (path : Bytes) : Bytes :=
  clean (path.reverse.dropWhile (· != slash)).reverse

/-- The names that the operating system follows. -/
def resolve (path : Bytes) : List Bytes := (components path).filter (· ≠ [])

/-! ## Names and how they are written -/

/-- A name that `clean` keeps. -/
structure Plain (name : Bytes) : Prop where
  ne_nil : name ≠ []
  ne_dot : name ≠ dot
  ne_dotDot : name ≠ dotDot
  noSlash : slash ∉ name

/-- An absolute path. -/
def spell (names : List Bytes) : Bytes := names.flatMap (slash :: ·)

variable {names names' : List Bytes}

theorem spell_append : spell (names ++ names') = spell names ++ spell names' :=
  List.flatMap_append

theorem slash_join (h : names ≠ []) : slash :: join names = spell names := by
  induction names with
  | nil => exact absurd rfl h
  | cons c rest ih =>
    cases rest with
    | nil => simp [join, spell, List.intercalate]
    | cons d rest =>
      have hrest := ih (List.cons_ne_nil d rest)
      have hjoin : join (c :: d :: rest) = c ++ slash :: join (d :: rest) := by
        simp [join, List.intercalate]
      rw [hjoin, hrest]
      rfl

theorem components_join (hslash : ∀ c ∈ names, slash ∉ c) (hnames : names ≠ []) :
    components (join names) = names :=
  List.splitOn_intercalate slash hslash hnames

theorem components_spell (hslash : ∀ c ∈ names, slash ∉ c) :
    components (spell names) = [] :: names := by
  by_cases hnames : names = []
  · subst hnames
    rfl
  · rw [← slash_join hnames, components, List.splitOn, List.splitOnP_cons_eq_if_modifyHead,
      if_pos (beq_self_eq_true _)]
    exact congrArg _ (components_join hslash hnames)

/-- Two relative paths are written alike only if they have the same names. -/
theorem join_injective (hslash : ∀ c ∈ names, slash ∉ c) (hnames : names ≠ [])
    (hslash' : ∀ c ∈ names', slash ∉ c) (hnames' : names' ≠ []) (h : join names = join names') :
    names = names' := by
  rw [← components_join hslash hnames, h, components_join hslash' hnames']

theorem resolve_spell (hplain : ∀ c ∈ names, Plain c) : resolve (spell names) = names := by
  rw [resolve, components_spell fun c hc => (hplain c hc).noSlash, List.filter_cons_of_neg (by simp),
    List.filter_eq_self]
  exact fun c hc => decide_eq_true (hplain c hc).ne_nil

theorem noSlash_of_components (path : Bytes) : ∀ c ∈ components path, slash ∉ c := by
  induction path with
  | nil => simp [components]
  | cons b path ih =>
    rw [components, List.splitOn_cons_eq_if_modifyHead]
    split
    · exact List.forall_mem_cons.mpr ⟨List.not_mem_nil, ih⟩
    · rename_i hb
      -- The byte goes to the first name of the rest.
      rw [components] at ih
      cases hsplit : path.splitOn slash with
      | nil => exact absurd hsplit (List.splitOn_ne_nil _ _)
      | cons first others =>
        rw [hsplit, List.forall_mem_cons] at ih
        refine List.forall_mem_cons.mpr ⟨List.not_mem_cons_of_ne_of_not_mem ?_ ih.1, ih.2⟩
        rintro rfl
        exact hb (beq_self_eq_true _)

/-! ## What `clean` does -/

theorem push_plain {rooted : Bool} {stack : List Bytes} {name : Bytes} (h : Plain name) :
    push rooted stack name = name :: stack := by
  rw [push.eq_def, if_neg (not_or.mpr ⟨h.ne_nil, h.ne_dot⟩), if_neg h.ne_dotDot]

theorem foldl_push (rooted : Bool) (hplain : ∀ c ∈ names, Plain c) (stack : List Bytes) :
    names.foldl (push rooted) stack = names.reverse ++ stack := by
  induction names generalizing stack with
  | nil => rfl
  | cons c rest ih =>
    rw [List.foldl_cons, push_plain (hplain c List.mem_cons_self),
      ih (fun d hd => hplain d (List.mem_cons_of_mem _ hd)), List.reverse_cons, List.append_assoc]
    rfl

theorem isAbs_spell (h : names ≠ []) : isAbs (spell names) = true := by
  rw [← slash_join h]
  rfl

/-- **A path of plain names is its own clean form.** -/
theorem clean_spell (hplain : ∀ c ∈ names, Plain c) (hnames : names ≠ []) :
    clean (spell names) = spell names := by
  have hstack : ((components (spell names)).foldl (push true) []).reverse = names := by
    rw [components_spell fun c hc => (hplain c hc).noSlash, List.foldl_cons]
    change (names.foldl (push true) []).reverse = names
    rw [foldl_push true hplain, List.append_nil, List.reverse_reverse]
  rw [clean, isAbs_spell hnames, if_pos rfl, hstack, slash_join hnames]

/-- The directory of a path is the path without its last name. -/
theorem parent_spell {c : Bytes} (hplain : ∀ d ∈ names, Plain d) (hc : Plain c) (hnames : names ≠ []) :
    parent (spell (names ++ [c])) = spell names := by
  -- Up to the last slash, and that slash, the text is the path with an empty name at its end.
  have hcut : ((spell (names ++ [c])).reverse.dropWhile (· != slash)).reverse =
      spell (names ++ [[]]) := by
    have hlast : ∀ xs : Bytes, slash ∉ xs → xs.dropWhile (· != slash) = [] := by
      intro xs hxs
      refine List.dropWhile_eq_nil_iff.mpr fun b hb => ?_
      exact bne_iff_ne.mpr fun heq => hxs (heq ▸ hb)
    rw [spell_append, spell_append, List.reverse_append]
    have hone : ∀ d : Bytes, spell [d] = slash :: d := fun d => by simp [spell]
    rw [hone, hone, List.reverse_cons, List.append_assoc, List.dropWhile_append,
      hlast _ (fun h => hc.noSlash (List.mem_reverse.mp h))]
    simp [slash]
  have hstack : ((components (spell (names ++ [[]]))).foldl (push true) []).reverse = names := by
    rw [components_spell, List.foldl_cons, List.foldl_append]
    · change (names.foldl (push true) []).reverse = names
      rw [foldl_push true hplain, List.append_nil, List.reverse_reverse]
    · exact List.forall_mem_append.mpr
        ⟨fun d hd => (hplain d hd).noSlash, List.forall_mem_singleton.mpr List.not_mem_nil⟩
  rw [parent, hcut, clean, isAbs_spell (by simp), if_pos rfl, hstack, slash_join hnames]

/-- A name on the stack is a plain one, or a `..` that could not be resolved. -/
theorem push_mem {rooted : Bool} {stack : List Bytes} {name : Bytes} (hslash : slash ∉ name)
    (hstack : ∀ d ∈ stack, Plain d ∨ (rooted = false ∧ d = dotDot)) :
    ∀ c ∈ push rooted stack name, Plain c ∨ (rooted = false ∧ c = dotDot) := by
  unfold push
  split
  · exact hstack
  · rename_i hkept
    split
    · cases stack with
      | nil =>
        cases rooted with
        | true => exact hstack
        | false => exact List.forall_mem_singleton.mpr (.inr ⟨rfl, rfl⟩)
      | cons last before =>
        simp only
        split
        · rename_i hlast
          exact List.forall_mem_cons.mpr ⟨hlast ▸ hstack last List.mem_cons_self, hstack⟩
        · exact (List.forall_mem_cons.mp hstack).2
    · rename_i hup
      obtain ⟨hnil, hdot⟩ := not_or.mp hkept
      exact List.forall_mem_cons.mpr ⟨.inl ⟨hnil, hdot, hup, hslash⟩, hstack⟩

theorem foldl_push_mem {rooted : Bool} (hslash : ∀ c ∈ names, slash ∉ c) (stack : List Bytes)
    (hstack : ∀ d ∈ stack, Plain d ∨ (rooted = false ∧ d = dotDot)) :
    ∀ c ∈ names.foldl (push rooted) stack, Plain c ∨ (rooted = false ∧ c = dotDot) := by
  induction names generalizing stack with
  | nil => exact hstack
  | cons d rest ih =>
    rw [List.forall_mem_cons] at hslash
    exact ih hslash.2 _ (push_mem hslash.1 hstack)

/-- **An absolute clean path is written with plain names**, unless it is the root. -/
theorem clean_absolute {path : Bytes} (habs : isAbs (clean path) = true)
    (hroot : clean path ≠ [slash]) :
    ∃ names, (∀ c ∈ names, Plain c) ∧ names ≠ [] ∧ clean path = spell names := by
  have hmem := @foldl_push_mem (components path) (isAbs path)
    (noSlash_of_components _) [] (List.forall_mem_nil _)
  generalize hstack : ((components path).foldl (push (isAbs path)) []).reverse = names
  have hnames : ∀ c ∈ names, Plain c ∨ (isAbs path = false ∧ c = dotDot) := by
    intro c hc
    rw [← hstack, List.mem_reverse] at hc
    exact hmem c hc
  have hclean : clean path = if isAbs path then slash :: join names
      else if names = [] then dot else join names := by
    rw [clean, hstack]
  cases hrooted : isAbs path with
  | true =>
    rw [hrooted, if_pos rfl] at hclean
    have hne : names ≠ [] := by
      intro hnil
      rw [hnil] at hclean
      exact hroot hclean
    refine ⟨names, fun c hc => ?_, hne, by rw [hclean, slash_join hne]⟩
    exact (hnames c hc).resolve_right fun h => by rw [hrooted] at h; cases h.1
  | false =>
    -- Then the clean path is relative as well: its first name starts with no slash.
    exfalso
    rw [hrooted, if_neg Bool.false_ne_true] at hclean
    split at hclean
    · rw [hclean] at habs
      cases habs
    · rename_i hne
      obtain ⟨first, rest, rfl⟩ := List.exists_cons_of_ne_nil hne
      have hfirst : first ≠ [] ∧ slash ∉ first := by
        rcases hnames first List.mem_cons_self with hplain | ⟨-, rfl⟩
        · exact ⟨hplain.ne_nil, hplain.noSlash⟩
        · decide
      obtain ⟨b, bs, rfl⟩ := List.exists_cons_of_ne_nil hfirst.1
      have hhead : (join ((b :: bs) :: rest)).head? = some b := by
        cases rest <;> simp [join, List.intercalate]
      rw [isAbs, hclean, hhead, beq_iff_eq, Option.some.injEq] at habs
      exact hfirst.2 (habs ▸ List.mem_cons_self)

end SlashPath
