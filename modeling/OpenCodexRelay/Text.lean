/-
  Searching and cutting byte strings.

  A library over lists of any type with decidable equality: the first occurrence of a pattern, and how
  it depends on how much of the text has been seen.

  `index_take` is the lemma the streaming programs rest on: what a search finds in the first `n`
  elements of a text is what it finds in the whole text, as soon as the occurrence is COMPLETE.
-/
import Mathlib.Data.List.Infix
import Mathlib.Tactic.Common

namespace Text

section Index

variable {α : Type} [DecidableEq α] {pat xs ys : List α} {k n : ℕ}

/-- The first occurrence of a pattern that is not empty. -/
def index (pat : List α) : List α → Option ℕ
  | [] => none
  | x :: xs => if pat <+: x :: xs then some 0 else (index pat xs).map (· + 1)

/-- A text shorter than the pattern does not contain it. -/
theorem index_of_length_lt (h : xs.length < pat.length) : index pat xs = none := by
  induction xs with
  | nil => rfl
  | cons x xs ih =>
    rw [List.length_cons] at h
    have hnot : ¬pat <+: x :: xs := by
      intro hpre
      have := hpre.length_le
      rw [List.length_cons] at this
      omega
    rw [index, if_neg hnot, ih (by omega)]
    rfl

/-- Where the pattern is found, there it is. -/
theorem index_eq_some (h : index pat xs = some k) : pat <+: xs.drop k := by
  induction xs generalizing k with
  | nil => cases h
  | cons x xs ih =>
    rw [index] at h
    split at h
    · rename_i hpre
      obtain rfl := Option.some.inj h
      exact hpre
    · obtain ⟨m, hm, rfl⟩ := Option.map_eq_some_iff.mp h
      exact ih hm

theorem index_add_le (hpat : pat ≠ []) (h : index pat xs = some k) :
    k + pat.length ≤ xs.length := by
  have hpre := (index_eq_some h).length_le
  have hpos := List.length_pos_of_ne_nil hpat
  rw [List.length_drop] at hpre
  omega

/-- **A search in the first `n` elements** finds what a search in the whole text finds, if that has
    ended by then, and nothing otherwise. -/
theorem index_take (hpat : pat ≠ []) (h : index pat xs = some k) (n : ℕ) :
    index pat (xs.take n) = if k + pat.length ≤ n then some k else none := by
  have hpos := List.length_pos_of_ne_nil hpat
  induction xs generalizing k n with
  | nil => cases h
  | cons x xs ih =>
    cases n with
    | zero =>
      rw [if_neg (by omega)]
      rfl
    | succ n =>
      rw [index] at h
      split at h
      · rename_i hpre
        obtain rfl := Option.some.inj h
        by_cases hn : 0 + pat.length ≤ n + 1
        · have hshort : pat <+: (x :: xs).take (n + 1) := by
            rw [List.prefix_take_iff]
            exact ⟨hpre, by omega⟩
          rw [List.take_succ_cons] at hshort ⊢
          rw [if_pos hn, index, if_pos hshort]
        · rw [if_neg hn]
          refine index_of_length_lt ?_
          rw [List.length_take]
          omega
      · rename_i hpre
        obtain ⟨m, hm, rfl⟩ := Option.map_eq_some_iff.mp h
        have hshort : ¬pat <+: (x :: xs).take (n + 1) := fun hp =>
          hpre (hp.trans (List.take_prefix _ _))
        rw [List.take_succ_cons] at hshort ⊢
        rw [index, if_neg hshort, ih hm n]
        by_cases hn : m + pat.length ≤ n
        · rw [if_pos hn, if_pos (by omega)]
          rfl
        · rw [if_neg hn, if_neg (by omega)]
          rfl

/-- A pattern is found behind a text that does not have its first element. -/
theorem index_append {x : α} (hxs : x ∉ xs) : index (x :: pat) (xs ++ (x :: pat ++ ys)) =
    some xs.length := by
  induction xs with
  | nil =>
    have hpre : x :: pat <+: x :: (pat ++ ys) := List.prefix_append (x :: pat) ys
    rw [List.nil_append, List.cons_append, index, if_pos hpre]
    rfl
  | cons y xs ih =>
    have hnot : ¬x :: pat <+: y :: (xs ++ (x :: pat ++ ys)) := by
      intro hpre
      obtain ⟨rfl, -⟩ := List.cons_prefix_cons.mp hpre
      exact hxs List.mem_cons_self
    rw [List.cons_append, index, if_neg hnot, ih fun h => hxs (List.mem_cons_of_mem _ h)]
    rfl

/-- A pattern at the end of a text is found, there or earlier. -/
theorem index_append_self (hpat : pat ≠ []) (xs : List α) : ∃ k, index pat (xs ++ pat) = some k := by
  induction xs with
  | nil =>
    cases pat with
    | nil => exact absurd rfl hpat
    | cons x pat => exact ⟨0, if_pos (List.prefix_refl _)⟩
  | cons x xs ih =>
    obtain ⟨k, hk⟩ := ih
    rw [List.cons_append, index, hk]
    split_ifs
    · exact ⟨0, rfl⟩
    · exact ⟨k + 1, rfl⟩

end Index

end Text
