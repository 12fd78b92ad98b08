/-
  Release versions and their order.

  A release is found by its tag, and `ParseSemanticVersion` decides which tags are versions.  Two
  versions are compared without ever turning their digits into numbers, so that a number may have any
  length.

  1. `parseSemanticVersion`, `SemanticVersion.compare`: the code, over the bytes of a tag.  A character
     beyond ASCII is no part of an identifier, whether it is looked at as a rune or as its bytes.
  2. `SemVer`: the grammar of a SemVer 2.0 version without build metadata.
  3. `precedence`: where a version stands, as a value of an order that everybody knows: the three
     numbers, then either no pre-release (above every pre-release) or the list of its identifiers.
  4. Digits that do not begin with a zero are ordered by length and then as texts exactly as the
     numbers they spell; from there on everything is lexicographic.
-/
import OpenCodexRelay.Json
import Mathlib.Data.List.Lex
import Mathlib.Data.Prod.Lex
import Mathlib.Data.Sum.Order
import Mathlib.Order.WithBot
import Mathlib.Order.Compare
import Mathlib.Tactic.Ring

namespace Release

open Json Json.NumberLiteral

/-! ## The code -/

def zeroDigit : Byte := 0x30

def period : Byte := 0x2e

def hyphen : Byte := 0x2d

def plusSign : Byte := 0x2b

structure SemanticVersion where
  raw : List Byte
  core : List Byte × List Byte × List Byte
  prerelease : List (List Byte)
deriving DecidableEq

def validNumericIdentifier (value : List Byte) : Bool :=
  !(value == [] || (1 < value.length && value.head? == some zeroDigit)) && value.all isDigit

def isIdentifierCharacter (b : Byte) : Bool :=
  isDigit b || (0x41 ≤ b && b ≤ 0x5a) || (0x61 ≤ b && b ≤ 0x7a) || b == hyphen

def validPrereleaseIdentifier (value : List Byte) : Bool :=
  value != [] && value.all isIdentifierCharacter &&
    (!value.all isDigit || value.length == 1 || value.head? != some zeroDigit)

def isNumericIdentifier (value : List Byte) : Bool := value != [] && value.all isDigit

def parseSemanticVersion (value : List Byte) : Option SemanticVersion :=
  if value = [] ∨ plusSign ∈ value then none
  else
    -- `strings.Cut(value, "-")`, the core before the first hyphen
    match (value.takeWhile (· != hyphen)).splitOn period with
    | [major, minor, patch] =>
      if [major, minor, patch].all validNumericIdentifier then
        match value.dropWhile (· != hyphen) with
        | [] => some ⟨value, (major, minor, patch), []⟩
        | _ :: prerelease =>
          if prerelease ≠ [] ∧ (prerelease.splitOn period).all validPrereleaseIdentifier then
            some ⟨value, (major, minor, patch), prerelease.splitOn period⟩
          else none
      else none
    | _ => none

/-- The cases of a `switch` that compares two values both ways. -/
def switchLess {α : Type} [LT α] [DecidableLT α] (left right : α) : Ordering :=
  if left < right then .lt else if right < left then .gt else .eq

def compareNumericIdentifier (left right : List Byte) : Ordering :=
  (switchLess left.length right.length).then (switchLess left right)

/-- The loop over the identifiers both have, and what is decided by the lengths after it. -/
def comparePrerelease : List (List Byte) → List (List Byte) → Ordering
  | left :: lefts, right :: rights =>
    match isNumericIdentifier left, isNumericIdentifier right with
    | true, true => (compareNumericIdentifier left right).then (comparePrerelease lefts rights)
    | true, false => .lt
    | false, true => .gt
    | false, false => (switchLess left right).then (comparePrerelease lefts rights)
  | lefts, rights => switchLess lefts.length rights.length

/-- **The comparison.** -/
def SemanticVersion.compare (v other : SemanticVersion) : Ordering :=
  (compareNumericIdentifier v.core.1 other.core.1).then <|
  (compareNumericIdentifier v.core.2.1 other.core.2.1).then <|
  (compareNumericIdentifier v.core.2.2 other.core.2.2).then <|
  match v.prerelease, other.prerelease with
  | [], [] => .eq
  | [], _ => .gt
  | _, [] => .lt
  | lefts, rights => comparePrerelease lefts rights

/-! ## What a version is -/

/-- `<numeric identifier>`: a zero, or digits of which the first is another. -/
def NumericIdentifier (s : List Byte) : Prop := s = [zeroDigit] ∨ Digits s ∧ s.head? ≠ some zeroDigit

/-- `<alphanumeric identifier>`: letters, digits and hyphens, and one of them not a digit. -/
def AlphanumericIdentifier (s : List Byte) : Prop :=
  (∀ b ∈ s, isIdentifierCharacter b = true) ∧ ∃ b ∈ s, isDigit b = false

/-- `<pre-release identifier>`. -/
def PrereleaseIdentifier (s : List Byte) : Prop := NumericIdentifier s ∨ AlphanumericIdentifier s

/-- **The grammar**: the text of a version and its parts. -/
structure SemVer (v : SemanticVersion) : Prop where
  major : NumericIdentifier v.core.1
  minor : NumericIdentifier v.core.2.1
  patch : NumericIdentifier v.core.2.2
  identifiers : ∀ s ∈ v.prerelease, PrereleaseIdentifier s
  text : v.raw = [period].intercalate [v.core.1, v.core.2.1, v.core.2.2] ++
    if v.prerelease = [] then [] else hyphen :: [period].intercalate v.prerelease

/-- Where an identifier of a pre-release stands: numbers are below texts, and these are ordered by
    the codes of their characters. -/
def identifierRank (s : List Byte) : ℕ ⊕ₗ List ℕ :=
  if isNumericIdentifier s then toLex (.inl (digitsValue s))
  else toLex (.inr (s.map UInt8.toNat))

/-- **SemVer precedence**: the order of the numbers, of a release and its pre-releases, and of these. -/
def SemanticVersion.precedence (v : SemanticVersion) :
    ℕ ×ₗ ℕ ×ₗ ℕ ×ₗ WithTop (List (ℕ ⊕ₗ List ℕ)) :=
  toLex (digitsValue v.core.1, toLex (digitsValue v.core.2.1, toLex (digitsValue v.core.2.2,
      if v.prerelease = [] then ⊤ else ↑(v.prerelease.map identifierRank))))

/-! ## Numbers as digits -/

variable {b : Byte} {s t : List Byte} {α : Type} {v w : SemanticVersion}
variable {rights lefts : List (List Byte)}

section Digits

variable {a : Byte} {as bs : List Byte}

theorem digitsValue_cons : digitsValue (a :: as) =
    (a.toNat - 0x30) * 10 ^ as.length + digitsValue as := by
  suffices h : ∀ n, as.foldl (fun n d => 10 * n + (d.toNat - 0x30)) n =
      n * 10 ^ as.length + digitsValue as by
    simpa [digitsValue] using h (a.toNat - 0x30)
  induction as with
  | nil => simp [digitsValue]
  | cons d ds ih =>
    intro n
    have h0 := ih (10 * 0 + (d.toNat - 0x30))
    rw [digitsValue, List.foldl_cons, List.foldl_cons, ih, h0, List.length_cons]
    ring

theorem isDigit_iff : isDigit b = true ↔ 0x30 ≤ b.toNat ∧ b.toNat ≤ 0x39 := by
  simp [isDigit, UInt8.le_iff_toNat_le]

theorem digitsValue_lt (h : ∀ b ∈ as, isDigit b = true) : digitsValue as < 10 ^ as.length := by
  induction as with
  | nil => simp [digitsValue]
  | cons d ds ih =>
    have hd := isDigit_iff.1 (h d (by simp))
    have hds := ih fun b hb => h b (by simp [hb])
    have hle : (d.toNat - 0x30) * 10 ^ ds.length ≤ 9 * 10 ^ ds.length :=
      Nat.mul_le_mul_right _ (by omega)
    rw [digitsValue_cons, List.length_cons, Nat.pow_succ]
    omega

theorem NumericIdentifier.digits (h : NumericIdentifier s) : Digits s := by
  rcases h with rfl | ⟨h, -⟩
  · exact ⟨by simp, by simp [zeroDigit, isDigit]⟩
  · exact h

/-- A number of several digits has the size that their count says. -/
theorem NumericIdentifier.le_digitsValue (h : NumericIdentifier s) (hlong : 1 < s.length) :
    10 ^ (s.length - 1) ≤ digitsValue s := by
  rcases h with rfl | ⟨⟨hne, hdigits⟩, hzero⟩
  · simp at hlong
  obtain ⟨d, ds, rfl⟩ := List.exists_cons_of_ne_nil hne
  have hd := isDigit_iff.1 (hdigits d (by simp))
  have hpos : d.toNat ≠ 0x30 := fun heq => hzero (by simp [zeroDigit, ← UInt8.toNat_inj, heq])
  rw [digitsValue_cons, List.length_cons, Nat.add_sub_cancel]
  exact Nat.le_add_right_of_le (Nat.le_mul_of_pos_left _ (by omega))

theorem digitsValue_lt_of_length (hs : NumericIdentifier as) (ht : NumericIdentifier bs)
    (h : as.length < bs.length) : digitsValue as < digitsValue bs :=
  have hpos := List.length_pos_iff.2 hs.digits.1
  calc digitsValue as < 10 ^ as.length := digitsValue_lt hs.digits.2
    _ ≤ 10 ^ (bs.length - 1) := Nat.pow_le_pow_right (by omega) (by omega)
    _ ≤ digitsValue bs := ht.le_digitsValue (by omega)

/-- Texts of digits that are as long as each other are ordered as the numbers are. -/
theorem digitsValue_lt_of_lt (hs : ∀ b ∈ as, isDigit b = true) (ht : ∀ b ∈ bs, isDigit b = true)
    (hlen : as.length = bs.length) (h : as < bs) : digitsValue as < digitsValue bs := by
  induction as generalizing bs with
  | nil =>
    obtain rfl := List.length_eq_zero_iff.1 hlen.symm
    exact absurd h (List.not_lt_nil [])
  | cons a as ih =>
    obtain ⟨b, bs, rfl⟩ := List.exists_cons_of_length_eq_add_one hlen.symm
    rw [List.length_cons, List.length_cons, Nat.add_right_cancel_iff] at hlen
    rw [digitsValue_cons, digitsValue_cons, hlen]
    rcases List.cons_lt_cons_iff.1 h with hab | ⟨rfl, hrest⟩
    · have ha := isDigit_iff.1 (hs a (by simp))
      have hlow := hlen ▸ digitsValue_lt fun b hb => hs b (by simp [hb])
      have hstep : (a.toNat - 0x30 + 1) * 10 ^ bs.length ≤ (b.toNat - 0x30) * 10 ^ bs.length :=
        Nat.mul_le_mul_right _ (by have := UInt8.lt_iff_toNat_lt.1 hab; omega)
      rw [Nat.add_mul, one_mul] at hstep
      omega
    · exact Nat.add_lt_add_left
        (ih (fun b hb => hs b (by simp [hb])) (fun b hb => ht b (by simp [hb])) hlen hrest) _

end Digits

/-! ## Comparing is ranking -/

section Compares

variable {β : Type} [LinearOrder α] [LinearOrder β] {o o' : Ordering} {a b : α}

theorem compares_map {f : α → β} (hf : ∀ {a b}, a < b → f a < f b) (h : o.Compares a b) :
    o.Compares (f a) (f b) := by
  cases o with
  | lt => exact hf h
  | gt => exact hf h
  | eq => exact congrArg f h

theorem compares_list {as bs : List α} (h : o.Compares a b) (h' : o'.Compares as bs) :
    (o.then o').Compares (a :: as) (b :: bs) := by
  cases o with
  | lt => exact List.cons_lt_cons_iff.2 (.inl h)
  | gt => exact List.cons_lt_cons_iff.2 (.inl h)
  | eq =>
    obtain rfl : a = b := h
    exact compares_map (fun hlt => List.cons_lt_cons_iff.2 (.inr ⟨rfl, hlt⟩)) h'

theorem compares_pair {c d : β} (h : o.Compares a b) (h' : o'.Compares c d) :
    (o.then o').Compares (toLex (a, c)) (toLex (b, d)) := by
  cases o with
  | lt => exact Prod.Lex.toLex_lt_toLex.2 (.inl h)
  | gt => exact Prod.Lex.toLex_lt_toLex.2 (.inl h)
  | eq =>
    obtain rfl : a = b := h
    exact compares_map (f := fun x => toLex (a, x))
      (fun hlt => Prod.Lex.toLex_lt_toLex.2 (.inr ⟨rfl, hlt⟩)) h'

end Compares

theorem map_toNat_lt (h : s < t) : s.map UInt8.toNat < t.map UInt8.toNat := by
  induction s generalizing t with
  | nil => cases t with
    | nil => exact absurd h (List.not_lt_nil [])
    | cons b bs => exact List.nil_lt_cons _ _
  | cons a as ih => cases t with
    | nil => exact absurd h (List.not_lt_nil _)
    | cons b bs =>
      rcases List.cons_lt_cons_iff.1 h with hab | ⟨rfl, hrest⟩
      · exact List.cons_lt_cons_iff.2 (.inl (UInt8.lt_iff_toNat_lt.1 hab))
      · exact List.cons_lt_cons_iff.2 (.inr ⟨rfl, ih hrest⟩)

/-- Texts are ordered completely. -/
theorem eq_of_not_lt (h : ¬ s < t) (h' : ¬ t < s) : s = t :=
  List.le_antisymm h' h

theorem switchLess_compares [LinearOrder α] {f : List Byte → α} (hf : s < t → f s < f t)
    (hf' : t < s → f t < f s) : (switchLess s t).Compares (f s) (f t) := by
  rw [switchLess]
  split_ifs with h h'
  · exact hf h
  · exact hf' h'
  · exact congrArg f (eq_of_not_lt h h')

theorem compareNumericIdentifier_compares (hs : NumericIdentifier s) (ht : NumericIdentifier t) :
    (compareNumericIdentifier s t).Compares (digitsValue s) (digitsValue t) := by
  rw [compareNumericIdentifier, switchLess]
  split_ifs with h h'
  · exact digitsValue_lt_of_length hs ht h
  · exact digitsValue_lt_of_length ht hs h'
  · have hlen : s.length = t.length := by omega
    exact switchLess_compares (digitsValue_lt_of_lt hs.digits.2 ht.digits.2 hlen)
      (digitsValue_lt_of_lt ht.digits.2 hs.digits.2 hlen.symm)

/-- An identifier of a pre-release is a number exactly when it consists of digits. -/
theorem numericIdentifier_iff (hs : PrereleaseIdentifier s) :
    isNumericIdentifier s = true ↔ NumericIdentifier s := by
  have hdigits_iff : isNumericIdentifier s = true ↔ Digits s := by
    simp [isNumericIdentifier, Digits]
  rw [hdigits_iff]
  refine ⟨fun hdigits => hs.resolve_right ?_, NumericIdentifier.digits⟩
  rintro ⟨-, b, hb, hnot⟩
  exact Bool.false_ne_true (hnot.symm.trans (hdigits.2 b hb))

/-- One round of the loop ranks the two identifiers it looks at. -/
theorem comparePrerelease_cons (lefts rights : List (List Byte))
    (hs : PrereleaseIdentifier s) (ht : PrereleaseIdentifier t) :
    ∃ o : Ordering, o.Compares (identifierRank s) (identifierRank t) ∧
      comparePrerelease (s :: lefts) (t :: rights) = o.then (comparePrerelease lefts rights) := by
  rw [comparePrerelease, identifierRank, identifierRank]
  cases hs' : isNumericIdentifier s <;> cases ht' : isNumericIdentifier t
  · exact ⟨_, compares_map (f := fun x => toLex (Sum.inr x)) Sum.Lex.inr_lt_inr_iff.2
      (switchLess_compares map_toNat_lt map_toNat_lt), rfl⟩
  · exact ⟨.gt, Sum.Lex.inl_lt_inr _ _, rfl⟩
  · exact ⟨.lt, Sum.Lex.inl_lt_inr _ _, rfl⟩
  · exact ⟨_, compares_map Sum.Lex.inl_lt_inl_iff.2 (compareNumericIdentifier_compares
      ((numericIdentifier_iff hs).1 hs') ((numericIdentifier_iff ht).1 ht')), rfl⟩

theorem comparePrerelease_compares (hl : ∀ s ∈ lefts, PrereleaseIdentifier s)
    (hr : ∀ s ∈ rights, PrereleaseIdentifier s) :
    (comparePrerelease lefts rights).Compares (lefts.map identifierRank)
      (rights.map identifierRank) := by
  induction lefts generalizing rights with
  | nil => cases rights with
    | nil => rfl
    | cons t rights => exact List.nil_lt_cons _ _
  | cons s lefts ih => cases rights with
    | nil => exact List.nil_lt_cons _ _
    | cons t rights =>
      obtain ⟨o, hfirst, heq⟩ := comparePrerelease_cons lefts rights (hl s (by simp))
        (hr t (by simp))
      rw [heq]
      exact compares_list hfirst (ih (fun x hx => hl x (by simp [hx])) fun x hx => hr x (by simp [hx]))

/-- **Comparing two versions is ranking them.** -/
theorem compare_compares (hv : SemVer v) (hw : SemVer w) :
    (v.compare w).Compares v.precedence w.precedence := by
  refine compares_pair (compareNumericIdentifier_compares hv.major hw.major) <|
    compares_pair (compareNumericIdentifier_compares hv.minor hw.minor) <|
    compares_pair (compareNumericIdentifier_compares hv.patch hw.patch) ?_
  have hpre := comparePrerelease_compares hv.identifiers hw.identifiers
  rcases hl : v.prerelease with _ | ⟨s, lefts⟩ <;> rcases hr : w.prerelease with _ | ⟨t, rights⟩
  · rfl
  · exact WithTop.coe_lt_top _
  · exact WithTop.coe_lt_top _
  · rw [hl, hr] at hpre
    exact compares_map (f := WithTop.some) WithTop.coe_lt_coe.2 hpre

/-! ## No ties -/

theorem eq_of_compareNumericIdentifier (h : compareNumericIdentifier s t = .eq) :
    s = t := by
  have htext := (Ordering.then_eq_eq.1 h).2
  rw [switchLess] at htext
  split_ifs at htext with h h'
  exact eq_of_not_lt h h'

theorem eq_of_comparePrerelease (h : comparePrerelease lefts rights = .eq) : lefts = rights := by
  fun_induction comparePrerelease lefts rights with
  | case1 s lefts t rights _ _ ih =>
    obtain ⟨hfirst, hrest⟩ := Ordering.then_eq_eq.1 h
    rw [eq_of_compareNumericIdentifier hfirst, ih hrest]
  | case2 => cases h
  | case3 => cases h
  | case4 s lefts t rights _ _ ih =>
    obtain ⟨hfirst, hrest⟩ := Ordering.then_eq_eq.1 h
    rw [switchLess] at hfirst
    split_ifs at hfirst with hlt hgt
    rw [eq_of_not_lt hlt hgt, ih hrest]
  | case5 lefts rights hnot =>
    rcases lefts with _ | ⟨s, lefts⟩ <;> rcases rights with _ | ⟨t, rights⟩
    · rfl
    · simp [switchLess] at h
    · simp [switchLess] at h
    · exact absurd rfl (hnot s lefts t rights rfl)

/-- **Versions that compare equal are the same text.** -/
theorem raw_eq_of_compare (hv : SemVer v) (hw : SemVer w) (h : v.compare w = .eq) : v.raw = w.raw := by
  simp only [SemanticVersion.compare, Ordering.then_eq_eq] at h
  obtain ⟨hmajor, hminor, hpatch, hpre⟩ := h
  have hprerelease : v.prerelease = w.prerelease := by
    split at hpre
    · simp_all
    · cases hpre
    · cases hpre
    · exact eq_of_comparePrerelease hpre
  rw [hv.text, hw.text, eq_of_compareNumericIdentifier hmajor, eq_of_compareNumericIdentifier hminor,
    eq_of_compareNumericIdentifier hpatch, hprerelease]

/-! ## Accepting -/

section Accepting

variable {value : List Byte}

theorem validNumericIdentifier_iff : validNumericIdentifier s = true ↔ NumericIdentifier s := by
  rcases s with _ | ⟨a, _ | ⟨b, s⟩⟩
  · simp [validNumericIdentifier, NumericIdentifier, Digits]
  · by_cases ha : a = zeroDigit
    · subst ha
      simp [validNumericIdentifier, NumericIdentifier, zeroDigit, isDigit]
    · simp [validNumericIdentifier, NumericIdentifier, Digits, ha]
  · simp [validNumericIdentifier, NumericIdentifier, Digits, and_comm]

theorem identifierCharacters (hs : PrereleaseIdentifier s) :
    ∀ b ∈ s, isIdentifierCharacter b = true := by
  rcases hs with hs | hs
  · intro b hb
    simp [isIdentifierCharacter, hs.digits.2 b hb]
  · exact hs.1

theorem validPrereleaseIdentifier_iff :
    validPrereleaseIdentifier s = true ↔ PrereleaseIdentifier s := by
  constructor
  · intro h
    simp only [validPrereleaseIdentifier, Bool.and_eq_true, bne_iff_ne, List.all_eq_true] at h
    obtain ⟨⟨hne, hchars⟩, hnumber⟩ := h
    by_cases hdigits : ∀ b ∈ s, isDigit b = true
    · refine .inl (validNumericIdentifier_iff.1 ?_)
      have hall : s.all isDigit = true := List.all_eq_true.2 hdigits
      rcases s with _ | ⟨a, _ | ⟨b, s⟩⟩ <;> simp_all [validNumericIdentifier]
    · push Not at hdigits
      exact .inr ⟨hchars, by simpa using hdigits⟩
  · intro h
    have hchars := List.all_eq_true.2 (identifierCharacters h)
    rcases h with h | ⟨-, b, hb, hnot⟩
    · have hvalid := validNumericIdentifier_iff.2 h
      rcases s with _ | ⟨a, _ | ⟨b, s⟩⟩ <;>
        simp_all [validNumericIdentifier, validPrereleaseIdentifier]
    · have hall : s.all isDigit = false := List.all_eq_false.2 ⟨b, hb, by simp [hnot]⟩
      rw [validPrereleaseIdentifier, hchars, hall, Bool.and_true]
      simp [List.ne_nil_of_mem hb]

theorem mem_intercalate {x : Byte} {names : List (List Byte)} (h : b ∈ [x].intercalate names) :
    b = x ∨ ∃ s ∈ names, b ∈ s := by
  induction names with
  | nil => simp [List.intercalate] at h
  | cons s names ih => cases names with
    | nil => exact .inr ⟨s, by simp, by simpa [List.intercalate] using h⟩
    | cons t names =>
      rw [List.intercalate_cons_cons, List.append_assoc, List.mem_append, List.mem_append] at h
      rcases h with h | h | h
      · exact .inr ⟨s, by simp, h⟩
      · exact .inl (List.mem_singleton.1 h)
      · exact (ih h).imp_right fun ⟨u, hu, hb⟩ => ⟨u, List.mem_cons_of_mem _ hu, hb⟩

theorem SemVer.numbers (h : SemVer v) :
    ∀ s ∈ [v.core.1, v.core.2.1, v.core.2.2], NumericIdentifier s := by
  simp [h.major, h.minor, h.patch]

/-- What stands before the first hyphen of a version, and what stands after it. -/
theorem SemVer.cut (h : SemVer v) :
    v.raw.takeWhile (· != hyphen) = [period].intercalate [v.core.1, v.core.2.1, v.core.2.2] ∧
    v.raw.dropWhile (· != hyphen) =
      if v.prerelease = [] then [] else hyphen :: [period].intercalate v.prerelease := by
  rw [h.text]
  refine takeWhile_append (fun b hb => ?_) (by split <;> simp)
  rcases mem_intercalate hb with rfl | ⟨s, hs, hb⟩
  · decide
  · have hdigit := (h.numbers s hs).digits.2 b hb
    refine bne_iff_ne.2 ?_
    rintro rfl
    exact absurd hdigit (by decide)

theorem SemVer.no_plusSign (h : SemVer v) : plusSign ∉ v.raw := by
  have hidentifiers : ∀ names : List (List Byte), (∀ s ∈ names, PrereleaseIdentifier s) →
      plusSign ∉ [period].intercalate names := by
    intro names hnames hmem
    rcases mem_intercalate hmem with h | ⟨s, hs, hb⟩
    · exact absurd h (by decide)
    · exact absurd (identifierCharacters (hnames s hs) _ hb) (by decide)
  rw [h.text, List.mem_append, not_or]
  refine ⟨hidentifiers _ fun s hs => .inl (h.numbers s hs), ?_⟩
  split
  · simp
  · rw [List.mem_cons, not_or]
    exact ⟨by decide, hidentifiers _ h.identifiers⟩

theorem splitOn_identifiers {names : List (List Byte)} (hne : names ≠ [])
    (hnames : ∀ s ∈ names, PrereleaseIdentifier s) :
    ([period].intercalate names).splitOn period = names :=
  List.splitOn_intercalate period
    (fun s hs hb => absurd (identifierCharacters (hnames s hs) _ hb) (by decide)) hne

/-- **Exactly the versions of the grammar are accepted**, with the parts the grammar gives them. -/
theorem parseSemanticVersion_eq_some :
    parseSemanticVersion value = some v ↔ SemVer v ∧ v.raw = value := by
  constructor
  · intro h
    rw [parseSemanticVersion] at h
    split_ifs at h with hplus
    split at h
    · rename_i major minor patch hcore
      have hjoin : [period].intercalate [major, minor, patch] = value.takeWhile (· != hyphen) :=
        hcore ▸ List.intercalate_splitOn period
      have hraw : value.takeWhile (· != hyphen) ++ value.dropWhile (· != hyphen) = value :=
        List.takeWhile_append_dropWhile
      split_ifs at h with hnumbers
      simp only [List.all_cons, List.all_nil, Bool.and_true, Bool.and_eq_true,
        validNumericIdentifier_iff] at hnumbers
      obtain ⟨hmajor, hminor, hpatch⟩ := hnumbers
      have hstops := stops_dropWhile (· != hyphen) value
      split at h
      · rename_i hdrop
        cases h
        refine ⟨⟨hmajor, hminor, hpatch, by simp, ?_⟩, rfl⟩
        rw [if_pos rfl, hjoin, ← hdrop, hraw]
      · rename_i first prerelease hdrop
        split_ifs at h with hprerelease
        cases h
        rw [hdrop, stops_cons] at hstops
        refine ⟨⟨hmajor, hminor, hpatch, fun s hs => ?_, ?_⟩, rfl⟩
        · exact validPrereleaseIdentifier_iff.1 (List.all_eq_true.1 hprerelease.2 s hs)
        · have hsplit : prerelease.splitOn period ≠ [] := List.splitOn_ne_nil _ _
          obtain rfl : first = hyphen := by simpa using hstops
          rw [if_neg hsplit, List.intercalate_splitOn, hjoin, ← hdrop, hraw]
    · cases h
  · rintro ⟨h, rfl⟩
    obtain ⟨htake, hdrop⟩ := h.cut
    have hne : v.raw ≠ [] := by
      intro hnil
      have := h.major.digits.1
      simp_all [List.intercalate]
    have hvalid : [v.core.1, v.core.2.1, v.core.2.2].all validNumericIdentifier = true :=
      List.all_eq_true.2 fun s hs => validNumericIdentifier_iff.2 (h.numbers s hs)
    rw [parseSemanticVersion, if_neg (not_or.2 ⟨hne, h.no_plusSign⟩), htake,
      splitOn_identifiers (by simp) fun s hs => .inl (h.numbers s hs), hdrop]
    dsimp only
    rw [if_pos hvalid]
    by_cases hpre : v.prerelease = []
    · rw [if_pos hpre, ← hpre]
    · rw [if_neg hpre]
      dsimp only
      have hsplit := splitOn_identifiers hpre h.identifiers
      have hvalid := fun s hs => validPrereleaseIdentifier_iff.2 (h.identifiers s hs)
      have hne : [period].intercalate v.prerelease ≠ [] := by
        intro hnil
        rw [hnil] at hsplit
        exact absurd (hvalid [] (hsplit ▸ List.mem_singleton.2 rfl)) (by decide)
      rw [hsplit, if_pos ⟨hne, List.all_eq_true.2 hvalid⟩]

end Accepting

/-- **Release versions are ordered by SemVer precedence**: exactly the versions of the grammar are
    accepted, two of them compare as their precedence says, which makes the comparison a total order,
    and no two different texts are the same version. -/
theorem semanticVersions_ordered :
    (∀ s, (parseSemanticVersion s).isSome = true ↔ ∃ v, SemVer v ∧ v.raw = s) ∧
    ∀ s t v w, parseSemanticVersion s = some v → parseSemanticVersion t = some w →
      v.compare w = cmp v.precedence w.precedence ∧ w.compare v = (v.compare w).swap ∧
      (v.compare w = .eq ↔ s = t) ∧
      ∀ u x, parseSemanticVersion u = some x → v.compare w ≠ .gt → w.compare x ≠ .gt →
        v.compare x ≠ .gt := by
  refine ⟨fun s => ?_, fun s t v w hv hw => ?_⟩
  · simp only [Option.isSome_iff_exists, parseSemanticVersion_eq_some]
  obtain ⟨hsv, hs⟩ := parseSemanticVersion_eq_some.1 hv
  obtain ⟨hsw, ht⟩ := parseSemanticVersion_eq_some.1 hw
  have hvw := compare_compares hsv hsw
  refine ⟨hvw.cmp_eq.symm, ?_, ⟨fun heq => ?_, ?_⟩, fun u x hx hle hle' => ?_⟩
  · exact (compare_compares hsw hsv).inj (Ordering.compares_swap.2 hvw)
  · rw [← hs, ← ht, raw_eq_of_compare hsv hsw heq]
  · rintro rfl
    obtain rfl := Option.some_inj.1 (hv.symm.trans hw)
    exact hvw.eq_eq.2 rfl
  · have hsx := (parseSemanticVersion_eq_some.1 hx).1
    exact (compare_compares hsv hsx).ne_gt.2
      ((hvw.ne_gt.1 hle).trans ((compare_compares hsw hsx).ne_gt.1 hle'))

/-- `1.0.0-a` -/
def candidate : SemanticVersion :=
  ⟨[0x31, 0x2e, 0x30, 0x2e, 0x30, 0x2d, 0x61], ([0x31], [0x30], [0x30]), [[0x61]]⟩

/-- `1.0.0` -/
def released : SemanticVersion := ⟨candidate.raw.take 5, candidate.core, []⟩

/-- A release is newer than what was a candidate for it. -/
theorem semanticVersions_ordered_candidate :
    parseSemanticVersion released.raw = some released ∧
    parseSemanticVersion candidate.raw = some candidate ∧
    cmp released.precedence candidate.precedence = .gt := by
  have hreleased : parseSemanticVersion released.raw = some released := by decide +kernel
  have hcandidate : parseSemanticVersion candidate.raw = some candidate := by decide +kernel
  exact ⟨hreleased, hcandidate, (semanticVersions_ordered.2 _ _ _ _ hreleased hcandidate).1.symm⟩

end Release
