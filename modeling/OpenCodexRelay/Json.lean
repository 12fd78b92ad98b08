/-
  JSON texts, byte by byte — the grammar of RFC 8259 and what its texts mean.

  The grammar is a RELATION between a byte string and the value it denotes.  Whitespace stands where
  the standard's structural characters allow it; member names and strings are related to their
  UNESCAPED bytes, numbers to the rational they denote, so that two spellings of one document have
  one `Tree`.  String bytes need not be UTF-8; what decoders put in place of bytes and escapes that
  are not text is part of `unquote`.

  1. Bytes: whitespace, digits, hexadecimal digits.
  2. `NumberLiteral`: `[ minus ] int [ frac ] [ exp ]`.
  3. `StringBody`, `unquote`.  A byte of unescaped text takes at most six bytes to spell
     (`length_le_unquote`).
  4. `Tree`, `Value`: texts of values with a bounded number of nested containers.  The bound is the
     parameter on which everything about the grammar recurses: `Value (d + 1)` is `Value d` inside
     brackets and braces.
-/
import Mathlib.Algebra.Field.Rat
import Mathlib.Tactic.Common

namespace Json

abbrev Byte := UInt8

/-- The bytes of an ASCII text. -/
def ascii (s : String) : List Byte := s.toList.map fun c => UInt8.ofNat c.toNat

theorem ascii_ofList (cs : List Char) :
    ascii (String.ofList cs) = cs.map fun c => UInt8.ofNat c.toNat :=
  congrArg (List.map _) String.toList_ofList

/-! ## Bytes -/

/-- `ws`. -/
def isSpace (b : Byte) : Bool := b == 0x20 || b == 0x09 || b == 0x0d || b == 0x0a

def isDigit (b : Byte) : Bool := 0x30 ≤ b && b ≤ 0x39

def isHex (b : Byte) : Bool :=
  (0x30 ≤ b && b ≤ 0x39) || (0x61 ≤ b && b ≤ 0x66) || (0x41 ≤ b && b ≤ 0x46)

def Spaces (w : List Byte) : Prop := ∀ b ∈ w, isSpace b = true

def Digits (ds : List Byte) : Prop := ds ≠ [] ∧ ∀ b ∈ ds, isDigit b = true

/-- The first byte of a text, if it has one, does not satisfy a test. -/
def Stops (p : Byte → Bool) (bs : List Byte) : Prop := ∀ b ∈ bs.head?, p b = false

@[simp] theorem stops_nil (p : Byte → Bool) : Stops p [] := by
  rintro b ⟨⟩

@[simp] theorem stops_cons {p : Byte → Bool} {b : Byte} {bs : List Byte} :
    Stops p (b :: bs) ↔ p b = false := by
  simp [Stops]

/-- The longest run of bytes that satisfy a test is the one after which the text stops. -/
theorem takeWhile_append {p : Byte → Bool} {w bs : List Byte} (hw : ∀ b ∈ w, p b = true)
    (hbs : Stops p bs) : (w ++ bs).takeWhile p = w ∧ (w ++ bs).dropWhile p = bs := by
  induction w with
  | nil =>
    cases bs with
    | nil => exact ⟨rfl, rfl⟩
    | cons b bs =>
      have hb : p b = false := stops_cons.mp hbs
      simp [hb]
  | cons b w ih =>
    obtain ⟨htake, hdrop⟩ := ih fun c hc => hw c (List.mem_cons_of_mem _ hc)
    have hb : p b = true := hw b List.mem_cons_self
    simp [hb, htake, hdrop]

theorem stops_dropWhile (p : Byte → Bool) (bs : List Byte) : Stops p (bs.dropWhile p) := by
  induction bs with
  | nil => exact stops_nil p
  | cons b bs ih =>
    rw [List.dropWhile_cons]
    split
    · exact ih
    · rename_i hb
      exact stops_cons.mpr (by simpa using hb)

/-! ## Numbers -/

/-- The parts of a number: the sign, the digits before and after the point, and the exponent with
    its letter and sign. -/
structure NumberLiteral where
  minus : Bool
  int : List Byte
  frac : Option (List Byte)
  exp : Option (Byte × Option Byte × List Byte)
  deriving DecidableEq, Repr

namespace NumberLiteral

structure WellFormed (n : NumberLiteral) : Prop where
  int : Digits n.int
  /-- No leading zero. -/
  zero : n.int.head? = some 0x30 → n.int = [0x30]
  frac : ∀ ds ∈ n.frac, Digits ds
  exp : ∀ e ∈ n.exp, (e.1 = 0x65 ∨ e.1 = 0x45) ∧ (∀ sign ∈ e.2.1, sign = 0x2b ∨ sign = 0x2d) ∧
    Digits e.2.2

def signBytes (minus : Bool) : List Byte := if minus then [0x2d] else []

def fracBytes : Option (List Byte) → List Byte
  | some ds => 0x2e :: ds
  | none => []

def expBytes : Option (Byte × Option Byte × List Byte) → List Byte
  | some (letter, sign, ds) => letter :: (sign.toList ++ ds)
  | none => []

def bytes (n : NumberLiteral) : List Byte :=
  signBytes n.minus ++ (n.int ++ (fracBytes n.frac ++ expBytes n.exp))

/-- A byte that could go on with a number. -/
def continues (b : Byte) : Bool := isDigit b || b == 0x2e || b == 0x65 || b == 0x45

/-- The number that digits spell. -/
def digitsValue (ds : List Byte) : ℕ := ds.foldl (fun n d => 10 * n + (d.toNat - 0x30)) 0

def value (n : NumberLiteral) : ℚ :=
  let frac := n.frac.getD []
  let exp : ℤ := match n.exp with
    | some (_, sign, ds) => if sign = some 0x2d then -digitsValue ds else digitsValue ds
    | none => 0
  (if n.minus then -1 else 1) * digitsValue (n.int ++ frac) * (10 : ℚ) ^ (exp - frac.length)

end NumberLiteral

/-! ## Strings -/

/-- The escapes that consist of one byte after the backslash. -/
def isSimpleEscape (b : Byte) : Bool :=
  b == 0x22 || b == 0x5c || b == 0x2f || b == 0x62 || b == 0x66 || b == 0x6e || b == 0x72 ||
    b == 0x74

/-- What may stand between the quotation marks of a string. -/
inductive StringBody : List Byte → Prop where
  | nil : StringBody []
  | plain {b : Byte} {bs : List Byte} : 0x20 ≤ b → b ≠ 0x22 → b ≠ 0x5c → StringBody bs →
    StringBody (b :: bs)
  | escape {e : Byte} {bs : List Byte} : isSimpleEscape e = true → StringBody bs →
    StringBody (0x5c :: e :: bs)
  | unicode {h₁ h₂ h₃ h₄ : Byte} {bs : List Byte} : isHex h₁ = true → isHex h₂ = true →
    isHex h₃ = true → isHex h₄ = true → StringBody bs →
    StringBody (0x5c :: 0x75 :: h₁ :: h₂ :: h₃ :: h₄ :: bs)

/-- The byte that a simple escape stands for. -/
def simpleEscape (e : Byte) : Byte :=
  if e = 0x62 then 0x08 else if e = 0x66 then 0x0c else if e = 0x6e then 0x0a
  else if e = 0x72 then 0x0d else if e = 0x74 then 0x09 else e

def hexValue (b : Byte) : ℕ :=
  if b ≤ 0x39 then b.toNat - 0x30 else if b ≤ 0x46 then b.toNat - 0x41 + 10
  else b.toNat - 0x61 + 10

def hex4 (h₁ h₂ h₃ h₄ : Byte) : ℕ :=
  ((hexValue h₁ * 16 + hexValue h₂) * 16 + hexValue h₃) * 16 + hexValue h₄

/-- U+FFFD in UTF-8. -/
def replacement : List Byte := [0xef, 0xbf, 0xbd]

/-- A code point in UTF-8. -/
def encodeRune (r : ℕ) : List Byte :=
  if r < 0x80 then [UInt8.ofNat r]
  else if r < 0x800 then [UInt8.ofNat (0xc0 + r / 0x40), UInt8.ofNat (0x80 + r % 0x40)]
  else if r < 0x10000 then
    [UInt8.ofNat (0xe0 + r / 0x1000), UInt8.ofNat (0x80 + r / 0x40 % 0x40),
      UInt8.ofNat (0x80 + r % 0x40)]
  else
    [UInt8.ofNat (0xf0 + r / 0x40000), UInt8.ofNat (0x80 + r / 0x1000 % 0x40),
      UInt8.ofNat (0x80 + r / 0x40 % 0x40), UInt8.ofNat (0x80 + r % 0x40)]

def isSurrogate (r : ℕ) : Bool := 0xd800 ≤ r && r < 0xe000

/-- The code point of a pair of surrogates, if the first is high and the second low. -/
def surrogatePair (r₁ r₂ : ℕ) : Option ℕ :=
  if r₁ < 0xdc00 ∧ 0xdc00 ≤ r₂ ∧ r₂ < 0xe000 then
    some ((r₁ - 0xd800) * 0x400 + (r₂ - 0xdc00) + 0x10000)
  else none

def isTail (b : Byte) : Bool := 0x80 ≤ b && b ≤ 0xbf

/-- The first two bytes of a well-formed UTF-8 sequence of two, three and four bytes. -/
def isLead2 (b₁ b₂ : Byte) : Bool := 0xc2 ≤ b₁ && b₁ ≤ 0xdf && isTail b₂

def isLead3 (b₁ b₂ : Byte) : Bool :=
  (b₁ == 0xe0 && 0xa0 ≤ b₂ && b₂ ≤ 0xbf) || (b₁ == 0xed && 0x80 ≤ b₂ && b₂ ≤ 0x9f) ||
    (0xe1 ≤ b₁ && b₁ ≤ 0xef && b₁ != 0xed && isTail b₂)

def isLead4 (b₁ b₂ : Byte) : Bool :=
  (b₁ == 0xf0 && 0x90 ≤ b₂ && b₂ ≤ 0xbf) || (b₁ == 0xf4 && 0x80 ≤ b₂ && b₂ ≤ 0x8f) ||
    (0xf1 ≤ b₁ && b₁ ≤ 0xf3 && isTail b₂)

/-- The first character of a text in UTF-8 and the number of its bytes; a byte that begins none
    becomes U+FFFD. -/
def nextCharacter (b₁ : Byte) (rest : List Byte) : List Byte × ℕ :=
  if b₁ < 0x80 then ([b₁], 1)
  else
    match rest with
    | b₂ :: b₃ :: b₄ :: _ =>
      if isLead2 b₁ b₂ then ([b₁, b₂], 2)
      else if isLead3 b₁ b₂ && isTail b₃ then ([b₁, b₂, b₃], 3)
      else if isLead4 b₁ b₂ && isTail b₃ && isTail b₄ then ([b₁, b₂, b₃, b₄], 4)
      else (replacement, 1)
    | [b₂, b₃] =>
      if isLead2 b₁ b₂ then ([b₁, b₂], 2)
      else if isLead3 b₁ b₂ && isTail b₃ then ([b₁, b₂, b₃], 3)
      else (replacement, 1)
    | [b₂] => if isLead2 b₁ b₂ then ([b₁, b₂], 2) else (replacement, 1)
    | [] => (replacement, 1)

/-- What an escape stands for, and the number of its bytes; surrogates without a partner become
    U+FFFD. -/
def nextEscape : List Byte → List Byte × ℕ
  | 0x75 :: h₁ :: h₂ :: h₃ :: h₄ :: more =>
    if isSurrogate (hex4 h₁ h₂ h₃ h₄) then
      match more with
      | 0x5c :: 0x75 :: l₁ :: l₂ :: l₃ :: l₄ :: _ =>
        match surrogatePair (hex4 h₁ h₂ h₃ h₄) (hex4 l₁ l₂ l₃ l₄) with
        | some pair => (encodeRune pair, 12)
        | none => (replacement, 6)
      | _ => (replacement, 6)
    else (encodeRune (hex4 h₁ h₂ h₃ h₄), 6)
  | e :: _ => ([simpleEscape e], 2)
  | [] => ([0x5c], 1)

/-- The first character of a string body, unescaped, and the number of its bytes. -/
def nextUnquoted (b : Byte) (rest : List Byte) : List Byte × ℕ :=
  if b = 0x5c then nextEscape rest else nextCharacter b rest

/-- Unescapes at most so many characters. -/
def unquoteSome : ℕ → List Byte → List Byte
  | n + 1, b :: rest =>
    let next := nextUnquoted b rest
    next.1 ++ unquoteSome n ((b :: rest).drop next.2)
  | _, _ => []

/-- **Unescapes the body of a string.** -/
def unquote (body : List Byte) : List Byte := unquoteSome body.length body

theorem encodeRune_ne_nil (r : ℕ) : encodeRune r ≠ [] := by
  unfold encodeRune
  split_ifs <;> simp

/-- A character of at most twelve bytes is not nothing, and takes at most six bytes to spell for each
    byte it stands for. -/
theorem nextUnquoted_spells (b : Byte) (rest : List Byte) :
    (nextUnquoted b rest).1 ≠ [] ∧ 1 ≤ (nextUnquoted b rest).2 ∧
      (nextUnquoted b rest).2 ≤ 6 * (nextUnquoted b rest).1.length := by
  have hrune : ∀ r, 1 ≤ (encodeRune r).length := fun r =>
    List.length_pos_iff.mpr (encodeRune_ne_nil r)
  unfold nextUnquoted
  split
  · unfold nextEscape
    split
    · split
      · split
        · split
          · rename_i pair hpair
            -- A pair of surrogates is a code point beyond the basic plane: four bytes.
            have hfour : (encodeRune pair).length = 4 := by
              unfold surrogatePair at hpair
              split at hpair
              · obtain rfl := Option.some.inj hpair
                unfold encodeRune
                rw [if_neg (by omega), if_neg (by omega), if_neg (by omega)]
                rfl
              · cases hpair
            refine ⟨encodeRune_ne_nil pair, by simp, ?_⟩
            simp only [hfour]
            omega
          · decide
        · decide
      · exact ⟨encodeRune_ne_nil _, by simp, Nat.le_mul_of_pos_right 6 (hrune _)⟩
    · simp
    · decide
  · unfold nextCharacter
    split
    · simp
    · split
      · split_ifs <;> simp [replacement]
      · split_ifs <;> simp [replacement]
      · split_ifs <;> simp [replacement]
      · simp [replacement]

variable {body : List Byte}

theorem unquoteSome_spells {n : ℕ} (h : body.length ≤ n) :
    body.length ≤ 6 * (unquoteSome n body).length := by
  induction n generalizing body with
  | zero => simp [List.length_eq_zero_iff.mp (Nat.le_zero.mp h)]
  | succ n ih =>
    cases body with
    | nil => simp
    | cons b rest =>
      obtain ⟨-, hone, hsix⟩ := nextUnquoted_spells b rest
      have hdrop := List.length_drop (i := (nextUnquoted b rest).2) (l := b :: rest)
      have hrest := @ih ((b :: rest).drop (nextUnquoted b rest).2) (by
        simp only [List.length_cons] at h hdrop ⊢
        omega)
      simp only [unquoteSome, List.length_append]
      omega

/-- **A byte of text takes at most six bytes to spell.** -/
theorem length_le_unquote (body : List Byte) : body.length ≤ 6 * (unquote body).length :=
  unquoteSome_spells le_rfl

/-! ## Values -/

/-- **What a JSON text denotes.**  Members keep their order and their duplicates. -/
inductive Tree where
  | null
  | bool (b : Bool)
  | number (v : ℚ)
  | string (text : List Byte)
  | array (items : List Tree)
  | object (members : List (List Byte × Tree))

/-- The object has a member of this name and value; a name may occur more than once. -/
def Tree.Has (t : Tree) (key : List Byte) (v : Tree) : Prop :=
  ∃ members, t = .object members ∧ (key, v) ∈ members

/-- **A value inside another one**, or that value itself. -/
inductive Tree.Inside : Tree → Tree → Prop where
  | here (t : Tree) : Inside t t
  | item {items : List Tree} {t u : Tree} : t ∈ items → Inside t u → Inside (.array items) u
  | member {members : List (List Byte × Tree)} {key : List Byte} {t u : Tree} :
    (key, t) ∈ members → Inside t u → Inside (.object members) u

/-- The texts of values that are not containers. -/
inductive Scalar : List Byte → Tree → Prop where
  | null : Scalar (ascii "null") .null
  | true : Scalar (ascii "true") (.bool Bool.true)
  | false : Scalar (ascii "false") (.bool Bool.false)
  | number {n : NumberLiteral} : n.WellFormed → Scalar n.bytes (.number n.value)
  | string {body : List Byte} : StringBody body →
    Scalar (0x22 :: (body ++ [0x22])) (.string (unquote body))

/-- A member of an object: its name, the text of its value, and the value. -/
structure Entry where
  key : List Byte
  literal : List Byte
  value : Tree

def Entry.member (e : Entry) : List Byte × Tree := (e.key, e.value)

section Containers

variable (V : List Byte → Tree → Prop)

/-- `value *( value-separator value ) end-array`, where the texts of the values are those of `V`. -/
inductive Elements : List Byte → List Tree → Prop where
  | last {lit w : List Byte} {t : Tree} : V lit t → Spaces w →
    Elements (lit ++ (w ++ [0x5d])) [t]
  | more {lit w w' body : List Byte} {t : Tree} {ts : List Tree} : V lit t → Spaces w → Spaces w' →
    Elements body ts → Elements (lit ++ (w ++ 0x2c :: (w' ++ body))) (t :: ts)

/-- `string name-separator value`, followed by a text. -/
def memberText (name w w' lit tail : List Byte) : List Byte :=
  0x22 :: (name ++ 0x22 :: (w ++ 0x3a :: (w' ++ (lit ++ tail))))

/-- `member *( value-separator member ) end-object`. -/
inductive Members : List Byte → List Entry → Prop where
  | last {name w₁ w₂ lit w : List Byte} {t : Tree} : StringBody name → Spaces w₁ → Spaces w₂ →
    V lit t → Spaces w → Members (memberText name w₁ w₂ lit (w ++ [0x7d])) [⟨unquote name, lit, t⟩]
  | more {name w₁ w₂ lit w w' body : List Byte} {t : Tree} {es : List Entry} : StringBody name →
    Spaces w₁ → Spaces w₂ → V lit t → Spaces w → Spaces w' → Members body es →
    Members (memberText name w₁ w₂ lit (w ++ 0x2c :: (w' ++ body))) (⟨unquote name, lit, t⟩ :: es)

inductive ArrayText : List Byte → List Tree → Prop where
  | empty {w : List Byte} : Spaces w → ArrayText (0x5b :: (w ++ [0x5d])) []
  | items {w body : List Byte} {ts : List Tree} : Spaces w → Elements V body ts →
    ArrayText (0x5b :: (w ++ body)) ts

inductive ObjectText : List Byte → List Entry → Prop where
  | empty {w : List Byte} : Spaces w → ObjectText (0x7b :: (w ++ [0x7d])) []
  | members {w body : List Byte} {es : List Entry} : Spaces w → Members V body es →
    ObjectText (0x7b :: (w ++ body)) es

/-- Arrays and objects of values of `V`. -/
inductive Container : List Byte → Tree → Prop where
  | array {lit : List Byte} {ts : List Tree} : ArrayText V lit ts → Container lit (.array ts)
  | object {lit : List Byte} {es : List Entry} : ObjectText V lit es →
    Container lit (.object (es.map Entry.member))

end Containers

/-- **The texts of values with at most so many nested containers.** -/
def Value : ℕ → List Byte → Tree → Prop
  | 0 => Scalar
  | d + 1 => fun lit t => Scalar lit t ∨ Container (Value d) lit t

/-- **A JSON text that is an object**, surrounded by whitespace; its members have at most `d` nested
    containers. -/
def Document (d : ℕ) (bytes : List Byte) (es : List Entry) : Prop :=
  ∃ w lit w', Spaces w ∧ ObjectText (Value d) lit es ∧ Spaces w' ∧ bytes = w ++ (lit ++ w')

/-- What a document with these members denotes. -/
def rootTree (es : List Entry) : Tree := .object (es.map Entry.member)

/-! ## How texts begin -/

theorem NumberLiteral.bytes_head {n : NumberLiteral} (h : n.WellFormed) :
    ∃ b rest, n.bytes = b :: rest ∧ (b = 0x2d ∨ isDigit b = true) := by
  obtain ⟨minus, int, frac, exp⟩ := n
  obtain ⟨hne, hdigits⟩ := h.int
  cases minus with
  | true => exact ⟨0x2d, _, rfl, .inl rfl⟩
  | false =>
    cases int with
    | nil => exact absurd rfl hne
    | cons d ds => exact ⟨d, _, rfl, .inr (hdigits d List.mem_cons_self)⟩

variable {lit : List Byte}

/-- The text of a value begins with a byte that is neither whitespace nor the end of an array. -/
theorem Value.head {d : ℕ} {t : Tree} (h : Value d lit t) :
    ∃ b rest, lit = b :: rest ∧ isSpace b = false ∧ b ≠ 0x5d := by
  have hscalar : ∀ {lit t}, Scalar lit t →
      ∃ b rest, lit = b :: rest ∧ isSpace b = false ∧ b ≠ 0x5d := by
    intro lit t h
    cases h with
    | null | true | false => exact ⟨_, _, rfl, by decide, by decide⟩
    | number hn =>
      obtain ⟨b, rest, hbytes, hb⟩ := NumberLiteral.bytes_head hn
      refine ⟨b, rest, hbytes, ?_⟩
      rcases hb with rfl | hb
      · decide
      · simp only [isDigit, isSpace, Bool.and_eq_true, decide_eq_true_eq] at hb ⊢
        grind
    | string _ => exact ⟨_, _, rfl, by decide, by decide⟩
  cases d with
  | zero => exact hscalar h
  | succ d =>
    rcases h with h | h
    · exact hscalar h
    · cases h with
      | array h | object h => cases h <;> exact ⟨_, _, rfl, by decide, by decide⟩

variable {tail : List Byte}

theorem Value.stops {d : ℕ} {t : Tree} (h : Value d lit t) : Stops isSpace (lit ++ tail) := by
  obtain ⟨b, rest, rfl, hb, -⟩ := h.head
  exact stops_cons.mpr hb

theorem Elements.stops {d : ℕ} {ts : List Tree} (h : Elements (Value d) body ts) :
    Stops isSpace (body ++ tail) := by
  cases h with
  | last hv _ | more hv _ _ _ => rw [List.append_assoc]; exact hv.stops

theorem Members.stops {V : List Byte → Tree → Prop} {es : List Entry} (h : Members V body es) :
    Stops isSpace (body ++ tail) := by
  cases h <;> exact stops_cons.mpr (by decide)

/-- A value that is a string is written as one. -/
theorem Value.string_inv {d : ℕ} {text : List Byte} (h : Value d lit (.string text)) :
    ∃ body, StringBody body ∧ lit = 0x22 :: (body ++ [0x22]) ∧ text = unquote body := by
  have hscalar : ∀ {t}, Scalar lit t → t = .string text →
      ∃ body, StringBody body ∧ lit = 0x22 :: (body ++ [0x22]) ∧ text = unquote body := by
    intro t h ht
    cases h with
    | string hbody =>
      obtain rfl := Tree.string.inj ht
      exact ⟨_, hbody, rfl, rfl⟩
    | _ => cases ht
  cases d with
  | zero => exact hscalar h rfl
  | succ d =>
    rcases h with h | h
    · exact hscalar h rfl
    · cases h

end Json
