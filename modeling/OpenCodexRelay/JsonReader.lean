/-
  Reading JSON texts.

  `Json` relates texts to what they denote; this is a program that reads them, in the manner of a decoder
  that keeps the spelling of numbers and accepts a bounded number of nested containers.

  1. `Doc`: what is read.  Members keep their order and their duplicates, names are unquoted.
  2. `readNumber`, `readString`, `readScalar`, `readValue`, `parse`.
  3. `Doc.tokens`: the same value, token by token, and `Doc.Inside`: the values in it.
-/
import OpenCodexRelay.Json

namespace Json

/-! ## Documents -/

inductive Doc where
  | null
  | bool (b : Bool)
  | number (literal : NumberLiteral)
  | string (text : List Byte)
  | array (items : List Doc)
  | object (members : List (List Byte × Doc))

mutual

def Doc.decEq (d e : Doc) : Decidable (d = e) :=
  if h : d.ctorIdx = e.ctorIdx then
    match d, e, h with
    | .null, .null, _ => isTrue rfl
    | .bool a, .bool b, _ => decidable_of_iff (a = b) (by simp)
    | .number a, .number b, _ => decidable_of_iff (a = b) (by simp)
    | .string a, .string b, _ => decidable_of_iff (a = b) (by simp)
    | .array a, .array b, _ =>
      have := itemsDecEq a b
      decidable_of_iff (a = b) (by simp)
    | .object a, .object b, _ =>
      have := membersDecEq a b
      decidable_of_iff (a = b) (by simp)
  else isFalse fun heq => h (congrArg _ heq)

def itemsDecEq : (a b : List Doc) → Decidable (a = b)
  | [], [] => isTrue rfl
  | [], _ :: _ => isFalse nofun
  | _ :: _, [] => isFalse nofun
  | d :: a, e :: b =>
    have := d.decEq e
    have := itemsDecEq a b
    decidable_of_iff (d = e ∧ a = b) (by simp)

def membersDecEq : (a b : List (List Byte × Doc)) → Decidable (a = b)
  | [], [] => isTrue rfl
  | [], _ :: _ => isFalse nofun
  | _ :: _, [] => isFalse nofun
  | (k, d) :: a, (l, e) :: b =>
    have := d.decEq e
    have := membersDecEq a b
    decidable_of_iff (k = l ∧ d = e ∧ a = b) (by simp [and_assoc])

end

instance : DecidableEq Doc := Doc.decEq

/-- A value inside another one, or that value itself. -/
inductive Doc.Inside : Doc → Doc → Prop where
  | here (d : Doc) : Inside d d
  | item {items : List Doc} {d e : Doc} : d ∈ items → Inside d e → Inside (.array items) e
  | member {members : List (List Byte × Doc)} {name : List Byte} {d e : Doc} :
    (name, d) ∈ members → Inside d e → Inside (.object members) e

/-! ## Tokens -/

inductive Token where
  | openObject
  | closeObject
  | openArray
  | closeArray
  | string (text : List Byte)
  /-- `null`, a truth value or a number. -/
  | other
  deriving DecidableEq, Repr

mutual

def Doc.tokens : Doc → List Token
  | .null => [.other]
  | .bool _ => [.other]
  | .number _ => [.other]
  | .string text => [.string text]
  | .array items => .openArray :: (itemTokens items ++ [.closeArray])
  | .object members => .openObject :: (memberTokens members ++ [.closeObject])

def itemTokens : List Doc → List Token
  | [] => []
  | d :: rest => d.tokens ++ itemTokens rest

def memberTokens : List (List Byte × Doc) → List Token
  | [] => []
  | (name, d) :: rest => .string name :: (d.tokens ++ memberTokens rest)

end

/-! ## Reading -/

/-- What is read, and what is left. -/
abbrev Reader (α : Type) := List Byte → Option (α × List Byte)

def dropSpaces (bs : List Byte) : List Byte := bs.dropWhile isSpace

/-- `int`: a zero, or digits that do not begin with one. -/
def readInt : Reader (List Byte)
  | b :: rest =>
    if b == 0x30 then some ([b], rest)
    else if isDigit b then some (b :: rest.takeWhile isDigit, rest.dropWhile isDigit)
    else none
  | [] => none

/-- One or more digits. -/
def readDigits (bs : List Byte) : Option (List Byte × List Byte) :=
  if bs.takeWhile isDigit = [] then none else some (bs.takeWhile isDigit, bs.dropWhile isDigit)

def readFrac : Reader (Option (List Byte))
  | b :: rest =>
    if b == 0x2e then (readDigits rest).map fun (ds, rest) => (some ds, rest) else some (none, b :: rest)
  | [] => some (none, [])

def readExp : Reader (Option (Byte × Option Byte × List Byte))
  | b :: rest =>
    if b == 0x65 || b == 0x45 then match rest with
      | s :: rest' =>
        if s == 0x2b || s == 0x2d then
          (readDigits rest').map fun (ds, rest) => (some (b, some s, ds), rest)
        else (readDigits rest).map fun (ds, rest) => (some (b, none, ds), rest)
      | [] => none
    else some (none, b :: rest)
  | [] => some (none, [])

def readNumber (bs : List Byte) : Option (NumberLiteral × List Byte) := do
  let minus := bs.head? == some 0x2d
  let (int, bs) ← readInt (if minus then bs.tail else bs)
  let (frac, bs) ← readFrac bs
  let (exp, bs) ← readExp bs
  return (⟨minus, int, frac, exp⟩, bs)

/-- The body of a string, up to the quotation mark that ends it. -/
def readBody : Reader (List Byte)
  | 0x22 :: rest => some ([], rest)
  | 0x5c :: 0x75 :: h₁ :: h₂ :: h₃ :: h₄ :: rest =>
    if isHex h₁ && isHex h₂ && isHex h₃ && isHex h₄ then
      (readBody rest).map fun (body, rest) => (0x5c :: 0x75 :: h₁ :: h₂ :: h₃ :: h₄ :: body, rest)
    else none
  | 0x5c :: e :: rest =>
    if isSimpleEscape e then (readBody rest).map fun (body, rest) => (0x5c :: e :: body, rest) else none
  | b :: rest =>
    if b < 0x20 || b == 0x5c then none else (readBody rest).map fun (body, rest) => (b :: body, rest)
  | [] => none

/-- A string, after its first quotation mark. -/
def readString (bs : List Byte) : Option (List Byte × List Byte) :=
  (readBody bs).map fun (body, rest) => (unquote body, rest)

def readWord (word : List Byte) (d : Doc) (bs : List Byte) : Option (Doc × List Byte) :=
  if word.isPrefixOf bs then some (d, bs.drop word.length) else none

def readScalar (bs : List Byte) : Option (Doc × List Byte) :=
  match bs with
  | [] => none
  | b :: rest =>
    if b == 0x22 then (readString rest).map fun (text, rest) => (.string text, rest)
    else if b == 0x6e then readWord (ascii "null") .null bs
    else if b == 0x74 then readWord (ascii "true") (.bool true) bs
    else if b == 0x66 then readWord (ascii "false") (.bool false) bs
    else (readNumber bs).map fun (n, rest) => (.number n, rest)

section Containers

variable (value : Reader Doc)

/-- The items of an array, one at least, up to the closing bracket. -/
def readItems : ℕ → Reader (List Doc)
  | 0, _ => none
  | n + 1, bs => do
    let (d, bs) ← value (dropSpaces bs)
    match dropSpaces bs with
    | 0x2c :: rest => (readItems n rest).map fun (ds, rest) => (d :: ds, rest)
    | 0x5d :: rest => some ([d], rest)
    | _ => none

/-- The members of an object, one at least, up to the closing brace. -/
def readMembers : ℕ → Reader (List (List Byte × Doc))
  | 0, _ => none
  | n + 1, bs => match dropSpaces bs with
    | 0x22 :: rest => do
      let (name, bs) ← readString rest
      match dropSpaces bs with
      | 0x3a :: rest => do
        let (d, bs) ← value (dropSpaces rest)
        match dropSpaces bs with
        | 0x2c :: rest => (readMembers n rest).map fun (ms, rest) => ((name, d) :: ms, rest)
        | 0x7d :: rest => some ([(name, d)], rest)
        | _ => none
      | _ => none
    | _ => none

end Containers

/-- A value with at most so many nested containers. -/
def readValue : ℕ → Reader Doc
  | 0 => readScalar
  | depth + 1 => fun bs => match bs with
    | 0x5b :: rest => match dropSpaces rest with
      | 0x5d :: rest' => some (.array [], rest')
      | _ => (readItems (readValue depth) rest.length rest).map fun (ds, rest) => (.array ds, rest)
    | 0x7b :: rest => match dropSpaces rest with
      | 0x7d :: rest' => some (.object [], rest')
      | _ => (readMembers (readValue depth) rest.length rest).map fun (ms, rest) => (.object ms, rest)
    | _ => readScalar bs

/-- **A text that is one value**, between whitespace. -/
def parse (depth : ℕ) (bs : List Byte) : Option Doc :=
  match readValue depth (dropSpaces bs) with
  | some (d, rest) => if dropSpaces rest = [] then some d else none
  | none => none

end Json
