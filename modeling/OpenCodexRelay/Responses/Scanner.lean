/-
  The streaming scanner of Responses requests (responses/request.go).

  The scanner reads a request body ONCE, byte by byte, and never builds a tree: it checks the JSON
  grammar by recursive descent, keeps bounded prefixes of the strings that it passes, and carries
  three flags from a container to its values that say where in the document it is.

  1. `Scanner`, `Scan`: the bytes that have not been read, the offset, the result so far, the nesting
     depth — and programs over them that may fail at any byte.
  2. The lexical level: whitespace, literals, strings with their capture limit, numbers.
  3. `parseObject`, `parseArray`, `parseValue`.
  4. `scanResponsesRequest`.

  The reader has all of a body; its only error is the end of the input.  Where the source recurses
  from a value into its members, `parseValue` recurses on the number of levels that are left of the
  512 that the scanner admits; the two loops over members and elements are bounded by the number of
  unread bytes, each round reading at least one.  Neither bound is ever met (`Takes`).
-/
import OpenCodexRelay.Json

namespace Responses

open Json

/-- Why a scan fails. -/
inductive ScanCause where
  | eof
  | topLevelObject
  | trailingData
  | unexpectedByte (b : Byte)
  | expected (b : Byte)
  | duplicateModel
  | modelNotString
  | duplicateStream
  | streamNotBoolean
  | objectSeparator
  | arraySeparator
  | nesting
  | controlByte
  | unicodeEscape
  | stringEscape
  | leadingZero
  | invalidNumber
  | requiresDigits
  | invalidLiteral
  /-- A bound of the model, not of the source. -/
  | outOfFuel
  deriving DecidableEq, Repr

structure RequestScan where
  model : List Byte
  modelSeen : Bool
  streamSeen : Bool
  stream : Bool
  streamStart : ℕ
  streamEnd : ℕ
  hostedImage : Bool
  hostedComputer : Bool
  hostedComputerOutput : Bool
  deriving DecidableEq, Repr

/-- The zero value. -/
def RequestScan.zero : RequestScan := ⟨[], false, false, false, 0, 0, false, false, false⟩

structure Scanner where
  rest : List Byte
  offset : ℕ
  result : RequestScan
  depth : ℕ
  deriving DecidableEq, Repr

/-- A program of the scanner; where it fails the scanner is left as it is. -/
def Scan (α : Type) : Type := Scanner → Except ScanCause α × Scanner

namespace Scan

def fail {α : Type} (e : ScanCause) : Scan α := fun s => (.error e, s)

def bind {α β : Type} (x : Scan α) (f : α → Scan β) : Scan β := fun s =>
  match x s with
  | (.ok a, s') => f a s'
  | (.error e, s') => (.error e, s')

instance : Monad Scan where
  pure a := fun s => (.ok a, s)
  bind := bind

end Scan

/-! ## Bytes -/

/-- `peekByte`; none at the end of the input. -/
def peekByte : Scan (Option Byte) := fun s => (.ok s.rest.head?, s)

def readByte : Scan Byte := fun s =>
  match s.rest with
  | [] => (.error .eof, s)
  | b :: rest => (.ok b, { s with rest := rest, offset := s.offset + 1 })

/-- The loops that peek and read as long as a byte satisfies a test; returns how many did. -/
def readWhile (p : Byte → Bool) : Scan ℕ := fun s =>
  (.ok (s.rest.takeWhile p).length,
    { s with
      rest := s.rest.dropWhile p
      offset := s.offset + (s.rest.takeWhile p).length })

def skipWhitespace : Scan Unit := do
  let _ ← readWhile isSpace

def expect (expected : Byte) : Scan Unit := do
  let value ← readByte
  if value = expected then pure () else Scan.fail (.expected expected)

def consumeLiteral : List Byte → Scan Unit
  | [] => pure ()
  | b :: literal => fun s =>
    match readByte s with
    | (.ok value, s') =>
      if value = b then consumeLiteral literal s' else (.error .invalidLiteral, s')
    | (.error _, s') => (.error .invalidLiteral, s')

def consumeDigits : Scan Unit := do
  let count ← readWhile isDigit
  if count = 0 then Scan.fail .requiresDigits else pure ()

/-! ## Strings -/

/-- The prefix of a string that is kept. -/
structure Capture where
  raw : List Byte
  overflow : Bool
  deriving DecidableEq, Repr

def Capture.add (captureLimit : ℕ) (c : Capture) (b : Byte) : Capture :=
  if c.overflow then c
  else if captureLimit + 1 ≤ c.raw.length then { c with overflow := true }
  else { c with raw := c.raw ++ [b] }

/-- Where in a string the next byte stands. -/
inductive StringMode where
  | text
  | escape
  /-- So many hexadecimal digits are still to come, and one more. -/
  | hex (more : ℕ)
  deriving DecidableEq, Repr

/-- The loop of `parseString`, one byte at a time. -/
def stringLoop (captureLimit : ℕ) : StringMode → Capture → List Byte → ℕ →
    Except ScanCause Capture × List Byte × ℕ
  | _, _, [], offset => (.error .eof, [], offset)
  | .text, c, value :: rest, offset =>
    let c := c.add captureLimit value
    if value = 0x22 then (.ok c, rest, offset + 1)
    else if value < 0x20 then (.error .controlByte, rest, offset + 1)
    else if value ≠ 0x5c then stringLoop captureLimit .text c rest (offset + 1)
    else stringLoop captureLimit .escape c rest (offset + 1)
  | .escape, c, escape :: rest, offset =>
    let c := c.add captureLimit escape
    if isSimpleEscape escape then stringLoop captureLimit .text c rest (offset + 1)
    else if escape = 0x75 then stringLoop captureLimit (.hex 3) c rest (offset + 1)
    else (.error .stringEscape, rest, offset + 1)
  | .hex more, c, hex :: rest, offset =>
    if !isHex hex then (.error .unicodeEscape, rest, offset + 1)
    else
      let c := c.add captureLimit hex
      match more with
      | 0 => stringLoop captureLimit .text c rest (offset + 1)
      | n + 1 => stringLoop captureLimit (.hex n) c rest (offset + 1)

/-- The rest of a string after its opening quotation mark. -/
def readString (captureLimit : ℕ) : Scan Capture := fun s =>
  match stringLoop captureLimit .text ⟨[0x22], false⟩ s.rest s.offset with
  | (r, rest, offset) => (r, { s with rest := rest, offset := offset })

/-- `parseString`: the unescaped text, or that it was longer than the limit.  What was captured is
    the string with its quotation marks, which `json.Unmarshal` turns into text. -/
def parseString (captureLimit : ℕ) : Scan (List Byte × Bool) := do
  expect 0x22
  let c ← readString captureLimit
  if c.overflow then pure ([], true) else pure (unquote c.raw.tail.dropLast, false)

/-! ## Numbers -/

/-- The digits before the point. -/
def parseInteger : Scan Unit := do
  match ← peekByte with
  | none => Scan.fail .eof
  | some next =>
    if next = 0x30 then do
      let _ ← readByte
      match ← peekByte with
      | some digit => if isDigit digit then Scan.fail .leadingZero else pure ()
      | none => pure ()
    else if 0x31 ≤ next ∧ next ≤ 0x39 then do
      let _ ← readWhile isDigit
    else Scan.fail .invalidNumber

def parseFraction : Scan Unit := do
  if (← peekByte) = some 0x2e then do
    let _ ← readByte
    consumeDigits
  else pure ()

def parseExponent : Scan Unit := do
  let next ← peekByte
  if next = some 0x65 ∨ next = some 0x45 then do
    let _ ← readByte
    let sign ← peekByte
    if sign = some 0x2b ∨ sign = some 0x2d then do
      let _ ← readByte
    consumeDigits
  else pure ()

def parseNumber : Scan Unit := do
  if (← peekByte) = some 0x2d then do
    let _ ← readByte
  parseInteger
  parseFraction
  parseExponent

/-! ## Values -/

inductive ValueKind where
  | other
  | string
  | bool
  deriving DecidableEq, Repr

structure ValueInfo where
  kind : ValueKind
  text : List Byte
  bool : Bool
  start : ℕ
  finish : ℕ
  deriving DecidableEq, Repr

/-- Where in the document a value stands: inside the root's `input`, as the value of a `tools`
    member, as the entry of such a list (or as the root's `tool_choice`). -/
structure ValueContext where
  inInput : Bool
  toolArray : Bool
  toolEntry : Bool
  deriving DecidableEq, Repr

def ValueContext.zero : ValueContext := ⟨false, false, false⟩

/-- The context of the value of a member. -/
def ValueContext.child (ctx : ValueContext) (root : Bool) (key : List Byte) : ValueContext where
  inInput := ctx.inInput || (root && key == ascii "input")
  toolArray := key == ascii "tools" && (root || ctx.inInput)
  toolEntry := root && key == ascii "tool_choice"

/-- The context of an element of an array. -/
def ValueContext.element (ctx : ValueContext) : ValueContext where
  inInput := ctx.inInput
  toolArray := false
  toolEntry := ctx.toolArray

/-- What a member of the root object adds to the result, or why it may not. -/
def noteRoot (key : List Byte) (value : ValueInfo) (r : RequestScan) :
    Except ScanCause RequestScan :=
  if key = ascii "model" then
    if r.modelSeen then .error .duplicateModel
    else if value.kind ≠ .string ∨ value.text = [] then .error .modelNotString
    else .ok { r with modelSeen := true, model := value.text }
  else if key = ascii "stream" then
    if r.streamSeen then .error .duplicateStream
    else if value.kind ≠ .bool then .error .streamNotBoolean
    else
      .ok { r with
        streamSeen := true
        stream := value.bool
        streamStart := value.start
        streamEnd := value.finish }
  else .ok r

def isImageTool (text : List Byte) : Bool :=
  text == ascii "image_generation" || text == ascii "image_gen"

def isComputerTool (text : List Byte) : Bool :=
  text == ascii "computer" || text == ascii "computer_use_preview"

/-- What a member of an object adds to the result as the type of a tool or of an input item. -/
def noteType (ctx : ValueContext) (key : List Byte) (value : ValueInfo) (r : RequestScan) :
    RequestScan :=
  let typed := key = ascii "type" ∧ value.kind = .string
  { r with
    hostedImage := r.hostedImage || decide (ctx.toolEntry ∧ typed ∧ isImageTool value.text)
    hostedComputer :=
      r.hostedComputer || decide (ctx.toolEntry ∧ typed ∧ isComputerTool value.text)
    hostedComputerOutput :=
      r.hostedComputerOutput ||
        decide (ctx.inInput ∧ typed ∧ value.text = ascii "computer_call_output") }

def noteMember (ctx : ValueContext) (root : Bool) (key : List Byte) (value : ValueInfo) :
    Scan Unit := fun s =>
  match if root then noteRoot key value s.result else .ok s.result with
  | .error e => (.error e, s)
  | .ok r => (.ok (), { s with result := noteType ctx key value r })

def currentOffset : Scan ℕ := fun s => (.ok s.offset, s)

def currentDepth : Scan ℕ := fun s => (.ok s.depth, s)

def currentResult : Scan RequestScan := fun s => (.ok s.result, s)

def deepen : Scan Unit := fun s => (.ok (), { s with depth := s.depth + 1 })

def enter (expected : Byte) : Scan Unit := do
  if 512 ≤ (← currentDepth) then Scan.fail .nesting
  else do
    expect expected
    deepen

/-- `defer s.leave()`. -/
def leaving (x : Scan Unit) : Scan Unit := fun s =>
  match x s with
  | (r, s') => (r, { s' with depth := s'.depth - 1 })

section Containers

-- The parser of the values inside.
variable (value : ValueContext → Bool → Scan ValueInfo)

/-- The loop of `parseObject`. -/
def objectLoop (ctx : ValueContext) (root : Bool) : ℕ → Scan Unit
  | 0 => Scan.fail .outOfFuel
  | n + 1 => do
    let (text, overflow) ← parseString 256
    let key := if overflow then [] else text
    skipWhitespace
    expect 0x3a
    let info ← value (ctx.child root key) false
    noteMember ctx root key info
    skipWhitespace
    let separator ← readByte
    if separator = 0x7d then pure ()
    else if separator = 0x2c then do
      skipWhitespace
      objectLoop ctx root n
    else Scan.fail .objectSeparator

/-- The members of an object that is not empty; each reads at least one byte. -/
def objectMembers (ctx : ValueContext) (root : Bool) : Scan Unit := fun s =>
  objectLoop value ctx root (s.rest.length + 1) s

def parseObject (ctx : ValueContext) (root : Bool) : Scan Unit := do
  enter 0x7b
  leaving do
    skipWhitespace
    if (← peekByte) = some 0x7d then do
      let _ ← readByte
    else objectMembers value ctx root

/-- The loop of `parseArray`. -/
def arrayLoop (ctx : ValueContext) : ℕ → Scan Unit
  | 0 => Scan.fail .outOfFuel
  | n + 1 => do
    let _ ← value ctx.element false
    skipWhitespace
    let separator ← readByte
    if separator = 0x5d then pure ()
    else if separator = 0x2c then do
      skipWhitespace
      arrayLoop ctx n
    else Scan.fail .arraySeparator

/-- The elements of an array that is not empty. -/
def arrayElements (ctx : ValueContext) : Scan Unit := fun s =>
  arrayLoop value ctx (s.rest.length + 1) s

def parseArray (ctx : ValueContext) : Scan Unit := do
  enter 0x5b
  leaving do
    skipWhitespace
    if (← peekByte) = some 0x5d then do
      let _ ← readByte
    else arrayElements value ctx

/-- What `parseValue` returns for a value that began at `start`. -/
def valueInfo (kind : ValueKind) (text : List Byte) (bool : Bool) (start : ℕ) : Scan ValueInfo :=
  fun s => (.ok ⟨kind, text, bool, start, s.offset⟩, s)

/-- `parseValue` on top of the parser for the values inside. -/
def parseValueWith (ctx : ValueContext) (root : Bool) : Scan ValueInfo := do
  skipWhitespace
  let start ← currentOffset
  match ← peekByte with
  | none => Scan.fail .eof
  | some b =>
    if b = 0x7b then do
      parseObject value ctx root
      valueInfo .other [] false start
    else if b = 0x5b then do
      parseArray value ctx
      valueInfo .other [] false start
    else if b = 0x22 then do
      let (text, overflow) ← parseString 4096
      valueInfo .string (if overflow then [] else text) false start
    else if b = 0x74 then do
      consumeLiteral (ascii "true")
      valueInfo .bool [] true start
    else if b = 0x66 then do
      consumeLiteral (ascii "false")
      valueInfo .bool [] false start
    else if b = 0x6e then do
      consumeLiteral (ascii "null")
      valueInfo .other [] false start
    else if b = 0x2d ∨ isDigit b then do
      parseNumber
      valueInfo .other [] false start
    else Scan.fail (.unexpectedByte b)

end Containers

/-- `parseValue`, with so many levels of containers left. -/
def parseValue : ℕ → ValueContext → Bool → Scan ValueInfo
  | 0 => parseValueWith fun _ _ => Scan.fail .outOfFuel
  | d + 1 => parseValueWith (parseValue d)

/-! ## The whole body -/

def scanDocument : Scan RequestScan := do
  skipWhitespace
  if (← peekByte) ≠ some 0x7b then Scan.fail .topLevelObject
  else do
    let _ ← parseValue 512 .zero true
    skipWhitespace
    match ← peekByte with
    | some _ => Scan.fail .trailingData
    | none => currentResult

def Scanner.start (body : List Byte) : Scanner := ⟨body, 0, .zero, 0⟩

/-- `ErrMalformedRequest` with the offset of the scanner and the cause. -/
structure Malformed where
  offset : ℕ
  cause : ScanCause
  deriving DecidableEq, Repr

/-- **`scanResponsesRequest`.** -/
def scanResponsesRequest (body : List Byte) : Except Malformed RequestScan :=
  match scanDocument (.start body) with
  | (.ok r, _) => .ok r
  | (.error e, s) => .error ⟨s.offset, e⟩

end Responses
