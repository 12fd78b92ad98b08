/-
  What the scanner makes of a text of the grammar.

  The scanner and the grammar recurse alike: `parseValue d` on `Value d`, the loop of `parseObject`
  on `Members`, the loop of `parseArray` on `Elements`.  So a text of the grammar is read to its end
  by an induction on the grammar, and the scanner's result is a function of the TREE that the text
  denotes, but for the place where `stream` stands.

  1. `infoOf`, `treeFlags`: what `parseValue` returns for a value, and which of the three flags it
     raises, by the value alone.  Truncated captures make no difference: the names that matter are
     too short (`keyOf_eq`, `infoOf_text`).
  2. `Admissible`: the conditions on the members `model` and `stream` of the root.
  3. `Complete`: values are read, with the loops for what is inside.
  4. `RootAfter`: the result after the members of the root, and the place of `stream` (`Slot`).
  5. `scanDocument_of`: a document with admissible members is accepted.
-/
import OpenCodexRelay.Responses.Lexing

namespace Responses

open Json
open Scan (bind_of fail)
open NumberLiteral (bytes_head continues)
open Scanner (past past_past)
open RequestScan

/-! ## What a value is to the scanner -/

/-- What `parseValue` returns for a value: strings of which not everything was captured have no
    text. -/
def infoOf (lit : List Byte) (t : Tree) (start : ℕ) : ValueInfo :=
  match t with
  | .string text =>
    ⟨.string, if lit.length < 4098 then text else [], false, start, start + lit.length⟩
  | .bool b => ⟨.bool, [], b, start, start + lit.length⟩
  | _ => ⟨.other, [], false, start, start + lit.length⟩

/-- The three flags of the result. -/
structure Flags where
  image : Bool
  computer : Bool
  output : Bool
  deriving DecidableEq, Repr

namespace Flags

def none : Flags := ⟨false, false, false⟩

def or (f g : Flags) : Flags := ⟨f.image || g.image, f.computer || g.computer, f.output || g.output⟩

end Flags

/-- The result with some more flags raised. -/
def RequestScan.mark (r : RequestScan) (f : Flags) : RequestScan :=
  { r with
    hostedImage := r.hostedImage || f.image
    hostedComputer := r.hostedComputer || f.computer
    hostedComputerOutput := r.hostedComputerOutput || f.output }

def Scanner.mark (s : Scanner) (f : Flags) : Scanner := { s with result := s.result.mark f }

/-- The flags that a member raises as the type of its object. -/
def typeFlags (ctx : ValueContext) (key : List Byte) : Tree → Flags
  | .string text =>
    { image := ctx.toolEntry && key == ascii "type" && isImageTool text
      computer := ctx.toolEntry && key == ascii "type" && isComputerTool text
      output := ctx.inInput && key == ascii "type" && text == ascii "computer_call_output" }
  | _ => .none

mutual

/-- **The flags that a value raises**, by where it stands. -/
def treeFlags (ctx : ValueContext) : Tree → Flags
  | .array items => itemsFlags ctx.element items
  | .object members => membersFlags ctx false members
  | _ => .none

def itemsFlags (ctx : ValueContext) : List Tree → Flags
  | [] => .none
  | t :: ts => (treeFlags ctx t).or (itemsFlags ctx ts)

def membersFlags (ctx : ValueContext) (root : Bool) : List (List Byte × Tree) → Flags
  | [] => .none
  | (key, t) :: ms =>
    ((treeFlags (ctx.child root key) t).or (typeFlags ctx key t)).or (membersFlags ctx root ms)

end

variable {value : ValueContext → Bool → Scan ValueInfo} {ctx : ValueContext} {root : Bool}
  {d k n offset start : ℕ} {s : Scanner} {r r' : RequestScan} {e : Entry} {es : List Entry} {t : Tree}
  {ts : List Tree} {name w w₁ w₂ lit body tail rest : List Byte} {b c sep : Byte} {x : Scan Unit}

/-! ### Marks -/

theorem RequestScan.mark_none (r : RequestScan) : r.mark .none = r := by
  simp [mark, Flags.none]

theorem RequestScan.mark_mark (r : RequestScan) (f g : Flags) :
    (r.mark f).mark g = r.mark (f.or g) := by
  simp [mark, Flags.or, Bool.or_assoc]

theorem Scanner.mark_none (s : Scanner) : s.mark .none = s := by
  rw [mark, RequestScan.mark_none]

theorem Scanner.mark_mark (s : Scanner) (f g : Flags) : (s.mark f).mark g = s.mark (f.or g) := by
  simp only [mark, RequestScan.mark_mark]

@[simp] theorem Flags.or_none (f : Flags) : f.or .none = f := by
  simp [or, none]

/-! ### Captures are long enough -/

/-- The name of a member, as far as it was captured. -/
def keyOf (name : List Byte) : List Byte := if name.length < 256 then unquote name else []

/-- **Truncation does not hide a short name.** -/
theorem keyOf_eq {n : List Byte} (hn : n ≠ []) (hlength : 6 * n.length < 256) :
    keyOf name = n ↔ unquote name = n := by
  unfold keyOf
  split
  · exact .rfl
  · rename_i hlong
    constructor
    · exact fun h => absurd h.symm hn
    · rintro rfl
      have := length_le_unquote name
      omega

theorem keyOf_beq {n : List Byte} (hn : n ≠ []) (hlength : 6 * n.length < 256) :
    (keyOf name == n) = (unquote name == n) := by
  rw [Bool.eq_iff_iff, beq_iff_eq, beq_iff_eq]
  exact keyOf_eq hn hlength

theorem child_keyOf (ctx : ValueContext) (root : Bool) (name : List Byte) :
    ctx.child root (keyOf name) = ctx.child root (unquote name) := by
  simp only [ValueContext.child]
  rw [keyOf_beq (by decide) (by decide), keyOf_beq (by decide) (by decide),
    keyOf_beq (by decide) (by decide)]

/-- Nor does it hide a short text. -/
theorem infoOf_text {text n : List Byte} (h : Value d lit (.string text)) (hn : n ≠ [])
    (hlength : 6 * n.length < 4096) :
    (if lit.length < 4098 then text else []) = n ↔ text = n := by
  obtain ⟨body, -, rfl, rfl⟩ := h.string_inv
  split
  · exact .rfl
  · rename_i hlong
    constructor
    · exact fun h => absurd h.symm hn
    · rintro rfl
      have hspell := length_le_unquote body
      simp only [List.length_cons, List.length_append, List.length_nil] at hlong
      omega

theorem noteType_eq (h : Value d lit t) (ctx : ValueContext) (start : ℕ) (r : RequestScan) :
    noteType ctx (keyOf name) (infoOf lit t start) r = r.mark (typeFlags ctx (unquote name) t) := by
  have hkey : (keyOf name = ascii "type") = (unquote name = ascii "type") :=
    propext (keyOf_eq (by decide) (by decide))
  cases t with
  | string text =>
    have htext : ∀ n : List Byte, n ≠ [] → 6 * n.length < 4096 →
        ((if lit.length < 4098 then text else []) == n) = (text == n) := by
      intro n hn hlength
      rw [Bool.eq_iff_iff, beq_iff_eq, beq_iff_eq]
      exact infoOf_text h hn hlength
    have houtput := infoOf_text h (n := ascii "computer_call_output") (by decide) (by decide)
    simp only [noteType, infoOf, mark, typeFlags, isImageTool, isComputerTool, hkey,
      houtput, htext _ (show ascii "image_generation" ≠ [] by decide) (by decide),
      htext _ (show ascii "image_gen" ≠ [] by decide) (by decide),
      htext _ (show ascii "computer" ≠ [] by decide) (by decide),
      htext _ (show ascii "computer_use_preview" ≠ [] by decide) (by decide)]
    simp [Bool.decide_and, Bool.and_assoc, Bool.beq_eq_decide_eq]
  | _ => simp [noteType, infoOf, mark, typeFlags, Flags.none]

/-! ## The root object -/

/-- A string that is not empty and not too long. -/
def ModelText (e : Entry) : Prop :=
  ∃ body, StringBody body ∧ e.literal = 0x22 :: (body ++ [0x22]) ∧ e.value = .string (unquote body) ∧
    unquote body ≠ [] ∧ body.length ≤ 4095

def StreamLiteral (e : Entry) : Prop := ∃ b, e.value = .bool b

/-- What a member of the root object must be like, given what has been seen. -/
structure EntryOk (modelSeen streamSeen : Bool) (e : Entry) : Prop where
  model : e.key = ascii "model" → modelSeen = false ∧ ModelText e
  stream : e.key = ascii "stream" → streamSeen = false ∧ StreamLiteral e

/-- **The conditions on the members of the root object.**  `model` and `stream` occur at most once,
    counting what has been seen before; `model` is a string that is not empty after unescaping and
    takes at most 4095 bytes, `stream` is a boolean. -/
structure Admissible (modelSeen streamSeen : Bool) (es : List Entry) : Prop where
  modelOnce : es.countP (fun e => e.key == ascii "model") + modelSeen.toNat ≤ 1
  streamOnce : es.countP (fun e => e.key == ascii "stream") + streamSeen.toNat ≤ 1
  model : ∀ e ∈ es, e.key = ascii "model" → ModelText e
  stream : ∀ e ∈ es, e.key = ascii "stream" → StreamLiteral e

theorem admissible_nil (m st : Bool) : Admissible m st [] := by
  refine ⟨?_, ?_, nofun, nofun⟩ <;> simp [Bool.toNat_le]

theorem admissible_cons {m st : Bool} :
    Admissible m st (e :: es) ↔ EntryOk m st e ∧
      Admissible (m || e.key == ascii "model") (st || e.key == ascii "stream") es := by
  have hone : ∀ (n : ℕ) (seen here : Bool), n + here.toNat + seen.toNat ≤ 1 ↔
      (here = true → seen = false) ∧ n + (seen || here).toNat ≤ 1 := by
    intro n seen here
    cases seen <;> cases here <;> simp
  have hcount : ∀ p : Entry → Bool, (e :: es).countP p = es.countP p + (p e).toNat := by
    intro p
    rw [List.countP_cons]
    cases p e <;> rfl
  constructor
  · rintro ⟨hm, hs, hmodel, hstream⟩
    rw [hcount, hone] at hm hs
    rw [List.forall_mem_cons] at hmodel hstream
    exact ⟨⟨fun hk => ⟨hm.1 (by simpa using hk), hmodel.1 hk⟩,
      fun hk => ⟨hs.1 (by simpa using hk), hstream.1 hk⟩⟩, hm.2, hs.2, hmodel.2, hstream.2⟩
  · rintro ⟨hok, hm, hs, hmodel, hstream⟩
    refine ⟨?_, ?_, List.forall_mem_cons.mpr ⟨fun hk => (hok.model hk).2, hmodel⟩,
      List.forall_mem_cons.mpr ⟨fun hk => (hok.stream hk).2, hstream⟩⟩
    · rw [hcount, hone]
      exact ⟨fun hk => (hok.model (by simpa using hk)).1, hm⟩
    · rw [hcount, hone]
      exact ⟨fun hk => (hok.stream (by simpa using hk)).1, hs⟩

def textOf : Tree → List Byte
  | .string text => text
  | _ => []

def boolOf : Tree → Bool
  | .bool b => b
  | _ => false

/-- What a member of the root adds to the result. -/
def RequestScan.withRoot (r : RequestScan) (e : Entry) (start : ℕ) : RequestScan :=
  if e.key = ascii "model" then { r with modelSeen := true, model := textOf e.value }
  else if e.key = ascii "stream" then
    { r with
      streamSeen := true
      stream := boolOf e.value
      streamStart := start
      streamEnd := start + e.literal.length }
  else r

theorem noteRoot_of (hkey : e.key = unquote name) (hok : EntryOk r.modelSeen r.streamSeen e) :
    noteRoot (keyOf name) (infoOf e.literal e.value start) r = .ok (r.withRoot e start) := by
  have hmodel : keyOf name = ascii "model" ↔ e.key = ascii "model" :=
    hkey ▸ keyOf_eq (by decide) (by decide)
  have hstream : keyOf name = ascii "stream" ↔ e.key = ascii "stream" :=
    hkey ▸ keyOf_eq (by decide) (by decide)
  unfold noteRoot withRoot
  by_cases hm : e.key = ascii "model"
  · obtain ⟨hseen, body, -, hliteral, hvalue, hne, hlength⟩ := hok.model hm
    have hshort : (0x22 :: (body ++ [0x22])).length < 4098 := by
      simp only [List.length_cons, List.length_append, List.length_nil]
      omega
    rw [if_pos (hmodel.mpr hm), if_pos hm, hseen, if_neg Bool.false_ne_true, hvalue, hliteral]
    simp only [infoOf, textOf, if_pos hshort]
    rw [if_neg (by simpa using hne)]
  · rw [if_neg (mt hmodel.mp hm), if_neg hm]
    by_cases hs : e.key = ascii "stream"
    · obtain ⟨hseen, b, hvalue⟩ := hok.stream hs
      rw [if_pos (hstream.mpr hs), if_pos hs, hseen, if_neg Bool.false_ne_true, hvalue]
      rfl
    · rw [if_neg (mt hstream.mp hs), if_neg hs]

theorem noteRoot_inv (hkey : e.key = unquote name) (hv : Value d e.literal e.value)
    (h : noteRoot (keyOf name) (infoOf e.literal e.value start) r = .ok r') :
    EntryOk r.modelSeen r.streamSeen e ∧ r' = r.withRoot e start := by
  have hmodel : keyOf name = ascii "model" ↔ e.key = ascii "model" :=
    hkey ▸ keyOf_eq (by decide) (by decide)
  have hstream : keyOf name = ascii "stream" ↔ e.key = ascii "stream" :=
    hkey ▸ keyOf_eq (by decide) (by decide)
  have hok : EntryOk r.modelSeen r.streamSeen e := by
    unfold noteRoot at h
    refine ⟨fun hm => ?_, fun hs => ?_⟩
    · rw [if_pos (hmodel.mpr hm)] at h
      split_ifs at h with hseen hinfo
      refine ⟨by simpa using hseen, ?_⟩
      rcases e with ⟨key, lit, t⟩
      cases t with
      | string text =>
        obtain ⟨body, hbody, rfl, rfl⟩ := Value.string_inv hv
        simp only [infoOf, ne_eq, not_true_eq_false, false_or] at hinfo
        split at hinfo
        · rename_i hshort
          simp only [List.length_cons, List.length_append, List.length_nil] at hshort
          exact ⟨body, hbody, rfl, rfl, hinfo, by omega⟩
        · exact absurd rfl hinfo
      | _ => exact absurd (.inl (by simp [infoOf])) hinfo
    · have hm : e.key ≠ ascii "model" := by
        rw [hs]
        decide
      rw [if_neg (mt hmodel.mp hm), if_pos (hstream.mpr hs)] at h
      split_ifs at h with hseen hinfo
      refine ⟨by simpa using hseen, ?_⟩
      rcases e with ⟨key, lit, t⟩
      cases t with
      | bool b => exact ⟨b, rfl⟩
      | _ => exact absurd (by simp [infoOf]) hinfo
  exact ⟨hok, Except.ok.inj (h.symm.trans (noteRoot_of hkey hok))⟩

/-! ## Texts of the grammar are read -/

/-- A round of the loop of `parseObject` after the member. -/
def memberEnd (value : ValueContext → Bool → Scan ValueInfo) (ctx : ValueContext) (root : Bool)
    (n : ℕ) : Scan Unit := do
  skipWhitespace
  let separator ← readByte
  if separator = 0x7d then pure ()
  else if separator = 0x2c then do
    skipWhitespace
    objectLoop value ctx root n
  else fail .objectSeparator

/-- A round of the loop of `parseObject` after the name of the member. -/
def memberRound (value : ValueContext → Bool → Scan ValueInfo) (ctx : ValueContext) (root : Bool)
    (n : ℕ) (key : List Byte) : Scan Unit := do
  skipWhitespace
  expect 0x3a
  let info ← value (ctx.child root key) false
  noteMember ctx root key info
  memberEnd value ctx root n

theorem objectLoop_succ (value : ValueContext → Bool → Scan ValueInfo) (ctx : ValueContext)
    (root : Bool) (n : ℕ) : objectLoop value ctx root (n + 1) = (do
      let x ← parseString 256
      memberRound value ctx root n (if x.2 then [] else x.1)) := rfl

theorem captured_key (name : List Byte) :
    (if (captured 256 name).2 then [] else (captured 256 name).1) = keyOf name := by
  unfold captured keyOf
  split <;> rfl

/-- **A parser of values reads the texts of the grammar**, at its depth; what it returns and what it
    does to the result depends on the value alone. -/
def Complete (value : ValueContext → Bool → Scan ValueInfo) (d k : ℕ) : Prop :=
  ∀ ⦃ctx : ValueContext⦄ ⦃s : Scanner⦄ ⦃w lit tail : List Byte⦄ ⦃t : Tree⦄, s.depth = k →
    s.rest = w ++ (lit ++ tail) → Spaces w → Value d lit t → Stops continues tail →
    value ctx false s =
      (.ok (infoOf lit t (s.offset + w.length)), (s.past (w ++ lit) tail).mark (treeFlags ctx t))

/-- What ends a value in a container does not go on a number. -/
theorem stops_separator (hw : Spaces w) (hsep : continues sep = false) :
    Stops continues (w ++ sep :: rest) := by
  cases w with
  | nil => exact stops_cons.mpr hsep
  | cons b w =>
    have hb : isSpace b = true := hw b List.mem_cons_self
    refine stops_cons.mpr ?_
    simp only [isSpace, Bool.or_eq_true, beq_iff_eq] at hb
    rcases hb with ((rfl | rfl) | rfl) | rfl <;> decide

/-- A name and the colon after it, in front of a value. -/
def nameText (name w₁ w₂ : List Byte) : List Byte :=
  0x22 :: (name ++ 0x22 :: (w₁ ++ 0x3a :: w₂))

theorem memberText_eq (name w₁ w₂ lit tail : List Byte) :
    memberText name w₁ w₂ lit tail = nameText name w₁ w₂ ++ (lit ++ tail) := by
  simp [memberText, nameText]

/-- A scanner with another result. -/
def Scanner.noted (s : Scanner) (r : RequestScan) : Scanner := { s with result := r }

/-- A member is read up to the end of its value. -/
theorem memberRound_value (hv : Complete value d k) (hk : s.depth = k) (hname : StringBody name)
    (hw1 : Spaces w₁) (hw2 : Spaces w₂) (hvalue : Value d lit t) (hw : Spaces w)
    (hsep : sep = 0x7d ∨ sep = 0x2c)
    (hrest : s.rest = memberText name w₁ w₂ lit (w ++ sep :: rest)) :
    objectLoop value ctx root (n + 1) s =
      (do
        noteMember ctx root (keyOf name) (infoOf lit t (s.offset + (nameText name w₁ w₂).length))
        memberEnd value ctx root n)
      ((s.past (nameText name w₁ w₂ ++ lit) (w ++ sep :: rest)).mark
        (treeFlags (ctx.child root (unquote name)) t)) := by
  have hstring : s.rest = 0x22 :: (name ++ 0x22 :: (w₁ ++ 0x3a :: (w₂ ++ (lit ++ (w ++ sep :: rest))))) :=
    hrest
  have htail : Stops continues (w ++ sep :: rest) :=
    stops_separator hw (by rcases hsep with rfl | rfl <;> decide)
  rw [objectLoop_succ, bind_of (parseString_of hname hstring), captured_key, memberRound,
    bind_of (skipWhitespace_of hw1 (stops_cons.mpr (by decide)) rfl),
    bind_of (expect_of rfl)]
  simp only [past_past]
  set s1 := s.past (0x22 :: (name ++ [0x22]) ++ w₁ ++ [0x3a]) (w₂ ++ (lit ++ (w ++ sep :: rest)))
    with hs1
  have hoffset : s1.offset + w₂.length = s.offset + (nameText name w₁ w₂).length := by
    simp only [hs1, past, nameText, List.length_append, List.length_cons, List.length_nil]
    omega
  have hpast : s1.past (w₂ ++ lit) (w ++ sep :: rest) =
      s.past (nameText name w₁ w₂ ++ lit) (w ++ sep :: rest) := by
    rw [hs1, past_past]
    simp [nameText]
  rw [bind_of (hv (show s1.depth = k from hk) rfl hw2 hvalue htail), hoffset, hpast, child_keyOf]

/-- And what follows the value up to the byte that ends the member. -/
theorem memberEnd_of (hw : Spaces w) (hsep : sep = 0x7d ∨ sep = 0x2c)
    (hrest : s.rest = w ++ sep :: rest) :
    memberEnd value ctx root n s =
      (if sep = 0x7d then pure () else do skipWhitespace; objectLoop value ctx root n)
        (s.past (w ++ [sep]) rest) := by
  have hstops : Stops isSpace (sep :: rest) :=
    stops_cons.mpr (by rcases hsep with rfl | rfl <;> decide)
  rw [memberEnd, bind_of (skipWhitespace_of hw hstops hrest), bind_of (readByte_of rfl),
    past_past]
  rcases hsep with rfl | rfl <;> rfl

theorem memberRound_of (hv : Complete value d k) (hk : s.depth = k) (hname : StringBody name)
    (hw1 : Spaces w₁) (hw2 : Spaces w₂) (hvalue : Value d lit t) (hw : Spaces w)
    (hsep : sep = 0x7d ∨ sep = 0x2c) (hrest : s.rest = memberText name w₁ w₂ lit (w ++ sep :: rest))
    (hnote : ∀ s' : Scanner, s'.result = s.result.mark (treeFlags (ctx.child root (unquote name)) t) →
      noteMember ctx root (keyOf name)
        (infoOf lit t (s.offset + (nameText name w₁ w₂).length)) s'
        = (.ok (), s'.noted r)) :
    objectLoop value ctx root (n + 1) s =
      (if sep = 0x7d then pure () else do skipWhitespace; objectLoop value ctx root n)
        ((s.past (memberText name w₁ w₂ lit (w ++ [sep])) rest).noted r) := by
  rw [memberRound_value hv hk hname hw1 hw2 hvalue hw hsep hrest, bind_of (hnote _ rfl),
    memberEnd_of hw hsep rfl]
  refine congrArg _ ?_
  simp [past, Scanner.noted, Scanner.mark, memberText_eq, Nat.add_assoc]

/-! ### The result after the members -/

theorem membersFlags_cons (ctx : ValueContext) (root : Bool) (e : Entry) (es : List Entry) :
    membersFlags ctx root ((e :: es).map Entry.member) =
      ((treeFlags (ctx.child root e.key) e.value).or (typeFlags ctx e.key e.value)).or
        (membersFlags ctx root (es.map Entry.member)) := by
  rw [List.map_cons, Entry.member, membersFlags]

/-- The result after the members of the root, but for the place of `stream`. -/
def RequestScan.withAll (r : RequestScan) (es : List Entry) : RequestScan :=
  es.foldl (fun r e => r.withRoot e 0) r

/-- A result without the place of `stream`. -/
def RequestScan.unplaced (r : RequestScan) : RequestScan :=
  { r with streamStart := 0, streamEnd := 0 }

/-- The same members with another value for `stream`. -/
def replaceStream (es : List Entry) (lit : List Byte) (t : Tree) : List Entry :=
  es.map fun e => if e.key = ascii "stream" then ⟨e.key, lit, t⟩ else e

/-- **The bytes between `streamStart` and `streamEnd` are the value of `stream`**: with any other
    value there, the text is that of the same members but for this one.  The texts are those of `T`:
    members, the whole object, or the document. -/
structure Slot (d : ℕ) (T : List Byte → List Entry → Prop) (text : List Byte) (es : List Entry)
    (offset : ℕ) (r : RequestScan) (pre lit post : List Byte) : Prop where
  text_eq : text = pre ++ (lit ++ post)
  start : r.streamStart = offset + pre.length
  finish : r.streamEnd = r.streamStart + lit.length
  value : Value d lit (.bool r.stream)
  replace : ∀ lit' t', Value d lit' t' →
    T (pre ++ (lit' ++ post)) (replaceStream es lit' t')

/-- **The result after the members of the root object.** -/
structure RootAfter (d : ℕ) (T : List Byte → List Entry → Prop) (ctx : ValueContext)
    (text : List Byte) (es : List Entry) (offset : ℕ) (r r' : RequestScan) : Prop where
  result : r'.unplaced =
    ((r.withAll es).mark (membersFlags ctx true (es.map Entry.member))).unplaced
  keeps : (∀ e ∈ es, e.key ≠ ascii "stream") →
    r'.streamStart = r.streamStart ∧ r'.streamEnd = r.streamEnd ∧ r'.stream = r.stream
  slot : (∃ e ∈ es, e.key = ascii "stream") → 
    ∃ pre lit post, Slot d T text es offset r' pre lit post

/-- A place in a text is a place in a longer one. -/
theorem RootAfter.surround {T T' : List Byte → List Entry → Prop} {text u v : List Byte}
    (hT : ∀ text es, T text es → T' (u ++ (text ++ v)) es)
    (h : RootAfter d T ctx text es (offset + u.length) r r') :
    RootAfter d T' ctx (u ++ (text ++ v)) es offset r r' where
  result := h.result
  keeps := h.keeps
  slot hstream := by
    obtain ⟨pre, lit, post, hslot⟩ := h.slot hstream
    refine ⟨u ++ pre, lit, post ++ v, ?_, ?_, hslot.finish, hslot.value, ?_⟩
    · rw [hslot.text_eq]
      simp
    · rw [hslot.start, List.length_append, Nat.add_assoc]
    · intro lit' t' hvalue'
      have htext := hT _ _ (hslot.replace lit' t' hvalue')
      simp only [List.append_assoc] at htext ⊢
      exact htext

namespace RequestScan

/-- What one member does to the result. -/
def member (r : RequestScan) (ctx : ValueContext) (root : Bool) (e : Entry) (start : ℕ) :
    RequestScan :=
  (if root then r.withRoot e start else r).mark
    ((treeFlags (ctx.child root e.key) e.value).or (typeFlags ctx e.key e.value))

theorem withRoot_mark (r : RequestScan) (f : Flags) (e : Entry) (start : ℕ) :
    (r.mark f).withRoot e start = (r.withRoot e start).mark f := by
  unfold withRoot
  split_ifs <;> rfl

theorem withAll_mark (r : RequestScan) (f : Flags) (es : List Entry) :
    (r.mark f).withAll es = (r.withAll es).mark f := by
  induction es generalizing r with
  | nil => rfl
  | cons e es ih => exact (congrArg (·.withAll es) (r.withRoot_mark f e 0)).trans (ih _)

/-- Where `stream` stands makes no difference to anything else. -/
theorem unplaced_withRoot (h : r.unplaced = r'.unplaced) (e : Entry) (start start' : ℕ) :
    (r.withRoot e start).unplaced = (r'.withRoot e start').unplaced := by
  simp only [unplaced, RequestScan.mk.injEq] at h
  obtain ⟨h1, h2, h3, h4, -, -, h5, h6, h7⟩ := h
  unfold withRoot
  split_ifs <;> simp [unplaced, *]

theorem unplaced_withAll (h : r.unplaced = r'.unplaced) (es : List Entry) :
    (r.withAll es).unplaced = (r'.withAll es).unplaced := by
  induction es generalizing r r' with
  | nil => exact h
  | cons e es ih => exact ih (unplaced_withRoot h e 0 0)

theorem unplaced_mark (h : r.unplaced = r'.unplaced) (f : Flags) :
    (r.mark f).unplaced = (r'.mark f).unplaced := by
  simp only [unplaced, RequestScan.mk.injEq] at h
  obtain ⟨h1, h2, h3, h4, -, -, h5, h6, h7⟩ := h
  simp [unplaced, mark, *]

end RequestScan

theorem noteMember_of (hvalue : Value d lit t) (ctx : ValueContext) (start : ℕ)
    (hok : root = true → EntryOk r.modelSeen r.streamSeen ⟨unquote name, lit, t⟩)
    (hs : s.result = r.mark (treeFlags (ctx.child root (unquote name)) t)) :
    noteMember ctx root (keyOf name) (infoOf lit t start) s
      = (.ok (), s.noted (r.member ctx root ⟨unquote name, lit, t⟩ start)) := by
  cases root with
  | false =>
    simp only [noteMember, Bool.false_eq_true, if_false, noteType_eq hvalue, member]
    rw [hs, mark_mark]
    rfl
  | true =>
    have hroot := @noteRoot_of start s.result ⟨unquote name, lit, t⟩ name rfl (by rw [hs]; exact hok rfl)
    simp only [noteMember, if_true]
    rw [hroot]
    simp only [noteType_eq hvalue, member, if_true]
    rw [hs, RequestScan.withRoot_mark, mark_mark]
    rfl

theorem replaceStream_none (h : ∀ e ∈ es, e.key ≠ ascii "stream") (lit : List Byte) (t : Tree) :
    replaceStream es lit t = es :=
  (List.map_congr_left fun e he => if_neg (h e he)).trans (List.map_id es)

theorem member_keeps (h : e.key ≠ ascii "stream") (r : RequestScan) (ctx : ValueContext) (start : ℕ) :
    (r.member ctx true e start).streamStart = r.streamStart ∧
      (r.member ctx true e start).streamEnd = r.streamEnd ∧
      (r.member ctx true e start).stream = r.stream := by
  simp only [member, if_true, withRoot, if_neg h]
  split <;> exact ⟨rfl, rfl, rfl⟩

theorem member_stream (h : e.key = ascii "stream") (r : RequestScan) (ctx : ValueContext) (start : ℕ) :
    (r.member ctx true e start).streamStart = start ∧
      (r.member ctx true e start).streamEnd = start + e.literal.length ∧
      (r.member ctx true e start).stream = boolOf e.value := by
  have hm : e.key ≠ ascii "model" := by
    rw [h]
    decide
  simp only [member, if_true, withRoot, if_neg hm, if_pos h]
  exact ⟨rfl, rfl, rfl⟩

theorem RootAfter.last (hname : StringBody name) (hw1 : Spaces w₁) (hw2 : Spaces w₂)
    (hvalue : Value d lit t) (hw : Spaces w)
    (hok : EntryOk r.modelSeen r.streamSeen ⟨unquote name, lit, t⟩) :
    RootAfter d (Members (Value d)) ctx (memberText name w₁ w₂ lit (w ++ [0x7d]))
      [⟨unquote name, lit, t⟩] offset r
      (r.member ctx true ⟨unquote name, lit, t⟩ (offset + (nameText name w₁ w₂).length)) where
  result := by
    rw [membersFlags_cons, List.map_nil, membersFlags, Flags.or_none]
    exact RequestScan.unplaced_mark (RequestScan.unplaced_withRoot rfl _ _ _) _
  keeps h := member_keeps (h _ List.mem_cons_self) r ctx _
  slot := by
    rintro ⟨e, he, hkey⟩
    obtain rfl := List.mem_singleton.mp he
    obtain ⟨hstart, hend, hbool⟩ := member_stream hkey r ctx (offset + (nameText name w₁ w₂).length)
    obtain ⟨b, hb⟩ := (hok.stream hkey).2
    refine ⟨nameText name w₁ w₂, lit, w ++ [0x7d], memberText_eq _ _ _ _ _, hstart, ?_, ?_, ?_⟩
    · rw [hend, hstart]
    · rw [hbool]
      have hb' : t = .bool b := hb
      subst hb'
      exact hvalue
    · intro lit' t' hvalue'
      rw [← memberText_eq, replaceStream, List.map_singleton, if_pos hkey]
      exact .last hname hw1 hw2 hvalue' hw

theorem RootAfter.more {w' : List Byte} (hname : StringBody name) (hw1 : Spaces w₁) (hw2 : Spaces w₂)
    (hvalue : Value d lit t) (hw : Spaces w) (hw' : Spaces w') (hbody : Members (Value d) body es)
    (hok : EntryOk r.modelSeen r.streamSeen ⟨unquote name, lit, t⟩)
    (honce : unquote name = ascii "stream" → ∀ e ∈ es, e.key ≠ ascii "stream")
    (h : RootAfter d (Members (Value d)) ctx body es
      (offset + (memberText name w₁ w₂ lit (w ++ 0x2c :: w')).length)
      (r.member ctx true ⟨unquote name, lit, t⟩ (offset + (nameText name w₁ w₂).length)) r') :
    RootAfter d (Members (Value d)) ctx (memberText name w₁ w₂ lit (w ++ 0x2c :: (w' ++ body)))
      (⟨unquote name, lit, t⟩ :: es) offset r r' where
  result := by
    rw [membersFlags_cons, ← mark_mark, h.result]
    refine RequestScan.unplaced_mark ?_ _
    rw [member, if_pos rfl, RequestScan.withAll_mark]
    exact RequestScan.unplaced_mark
      (RequestScan.unplaced_withAll (RequestScan.unplaced_withRoot rfl _ _ _) es) _
  keeps hnone := by
    obtain ⟨hstart, hend, hbool⟩ := h.keeps fun e he => hnone e (List.mem_cons_of_mem _ he)
    obtain ⟨hstart', hend', hbool'⟩ := member_keeps (hnone _ List.mem_cons_self) r ctx
      (offset + (nameText name w₁ w₂).length)
    exact ⟨hstart.trans hstart', hend.trans hend', hbool.trans hbool'⟩
  slot := by
    rintro ⟨e, he, hkey⟩
    by_cases hhere : unquote name = ascii "stream"
    · -- The member just read is the only `stream`: the rest of the loop keeps its place.
      obtain ⟨hstart, hend, hbool⟩ := h.keeps (honce hhere)
      obtain ⟨hstart', hend', hbool'⟩ := @member_stream ⟨unquote name, lit, t⟩ hhere r ctx
        (offset + (nameText name w₁ w₂).length)
      obtain ⟨b, rfl : t = .bool b⟩ := (hok.stream hhere).2
      refine ⟨nameText name w₁ w₂, lit, w ++ 0x2c :: (w' ++ body), memberText_eq _ _ _ _ _,
        hstart.trans hstart', ?_, ?_, ?_⟩
      · rw [hend, hend', hstart, hstart']
      · rw [hbool, hbool']
        exact hvalue
      · intro lit' t' hvalue'
        rw [← memberText_eq, replaceStream, List.map_cons, if_pos hhere]
        refine .more hname hw1 hw2 hvalue' hw hw' ?_
        show Members (Value d) body (replaceStream es lit' t')
        rw [replaceStream_none (honce hhere)]
        exact hbody
    · -- It is further on.
      obtain rfl | he := List.mem_cons.mp he
      · exact absurd hkey hhere
      · obtain ⟨pre, lit1, post, hslot⟩ := h.slot ⟨e, he, hkey⟩
        refine ⟨memberText name w₁ w₂ lit (w ++ 0x2c :: (w' ++ pre)), lit1, post, ?_, ?_,
          hslot.finish, hslot.value, ?_⟩
        · rw [hslot.text_eq]
          simp [memberText]
        · rw [hslot.start]
          simp only [memberText, List.length_append, List.length_cons]
          omega
        · intro lit' t' hvalue'
          have hmore := Members.more hname hw1 hw2 hvalue hw hw' (hslot.replace lit' t' hvalue')
          rw [replaceStream, List.map_cons, if_neg hhere]
          have htext : memberText name w₁ w₂ lit (w ++ 0x2c :: (w' ++ pre)) ++ (lit' ++ post) =
              memberText name w₁ w₂ lit (w ++ 0x2c :: (w' ++ (pre ++ (lit' ++ post)))) := by
            simp [memberText]
          rw [htext]
          exact hmore

theorem admissible_once {m st : Bool} (h : Admissible m st (e :: es)) (hkey : e.key = ascii "stream") :
    ∀ e' ∈ es, e'.key ≠ ascii "stream" := by
  intro e' he' hkey'
  have hone := h.streamOnce
  rw [List.countP_cons_of_pos (by simpa using hkey)] at hone
  have hpos : 0 < es.countP fun e => e.key == ascii "stream" :=
    List.countP_pos_iff.mpr ⟨e', he', by simpa using hkey'⟩
  omega

theorem member_seen (r : RequestScan) (ctx : ValueContext) (e : Entry) (start : ℕ) :
    (r.member ctx true e start).modelSeen = (r.modelSeen || e.key == ascii "model") ∧
      (r.member ctx true e start).streamSeen = (r.streamSeen || e.key == ascii "stream") := by
  simp only [member, if_true, withRoot, mark]
  have hne : ascii "model" ≠ ascii "stream" := by decide
  split_ifs with hm hs
  · simp [hm, hne]
  · simp [hs, hne.symm]
  · simp [hm, hs]

/-- **The result after the members of an object**; inside the root they only raise flags. -/
def After (d : ℕ) (T : List Byte → List Entry → Prop) (ctx : ValueContext) (root : Bool)
    (text : List Byte) (es : List Entry) (offset : ℕ) (r r' : RequestScan) : Prop :=
  if root then RootAfter d T ctx text es offset r r'
  else r' = r.mark (membersFlags ctx false (es.map Entry.member))

/-- **The members of an object are read**, those of the root if they are admissible. -/
theorem objectLoop_of (hv : Complete value d k) (hm : Members (Value d) body es) (hn : es.length ≤ n)
    (hk : s.depth = k) (hrest : s.rest = body ++ tail)
    (hadmissible : root = true → Admissible s.result.modelSeen s.result.streamSeen es) :
    ∃ r, objectLoop value ctx root n s = (.ok (), (s.past body tail).noted r) ∧
      After d (Members (Value d)) ctx root body es s.offset s.result r := by
  induction hm generalizing s n with
  | @last name w₁ w₂ lit w t hname hw1 hw2 hvalue hw =>
    obtain ⟨n, rfl⟩ : ∃ m, n = m + 1 := Nat.exists_eq_add_of_le' hn
    have hok := fun hroot => (admissible_cons.mp (hadmissible hroot)).1
    have hshape : s.rest = memberText name w₁ w₂ lit (w ++ 0x7d :: tail) := by
      rw [hrest]
      simp [memberText]
    refine ⟨_, (memberRound_of hv hk hname hw1 hw2 hvalue hw (.inl rfl) hshape fun s' hs' =>
      noteMember_of hvalue ctx _ hok hs').trans rfl, ?_⟩
    cases root with
    | true => exact RootAfter.last hname hw1 hw2 hvalue hw (hok rfl)
    | false =>
      show _ = mark _ _
      rw [membersFlags_cons, List.map_nil, membersFlags, Flags.or_none]
      rfl
  | @more name w₁ w₂ lit w w' body t es hname hw1 hw2 hvalue hw hw' hbody ih =>
    obtain ⟨n, rfl⟩ : ∃ m, n = m + 1 :=
      Nat.exists_eq_add_of_le' ((Nat.succ_le_succ (Nat.zero_le _)).trans hn)
    have hok := fun hroot => (admissible_cons.mp (hadmissible hroot)).1
    have hshape : s.rest = memberText name w₁ w₂ lit (w ++ 0x2c :: (w' ++ (body ++ tail))) := by
      rw [hrest]
      simp [memberText]
    rw [memberRound_of hv hk hname hw1 hw2 hvalue hw (.inr rfl) hshape fun s' hs' =>
        noteMember_of hvalue ctx _ hok hs',
      if_neg (by decide), bind_of (skipWhitespace_of hw' hbody.stops rfl)]
    set r1 := s.result.member ctx root ⟨unquote name, lit, t⟩
      (s.offset + (nameText name w₁ w₂).length) with hr1
    set s1 := ((s.past (memberText name w₁ w₂ lit (w ++ [0x2c])) (w' ++ (body ++ tail))).noted r1).past
      w' (body ++ tail) with hs1
    have hoffset : s1.offset = s.offset + (memberText name w₁ w₂ lit (w ++ 0x2c :: w')).length := by
      simp only [hs1, past, Scanner.noted, memberText, List.length_append, List.length_cons,
        List.length_nil]
      omega
    have hadmissible1 : root = true → Admissible s1.result.modelSeen s1.result.streamSeen es := by
      rintro rfl
      show Admissible r1.modelSeen r1.streamSeen es
      rw [(member_seen _ _ _ _).1, (member_seen _ _ _ _).2]
      exact (admissible_cons.mp (hadmissible rfl)).2
    obtain ⟨r, hrun, hafter⟩ := @ih n s1 (Nat.le_of_succ_le_succ hn) hk rfl hadmissible1
    refine ⟨r, hrun.trans ?_, ?_⟩
    · simp only [past, Scanner.noted, hoffset, Prod.mk.injEq, Scanner.mk.injEq, true_and]
      refine ⟨?_, rfl⟩
      simp only [memberText, List.length_append, List.length_cons]
      omega
    · cases root with
      | true =>
        exact RootAfter.more hname hw1 hw2 hvalue hw hw' hbody (hok rfl)
          (admissible_once (hadmissible rfl)) (hoffset ▸ hafter)
      | false =>
        have hafter : r = r1.mark _ := hafter
        show r = mark _ _
        rw [hafter, hr1, membersFlags_cons, member, if_neg (by decide), mark_mark]

/-! ### Arrays and containers -/

theorem arrayLoop_of (hv : Complete value d k) (he : Elements (Value d) body ts) (hn : ts.length ≤ n)
    (hk : s.depth = k) (hrest : s.rest = body ++ tail) :
    arrayLoop value ctx n s = (.ok (), (s.past body tail).mark (itemsFlags ctx.element ts)) := by
  induction he generalizing s n with
  | @last lit w t hvalue hw =>
    obtain ⟨n, rfl⟩ : ∃ m, n = m + 1 := Nat.exists_eq_add_of_le' hn
    have hshape : s.rest = [] ++ (lit ++ (w ++ 0x5d :: tail)) := by
      rw [hrest]
      simp
    rw [arrayLoop, bind_of (hv hk hshape nofun hvalue (stops_separator hw (by decide))),
      bind_of (skipWhitespace_of hw (stops_cons.mpr (by decide)) rfl),
      bind_of (readByte_of rfl), if_pos rfl, itemsFlags, itemsFlags, Flags.or_none]
    simp [past, Scanner.mark, Nat.add_assoc]
    rfl
  | @more lit w w' body t ts hvalue hw hw' hbody ih =>
    obtain ⟨n, rfl⟩ : ∃ m, n = m + 1 :=
      Nat.exists_eq_add_of_le' ((Nat.succ_le_succ (Nat.zero_le _)).trans hn)
    have hshape : s.rest = [] ++ (lit ++ (w ++ 0x2c :: (w' ++ (body ++ tail)))) := by
      rw [hrest]
      simp
    rw [arrayLoop, bind_of (hv hk hshape nofun hvalue (stops_separator hw (by decide))),
      bind_of (skipWhitespace_of hw (stops_cons.mpr (by decide)) rfl),
      bind_of (readByte_of rfl), if_neg (by decide), if_pos rfl,
      bind_of (skipWhitespace_of hw' hbody.stops rfl)]
    refine (ih (Nat.le_of_succ_le_succ hn) ?_ rfl).trans ?_
    · exact hk
    · rw [itemsFlags, ← Scanner.mark_mark]
      refine congrArg (fun s' => (_, Scanner.mark s' _)) ?_
      simp only [past, Scanner.mark, List.nil_append, List.length_append, List.length_cons,
        List.length_nil, Scanner.mk.injEq, true_and, and_true]
      omega

/-- The scanner one level deeper. -/
def Scanner.deeper (s : Scanner) : Scanner := { s with depth := s.depth + 1 }

/-- The inside of a container up to what closes it, or up to its first member or element. -/
def closing (c : Byte) (x : Scan Unit) : Scan Unit := do
  skipWhitespace
  if (← peekByte) = some c then do
    let _ ← readByte
  else x

theorem parseObject_eq (value : ValueContext → Bool → Scan ValueInfo) (ctx : ValueContext)
    (root : Bool) : parseObject value ctx root =
      (do enter 0x7b; leaving (closing 0x7d (objectMembers value ctx root))) := rfl

theorem parseArray_eq (value : ValueContext → Bool → Scan ValueInfo) (ctx : ValueContext) :
    parseArray value ctx = (do enter 0x5b; leaving (closing 0x5d (arrayElements value ctx))) := rfl

theorem enter_of (hdepth : s.depth < 512) (h : s.rest = b :: rest) :
    enter b s = (.ok (), (s.past [b] rest).deeper) := by
  rw [enter, bind_of (show currentDepth s = (.ok s.depth, s) from rfl),
    if_neg (Nat.not_le.mpr hdepth), bind_of (expect_of h)]
  rfl

theorem container_empty (hdepth : s.depth < 512) (hw : Spaces w) (hc : isSpace c = false)
    (hrest : s.rest = b :: (w ++ [c]) ++ tail) :
    (do enter b; leaving (closing c x)) s = (.ok (), s.past (b :: (w ++ [c])) tail) := by
  have hrest : s.rest = b :: (w ++ c :: tail) := by simpa using hrest
  rw [bind_of (enter_of hdepth hrest), leaving, closing,
    bind_of (skipWhitespace_of hw (stops_cons.mpr hc) rfl), bind_of (peekByte_of rfl), if_pos rfl,
    bind_of (readByte_of rfl), past_past]
  simp [pure, past, Scanner.deeper, Nat.add_comm, Nat.add_left_comm]

/-- What is inside begins with something else than what would close it. -/
theorem container_full (hdepth : s.depth < 512) (hw : Spaces w) (hstops : Stops isSpace rest)
    (hc : rest.head? ≠ some c) (hrest : s.rest = b :: (w ++ rest)) :
    (do enter b; leaving (closing c x)) s = leaving x (s.past (b :: w) rest).deeper := by
  have hpast : (s.past [b] (w ++ rest)).deeper.past w rest = (s.past (b :: w) rest).deeper := by
    simp [past, Scanner.deeper, Nat.add_comm, Nat.add_left_comm]
  rw [bind_of (enter_of hdepth hrest), leaving, closing, bind_of (skipWhitespace_of hw hstops rfl),
    hpast, bind_of (show peekByte _ = (.ok rest.head?, _) from rfl), if_neg hc]
  rfl

theorem Members.length_le {V : List Byte → Tree → Prop} (h : Members V body es) :
    es.length ≤ body.length := by
  induction h with
  | last => simp [memberText]
  | more =>
    simp only [memberText, List.length_append, List.length_cons]
    omega

theorem Elements.length_le {V : List Byte → Tree → Prop} (h : Elements V body ts) :
    ts.length ≤ body.length := by
  induction h with
  | last | more =>
    simp only [List.length_append, List.length_cons]
    omega

/-- The members of an object begin with a quote, not with a brace. -/
theorem Members.head (hm : Members (Value d) body es) :
    (body ++ tail).head? ≠ some 0x7d := by
  cases hm <;> exact nofun

theorem Elements.head (he : Elements (Value d) body ts) :
    (body ++ tail).head? ≠ some 0x5d := by
  cases he with
  | last hvalue _ | more hvalue _ _ _ =>
    obtain ⟨b, rest, rfl, -, hb⟩ := hvalue.head
    simpa using hb

/-- **An object is read**, the root if its members are admissible. -/
theorem parseObject_of (hdepth : k < 512) (hv : Complete value d (k + 1))
    (ho : ObjectText (Value d) lit es) (hk : s.depth = k) (hrest : s.rest = lit ++ tail)
    (hadmissible : root = true → Admissible s.result.modelSeen s.result.streamSeen es) :
    ∃ r, parseObject value ctx root s = (.ok (), (s.past lit tail).noted r) ∧
      After d (ObjectText (Value d)) ctx root lit es s.offset s.result r := by
  rw [parseObject_eq]
  cases ho with
  | @empty w hw =>
    refine ⟨s.result, container_empty (hk ▸ hdepth) hw (by decide) hrest, ?_⟩
    have hmark : s.result = s.result.mark (membersFlags ctx root (([] : List Entry).map Entry.member)) := by
      rw [List.map_nil, membersFlags, RequestScan.mark_none]
    cases root with
    | true =>
      exact ⟨congrArg unplaced hmark, fun _ => ⟨rfl, rfl, rfl⟩, fun ⟨e, he, _⟩ => nomatch he⟩
    | false => exact hmark
  | @members w body es hw hm =>
    have hfuel : es.length ≤ (body ++ tail).length + 1 := by
      have := Members.length_le hm
      rw [List.length_append]
      omega
    obtain ⟨r, hrun, hafter⟩ := @objectLoop_of value ctx root d (k + 1) _
      (s.past (0x7b :: w) (body ++ tail)).deeper es body tail hv hm hfuel (congrArg (· + 1) hk) rfl hadmissible
    have hrun : objectMembers value ctx root (s.past (0x7b :: w) (body ++ tail)).deeper = _ := hrun
    refine ⟨r, ?_, ?_⟩
    · rw [container_full (hk ▸ hdepth) hw hm.stops (Members.head hm) (by simpa using hrest), leaving, hrun]
      simp [past, Scanner.deeper, Scanner.noted, Nat.add_comm, Nat.add_left_comm, Nat.add_assoc]
    · cases root with
      | true =>
        have htext : 0x7b :: (w ++ body) = (0x7b :: w) ++ (body ++ []) := by simp
        show RootAfter _ _ _ _ _ _ _ _
        rw [htext]
        refine RootAfter.surround (fun text es h => ?_) hafter
        simpa using ObjectText.members hw h
      | false => exact hafter

theorem parseArray_of (hdepth : k < 512) (hv : Complete value d (k + 1))
    (ha : ArrayText (Value d) lit ts) (hk : s.depth = k) (hrest : s.rest = lit ++ tail) :
    parseArray value ctx s = (.ok (), (s.past lit tail).mark (itemsFlags ctx.element ts)) := by
  rw [parseArray_eq]
  cases ha with
  | @empty w hw =>
    rw [container_empty (hk ▸ hdepth) hw (by decide) hrest, itemsFlags, Scanner.mark_none]
  | @items w body ts hw he =>
    have hfuel : ts.length ≤ (body ++ tail).length + 1 := by
      have := Elements.length_le he
      rw [List.length_append]
      omega
    have hrun : arrayElements value ctx (s.past (0x5b :: w) (body ++ tail)).deeper = _ :=
      arrayLoop_of hv he hfuel (congrArg (· + 1) hk) rfl
    rw [container_full (hk ▸ hdepth) hw he.stops (Elements.head he) (by simpa using hrest), leaving, hrun]
    simp [past, Scanner.deeper, Scanner.mark, Nat.add_comm, Nat.add_left_comm, Nat.add_assoc]

/-! ### Values -/

/-- `parseValue` at the first byte of a value. -/
def valueAt (value : ValueContext → Bool → Scan ValueInfo) (ctx : ValueContext) (root : Bool)
    (start : ℕ) (b : Byte) : Scan ValueInfo :=
  if b = 0x7b then do
    parseObject value ctx root
    valueInfo .other [] false start
  else if b = 0x5b then do
    parseArray value ctx
    valueInfo .other [] false start
  else if b = 0x22 then do
    let x ← parseString 4096
    valueInfo .string (if x.2 then [] else x.1) false start
  else if b = 0x74 then do
    consumeLiteral (ascii "true")
    valueInfo .bool [] true start
  else if b = 0x66 then do
    consumeLiteral (ascii "false")
    valueInfo .bool [] false start
  else if b = 0x6e then do
    consumeLiteral (ascii "null")
    valueInfo .other [] false start
  else if b = 0x2d ∨ isDigit b then do
    parseNumber
    valueInfo .other [] false start
  else fail (.unexpectedByte b)

theorem parseValueWith_of (hw : Spaces w) (hb : isSpace b = false) (hrest : s.rest = w ++ b :: rest) :
    parseValueWith value ctx root s =
      valueAt value ctx root (s.offset + w.length) b (s.past w (b :: rest)) := by
  rw [parseValueWith, bind_of (skipWhitespace_of hw (stops_cons.mpr hb) hrest)]
  rfl

theorem valueInfo_of {s' : Scanner} (kind : ValueKind) (text : List Byte) (b : Bool)
    (h : s'.offset = start + lit.length) :
    valueInfo kind text b start s' = (.ok ⟨kind, text, b, start, start + lit.length⟩, s') := by
  rw [valueInfo, h]

theorem captured_text (body : List Byte) :
    (if (captured 4096 body).2 then [] else (captured 4096 body).1) =
      if (0x22 :: (body ++ [0x22])).length < 4098 then unquote body else [] := by
  have hlength : (0x22 :: (body ++ [0x22])).length = body.length + 2 := by simp
  by_cases hshort : body.length < 4096
  · simp only [captured, if_pos hshort,
      if_pos (show (0x22 :: (body ++ [0x22])).length < 4098 by omega)]
    rfl
  · simp only [captured, if_neg hshort,
      if_neg (show ¬(0x22 :: (body ++ [0x22])).length < 4098 by omega)]
    rfl

theorem scalar_of (h : Scalar lit t) (hhead : lit = b :: rest) (hrest : s.rest = lit ++ tail)
    (htail : Stops continues tail) :
    valueAt value ctx root s.offset b s = (.ok (infoOf lit t s.offset), s.past lit tail) := by
  cases h with
  | null | true | false =>
    obtain ⟨rfl, rfl⟩ := List.cons.inj hhead
    exact (bind_of (consumeLiteral_of hrest)).trans rfl
  | @number n hn =>
    obtain ⟨b', rest', hbytes, hb⟩ := bytes_head hn
    obtain ⟨rfl, -⟩ := List.cons.inj (hbytes.symm.trans hhead)
    have hother : b' ≠ 0x7b ∧ b' ≠ 0x5b ∧ b' ≠ 0x22 ∧ b' ≠ 0x74 ∧ b' ≠ 0x66 ∧ b' ≠ 0x6e := by
      rcases hb with rfl | hb
      · decide
      · simp only [isDigit, Bool.and_eq_true, decide_eq_true_eq] at hb
        grind
    obtain ⟨h1, h2, h3, h4, h5, h6⟩ := hother
    rw [valueAt, if_neg h1, if_neg h2, if_neg h3, if_neg h4, if_neg h5, if_neg h6, if_pos hb,
      bind_of (parseNumber_of hn htail hrest)]
    rfl
  | @string body hbody =>
    obtain ⟨rfl, rfl⟩ := List.cons.inj hhead
    have hquote : s.rest = 0x22 :: (body ++ 0x22 :: tail) := by
      rw [hrest]
      simp
    rw [valueAt, if_neg (by decide), if_neg (by decide), if_pos rfl,
      bind_of (parseString_of hbody hquote)]
    rw [captured_text]
    rfl

theorem treeFlags_scalar (h : Scalar lit t) (ctx : ValueContext) :
    treeFlags ctx t = .none := by
  cases h <;> rw [treeFlags] <;> nofun

/-- Values that are not containers are read without a parser for what is inside. -/
theorem parseValueWith_scalar (hrest : s.rest = w ++ (lit ++ tail)) (hw : Spaces w) (h : Scalar lit t)
    (htail : Stops continues tail) :
    parseValueWith value ctx root s =
      (.ok (infoOf lit t (s.offset + w.length)), (s.past (w ++ lit) tail).mark (treeFlags ctx t)) := by
  obtain ⟨b, rest, hhead, hb, -⟩ := (show Value 0 lit t from h).head
  have hpast : lit ++ tail = b :: (rest ++ tail) := by
    rw [hhead]
    rfl
  have hvalue := @scalar_of value ctx root (s.past w (b :: (rest ++ tail))) t lit tail rest b h hhead
    hpast.symm htail
  rw [parseValueWith_of hw hb (hrest.trans (congrArg (w ++ ·) hpast)), treeFlags_scalar h,
    Scanner.mark_none, ← past_past]
  exact hvalue

/-- **One level of values**: what `parseValue` does, given a parser of the values inside. -/
theorem parseValueWith_complete (hdepth : k < 512) (hv : Complete value d (k + 1)) :
    Complete (parseValueWith value) (d + 1) k := by
  intro ctx s w lit tail t hk hrest hw hvalue htail
  obtain ⟨b, rest, hhead, hb, -⟩ := hvalue.head
  rcases hvalue with hscalar | hcontainer
  · exact parseValueWith_scalar hrest hw hscalar htail
  have hpast : lit ++ tail = b :: (rest ++ tail) := by
    rw [hhead]
    rfl
  rw [parseValueWith_of hw hb (hrest.trans (congrArg (w ++ ·) hpast))]
  have hinfo : ∀ f, valueInfo .other [] false (s.offset + w.length)
      (((s.past w (b :: (rest ++ tail))).past lit tail).mark f) =
        (.ok ⟨.other, [], false, s.offset + w.length, s.offset + w.length + lit.length⟩,
          (s.past (w ++ lit) tail).mark f) := by
    intro f
    rw [past_past]
    refine (valueInfo_of _ _ _ ?_)
    simp [Scanner.mark, past, Nat.add_assoc]
  cases hcontainer with
  | array ha =>
    have hbracket : b = 0x5b := by
      cases ha <;> exact (List.cons.inj hhead).1.symm
    subst hbracket
    rw [valueAt, if_neg (by decide), if_pos rfl,
      bind_of (parseArray_of hdepth hv ha (s := s.past w _) hk hpast.symm), treeFlags]
    exact hinfo _
  | object ho =>
    have hbrace : b = 0x7b := by
      cases ho <;> exact (List.cons.inj hhead).1.symm
    subst hbrace
    obtain ⟨r, hrun, rfl⟩ := @parseObject_of value ctx false d k (s.past w _) _ lit tail hdepth hv ho hk
      hpast.symm (by simp)
    rw [valueAt, if_pos rfl, bind_of hrun, treeFlags]
    exact hinfo _

theorem parseValue_complete (h : d + k = 512) : Complete (parseValue d) d k := by
  induction d generalizing k with
  | zero => exact fun _ _ _ _ _ _ _ hrest hw hvalue htail => parseValueWith_scalar hrest hw hvalue htail
  | succ d ih => exact parseValueWith_complete (by omega) (ih (by omega))

/-- The value of the document begins with a brace: it is the root object. -/
theorem parseValue_root (h : s.rest = 0x7b :: rest) :
    parseValue 512 .zero true s = (do
      parseObject (parseValue 511) .zero true
      valueInfo .other [] false s.offset) s := by
  rw [parseValue, parseValueWith_of (w := []) nofun (show isSpace 0x7b = false by decide) h, valueAt,
    if_pos rfl, ← h]
  rfl

/-- A document is entered at its brace. -/
theorem scanDocument_at {w' : List Byte} (hw : Spaces w) (ho : ObjectText (Value 511) lit es) :
    scanDocument (.start (w ++ (lit ++ w'))) = (do
      let _ ← (do parseObject (parseValue 511) .zero true; valueInfo .other [] false (0 + w.length))
      skipWhitespace
      match ← peekByte with
      | some _ => fail .trailingData
      | none => currentResult) ((Scanner.start (w ++ (lit ++ w'))).past w (lit ++ w')) := by
  obtain ⟨rest, hhead⟩ : ∃ rest, lit ++ w' = 0x7b :: rest := by
    cases ho <;> exact ⟨_, rfl⟩
  have hroot := parseValue_root (s := (Scanner.start (w ++ (lit ++ w'))).past w (lit ++ w')) hhead
  rw [scanDocument, bind_of (skipWhitespace_of hw (hhead ▸ stops_cons.mpr (by decide)) rfl),
    bind_of (peekByte_of hhead), if_neg (by simp), Scan.bind_run, hroot]
  rfl

/-- **A document with admissible members is accepted**, and what the scanner returns is the result
    after these members. -/
theorem scanDocument_of {bytes : List Byte} (h : Document 511 bytes es)
    (hadmissible : Admissible false false es) :
    ∃ r s, scanDocument (.start bytes) = (.ok r, s) ∧
      RootAfter 511 (Document 511) .zero bytes es 0 .zero r := by
  obtain ⟨w, lit, w', hw, ho, hw', rfl⟩ := h
  set s1 := (Scanner.start (w ++ (lit ++ w'))).past w (lit ++ w') with hs1
  obtain ⟨r, hrun, hroot⟩ := @parseObject_of (parseValue 511) .zero true 511 0 s1 es lit w' (by decide)
    (parseValue_complete (by rfl)) ho rfl rfl fun _ => hadmissible
  refine ⟨r, ((s1.past lit w').noted r).past w' [], ?_, ?_⟩
  · have hend := skipWhitespace_of (s := (s1.past lit w').noted r) hw' (stops_nil _)
      (List.append_nil w').symm
    rw [scanDocument_at hw ho, bind_of ((bind_of hrun).trans rfl), bind_of hend]
    rfl
  · have hroot : RootAfter 511 (ObjectText (Value 511)) .zero lit es (0 + w.length) .zero r := hroot
    refine RootAfter.surround (fun text es h => ?_) hroot
    exact ⟨w, text, w', hw, h, hw', rfl⟩

end Responses

