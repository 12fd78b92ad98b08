/-
  The lexical level of the scanner against the grammar.

  For each reader of the lexical level there are two lemmas: what it reads WHEN the next bytes are a
  token of the grammar (`…_of`), and what comes of it whatever it meets (`…_takes`): it moves the
  scanner forward over some bytes, no bound of the model stops it, and if it succeeds it has read a
  token.  For numbers the first needs to know that the token ends there: the reader takes the longest
  one.

  1. Running programs; `Moves`, and the logic `Takes` for what a program has read.
  2. Whitespace, single bytes, literals.
  3. Strings: the loop one byte at a time, and what the capture keeps.
  4. Numbers, part by part.
-/
import Mathlib.Data.List.TakeWhile
import OpenCodexRelay.Responses.Scanner

namespace Responses

open Json

/-! ## Running programs -/

variable {β α : Type} {s s' : Scanner} {a : α} {x : Scan α} {f : α → Scan β} {w rest : List Byte}
variable {b : Byte} {k : ℕ}

section Running

variable {b : β}

theorem Scan.bind_run (x : Scan α) (f : α → Scan β) (s : Scanner) :
    (x >>= f) s = match x s with
      | (.ok a, s') => f a s'
      | (.error e, s') => (.error e, s') := rfl

/-- Going on after a success. -/
theorem Scan.bind_of (h : x s = (.ok a, s')) : (x >>= f) s = f a s' := by
  rw [bind_run, h]

/-- A sequence succeeds if both parts do. -/
theorem Scan.bind_inv {s'' : Scanner} (h : (x >>= f) s = (.ok b, s'')) :
    ∃ a s', x s = (.ok a, s') ∧ f a s' = (.ok b, s'') := by
  rw [bind_run] at h
  split at h
  · rename_i a s' hx
    exact ⟨a, s', hx, h⟩
  · cases h

end Running

open Scan (bind_of)

/-- The scanner after it has read some bytes. -/
def Scanner.past (s : Scanner) (w rest : List Byte) : Scanner :=
  { s with rest := rest, offset := s.offset + w.length }

theorem Scanner.past_past (s : Scanner) (w w' rest rest' : List Byte) :
    (s.past w rest).past w' rest' = s.past (w ++ w') rest' := by
  simp [past, Nat.add_assoc]

/-- **One scanner is another one after some bytes**: the unread bytes are a suffix of what they were,
    the offset has grown by what was read, and a part of the result is the same. -/
structure Moves {τ : Type} (part : RequestScan → τ) (s : Scanner) (w : List Byte) (s' : Scanner) :
    Prop where
  rest : s.rest = w ++ s'.rest
  offset : s'.offset = s.offset + w.length
  depth : s'.depth = s.depth
  same : part s'.result = part s.result

namespace Moves

variable {τ τ' : Type} {part : RequestScan → τ} {s s' s'' : Scanner} {w w' rest : List Byte}

theorem refl (s : Scanner) : Moves part s [] s := ⟨rfl, rfl, rfl, rfl⟩

theorem trans (h : Moves part s w s') (h' : Moves part s' w' s'') : Moves part s (w ++ w') s'' where
  rest := by rw [h.rest, h'.rest, List.append_assoc]
  offset := by rw [h'.offset, h.offset, List.length_append, Nat.add_assoc]
  depth := h'.depth.trans h.depth
  same := h'.same.trans h.same

theorem map (h : Moves part s w s') (g : τ → τ') : Moves (g ∘ part) s w s' :=
  ⟨h.rest, h.offset, h.depth, congrArg g h.same⟩

theorem length_eq (h : Moves part s w s') : s.rest.length = w.length + s'.rest.length := by
  rw [h.rest, List.length_append]

end Moves

/-- A success is in `post`, and it is not a bound of the model that fails. -/
def Ends {α : Type} (post : α → Prop) : Except ScanCause α → Prop
  | .ok a => post a
  | .error e => e ≠ .outOfFuel

theorem Ends.mono {post post' : α → Prop} {r : Except ScanCause α} (h : Ends post r)
    (hpost : ∀ a, r = .ok a → post a → post' a) : Ends post' r := by
  cases r with
  | error e => exact h
  | ok a => exact hpost a rfl h

/-- **What comes of a program**: it moves the scanner forward, no bound of the model stops it, and a
    success is in `post`, by what it returns, what it has read and where it is. -/
def Takes {τ α : Type} (part : RequestScan → τ) (x : Scan α) (s : Scanner)
    (post : α → List Byte → Scanner → Prop) : Prop :=
  ∃ w, Moves part s w (x s).2 ∧ Ends (fun a => post a w (x s).2) (x s).1

section Takes

variable {τ τ' : Type} {part : RequestScan → τ} {y : Scan α} {post mid : α → List Byte → Scanner → Prop}

theorem takes_of (h : x s = (.ok a, s')) (hw : Moves part s w s') (hpost : post a w s') :
    Takes part x s post := by
  refine ⟨w, ?_⟩
  rw [h]
  exact ⟨hw, hpost⟩

theorem takes_congr (h : x s = y s) (hy : Takes part y s post) : Takes part x s post := by
  unfold Takes
  rw [h]
  exact hy

theorem takes_pure (h : post a [] s) : Takes part (pure a) s post := ⟨[], .refl s, h⟩

theorem takes_fail {e : ScanCause} (h : e ≠ .outOfFuel) : Takes part (Scan.fail e : Scan α) s post :=
  ⟨[], .refl s, h⟩

theorem takes_ite {c : Prop} [Decidable c] (hx : c → Takes part x s post) (hy : ¬c → Takes part y s post) :
    Takes part (if c then x else y) s post := by
  by_cases h : c
  · rw [if_pos h]
    exact hx h
  · rw [if_neg h]
    exact hy h

/-- What is known of a success. -/
theorem Takes.ok (h : Takes part x s post) (hx : x s = (.ok a, s')) :
    ∃ w, Moves part s w s' ∧ post a w s' := by
  obtain ⟨w, hw, hpost⟩ := h
  rw [hx] at hw hpost
  exact ⟨w, hw, hpost⟩

theorem Takes.mono (h : Takes part x s mid)
    (hpost : ∀ a w s', Moves part s w s' → mid a w s' → post a w s') :
    Takes part x s post := by
  obtain ⟨w, hw, hmid⟩ := h
  exact ⟨w, hw, hmid.mono fun a _ ha => hpost a w _ hw ha⟩

/-- **Composition.** -/
theorem Takes.bind {post : β → List Byte → Scanner → Prop} (h : Takes part x s mid)
    (hf : ∀ a w s', Moves part s w s' → mid a w s' → Takes part (f a) s' fun b w' => post b (w ++ w')) :
    Takes part (x >>= f) s post := by
  obtain ⟨w, hw, hmid⟩ := h
  unfold Takes
  rw [Scan.bind_run]
  rcases heq : x s with ⟨e | a, s'⟩
  · rw [heq] at hw hmid
    exact ⟨w, hw, hmid⟩
  · rw [heq] at hw hmid
    obtain ⟨w', hw', hpost⟩ := hf a w s' hw hmid
    exact ⟨w ++ w', hw.trans hw', hpost⟩

/-- Less of the result is minded. -/
theorem Takes.map (h : Takes part x s post) (g : τ → τ') : Takes (g ∘ part) x s post := by
  obtain ⟨w, hw, hpost⟩ := h
  exact ⟨w, hw.map g, hpost⟩

/-- The lexical level leaves the result alone. -/
theorem Takes.lexical (h : Takes id x s post) :
    Takes part x s fun a w s' => s'.result = s.result ∧ post a w s' :=
  (h.mono fun _ _ _ hw hpost => ⟨hw.same, hpost⟩).map part

end Takes

/-! ## Whitespace, bytes, literals -/

theorem peekByte_of (h : s.rest = b :: rest) : peekByte s = (.ok (some b), s) := by
  rw [peekByte, h]
  rfl

theorem peekByte_takes (s : Scanner) :
    Takes id peekByte s fun o w s' => o = s.rest.head? ∧ w = [] ∧ s = s' :=
  takes_of rfl (.refl s) ⟨rfl, rfl, rfl⟩

theorem readWhile_of {p : Byte → Bool} (hw : ∀ b ∈ w, p b = true) (hrest : Stops p rest)
    (h : s.rest = w ++ rest) :
    readWhile p s = (.ok w.length, s.past w rest) := by
  obtain ⟨htake, hdrop⟩ := takeWhile_append hw hrest
  simp only [readWhile, h, htake, hdrop]
  rfl

theorem readWhile_takes (p : Byte → Bool) (s : Scanner) : Takes id (readWhile p) s fun n w s' =>
    n = w.length ∧ (∀ b ∈ w, p b = true) ∧ Stops p s'.rest :=
  takes_of rfl ⟨List.takeWhile_append_dropWhile.symm, rfl, rfl, rfl⟩
    ⟨rfl, fun _ hb => List.mem_takeWhile_imp hb, stops_dropWhile p s.rest⟩

theorem skipWhitespace_of (hw : Spaces w) (hrest : Stops isSpace rest) (h : s.rest = w ++ rest) :
    skipWhitespace s = (.ok (), s.past w rest) :=
  bind_of (readWhile_of hw hrest h)

theorem skipWhitespace_takes (s : Scanner) :
    Takes id skipWhitespace s fun _ w s' => Spaces w ∧ Stops isSpace s'.rest := by
  refine (readWhile_takes _ s).bind ?_
  rintro n w s' - ⟨-, hw⟩
  refine takes_pure ?_
  rwa [List.append_nil]

theorem readByte_of (h : s.rest = b :: rest) :
    readByte s = (.ok b, s.past [b] rest) := by
  simp only [readByte, h]
  rfl

theorem readByte_takes (s : Scanner) :
    Takes id readByte s fun b w _ => w = [b] ∧ s.rest.head? = some b := by
  cases h : s.rest with
  | nil =>
    refine ⟨[], ?_⟩
    simp only [readByte, h]
    exact ⟨.refl s, nofun⟩
  | cons b rest => exact takes_of (readByte_of h) ⟨h, rfl, rfl, rfl⟩ ⟨rfl, rfl⟩

theorem expect_of (h : s.rest = b :: rest) : expect b s = (.ok (), s.past [b] rest) := by
  rw [expect, bind_of (readByte_of h), if_pos rfl]
  rfl

theorem expect_takes (b : Byte) (s : Scanner) : Takes id (expect b) s fun _ w _ => w = [b] := by
  refine (readByte_takes s).bind ?_
  rintro c w s' - ⟨rfl, -⟩
  exact takes_ite (fun hc => takes_pure (congrArg (fun c => [c]) hc)) fun _ => takes_fail nofun

theorem consumeLiteral_cons (b : Byte) (literal : List Byte) (s : Scanner) :
    consumeLiteral (b :: literal) s =
      match readByte s with
      | (.ok value, s') =>
        if value = b then consumeLiteral literal s' else (.error .invalidLiteral, s')
      | (.error _, s') => (.error .invalidLiteral, s') := rfl

theorem consumeLiteral_of {literal : List Byte} (h : s.rest = literal ++ rest) :
    consumeLiteral literal s = (.ok (), s.past literal rest) := by
  induction literal generalizing s with
  | nil =>
    obtain ⟨rest', offset, result, depth⟩ := s
    obtain rfl : rest' = rest := h
    rfl
  | cons b literal ih =>
    rw [consumeLiteral_cons, readByte_of h]
    dsimp only
    rw [if_pos rfl, ih rfl, Scanner.past_past]
    rfl

theorem consumeLiteral_takes (literal : List Byte) (s : Scanner) :
    Takes id (consumeLiteral literal) s fun _ w _ => w = literal := by
  induction literal generalizing s with
  | nil => exact takes_pure rfl
  | cons b literal ih =>
    obtain ⟨w, hw, hpost⟩ := readByte_takes s
    unfold Takes
    rw [consumeLiteral_cons]
    rcases heq : readByte s with ⟨e | value, s'⟩
    · rw [heq] at hw
      exact ⟨w, hw, nofun⟩
    · rw [heq] at hw hpost
      obtain ⟨rfl, -⟩ := hpost
      by_cases hb : value = b
      · subst hb
        simp only [if_true]
        obtain ⟨w', hw', hrest⟩ := ih s'
        exact ⟨[value] ++ w', hw.trans hw', hrest.mono fun _ _ => congrArg (value :: ·)⟩
      · simp only [if_neg hb]
        exact ⟨_, hw, nofun⟩

theorem consumeDigits_of {ds : List Byte} (hds : Digits ds) (hrest : Stops isDigit rest)
    (h : s.rest = ds ++ rest) : consumeDigits s = (.ok (), s.past ds rest) := by
  rw [consumeDigits, bind_of (readWhile_of hds.2 hrest h), if_neg]
  · rfl
  · exact fun hzero => hds.1 (List.length_eq_zero_iff.mp hzero)

theorem consumeDigits_takes (s : Scanner) : Takes id consumeDigits s fun _ w _ => Digits w := by
  refine (readWhile_takes _ s).bind ?_
  rintro n w s' - ⟨rfl, hw, -⟩
  refine takes_ite (fun _ => takes_fail nofun) fun hne => takes_pure ?_
  rw [List.append_nil]
  exact ⟨fun hnil => hne (by simp [hnil]), hw⟩

/-! ## Strings -/

/-- What a capture is after some bytes. -/
def Capture.addAll (captureLimit : ℕ) (c : Capture) (bs : List Byte) : Capture :=
  bs.foldl (add captureLimit) c

theorem Capture.addAll_cons (k : ℕ) (c : Capture) (b : Byte) (bs : List Byte) :
    c.addAll k (b :: bs) = (c.add k b).addAll k bs := rfl

theorem Capture.addAll_overflow {c : Capture} (h : c.overflow = true) (bs : List Byte) :
    c.addAll k bs = c := by
  induction bs with
  | nil => rfl
  | cons b bs ih => rw [addAll_cons, add, if_pos h, ih]

/-- A capture keeps everything as long as it fits, and otherwise knows that it did not. -/
theorem Capture.addAll_eq {raw : List Byte} (hraw : raw.length ≤ k + 1) (bs : List Byte) :
    if raw.length + bs.length ≤ k + 1 then
      addAll k ⟨raw, false⟩ bs = ⟨raw ++ bs, false⟩
    else (addAll k ⟨raw, false⟩ bs).overflow = true := by
  induction bs generalizing raw with
  | nil => simp [hraw, addAll]
  | cons b bs ih =>
    rw [addAll_cons, List.length_cons]
    by_cases hfull : k + 1 ≤ raw.length
    · rw [if_neg (by omega), add, if_neg Bool.false_ne_true, if_pos hfull,
        addAll_overflow rfl]
    · rw [add, if_neg Bool.false_ne_true, if_neg hfull]
      have hnext := @ih (raw ++ [b]) (by simp; omega)
      simp only [List.length_append, List.length_cons, List.length_nil, List.append_assoc,
        List.cons_append, List.nil_append, Nat.zero_add] at hnext
      rwa [show raw.length + (bs.length + 1) = raw.length + 1 + bs.length by omega]

/-- What `parseString` returns for a string with this body. -/
def captured (captureLimit : ℕ) (body : List Byte) : List Byte × Bool :=
  if body.length < captureLimit then (unquote body, false) else ([], true)

theorem captured_eq (k : ℕ) (body : List Byte) :
    (if (Capture.addAll k ⟨[0x22], false⟩ (body ++ [0x22])).overflow then ([], true)
      else (unquote (Capture.addAll k ⟨[0x22], false⟩ (body ++ [0x22])).raw.tail.dropLast, false))
      = captured k body := by
  have hadd := @Capture.addAll_eq k [0x22] (by simp) (body ++ [0x22])
  simp only [List.length_cons, List.length_nil, List.length_append, Nat.zero_add] at hadd
  unfold captured
  by_cases hfits : body.length < k
  · rw [if_pos (by omega)] at hadd
    rw [hadd, if_pos hfits]
    simp
  · rw [if_neg (by omega)] at hadd
    rw [if_neg hfits, if_pos hadd]

/-- What may follow in a string, from a point in it. -/
def StringMode.Follows : StringMode → List Byte → Prop
  | .text, bs => StringBody bs
  | .escape, bs => StringBody (0x5c :: bs)
  | .hex more, bs =>
    ∃ hs body, hs.length = more + 1 ∧ (∀ h ∈ hs, isHex h = true) ∧ bs = hs ++ body ∧ StringBody body

/-- Four hexadecimal digits complete an escape. -/
theorem StringMode.Follows.unicode {bs : List Byte} (h : (StringMode.hex 3).Follows bs) :
    StringBody (0x5c :: 0x75 :: bs) := by
  obtain ⟨hs, body, hlength, hhex, rfl, hbody⟩ := h
  match hs, hlength with
  | [h1, h2, h3, h4], _ =>
    exact .unicode (hhex h1 (by simp)) (hhex h2 (by simp)) (hhex h3 (by simp)) (hhex h4 (by simp))
      hbody

/-- **What comes of the loop**: a text that may follow, and a quotation mark. -/
theorem stringLoop_takes (k : ℕ) (mode : StringMode) (c : Capture) (bs : List Byte) (offset : ℕ) :
    ∃ w, bs = w ++ (stringLoop k mode c bs offset).2.1 ∧
      (stringLoop k mode c bs offset).2.2 = offset + w.length ∧
      Ends (fun c' => ∃ body, mode.Follows body ∧ w = body ++ [0x22] ∧ c' = c.addAll k w)
        (stringLoop k mode c bs offset).1 := by
  induction bs generalizing mode c offset with
  | nil =>
    rw [stringLoop]
    exact ⟨[], rfl, rfl, nofun⟩
  | cons b bs ih =>
    -- A byte more, in a mode from which everything that follows may follow `b` here.
    have hnext : ∀ mode', (∀ body, mode'.Follows body → mode.Follows (b :: body)) →
        ∃ w, b :: bs = w ++ (stringLoop k mode' (c.add k b) bs (offset + 1)).2.1 ∧
          (stringLoop k mode' (c.add k b) bs (offset + 1)).2.2 = offset + w.length ∧
          Ends (fun c' => ∃ body, mode.Follows body ∧ w = body ++ [0x22] ∧ c' = c.addAll k w)
            (stringLoop k mode' (c.add k b) bs (offset + 1)).1 := by
      intro mode' hfollows
      obtain ⟨w, hrest, hoffset, hpost⟩ := ih mode' (c.add k b) (offset + 1)
      refine ⟨b :: w, congrArg (b :: ·) hrest, ?_, hpost.mono ?_⟩
      · rw [hoffset, List.length_cons]
        omega
      · rintro c' - ⟨body, hbody, rfl, hc⟩
        exact ⟨b :: body, hfollows body hbody, rfl, hc⟩
    cases mode with
    | text =>
      rw [stringLoop]
      split_ifs with hquote hcontrol hback
      · subst hquote
        exact ⟨[0x22], rfl, rfl, [], .nil, rfl, rfl⟩
      · exact ⟨[b], rfl, rfl, nofun⟩
      · exact hnext .text fun _ => .plain (UInt8.not_lt.mp hcontrol) hquote hback
      · obtain rfl : b = 0x5c := by simpa using hback
        exact hnext .escape fun _ => id
    | escape =>
      rw [stringLoop]
      split_ifs with hsimple hu
      · exact hnext .text fun _ => .escape hsimple
      · subst hu
        exact hnext (.hex 3) fun _ => StringMode.Follows.unicode
      · exact ⟨[b], rfl, rfl, nofun⟩
    | hex more =>
      rw [stringLoop]
      dsimp only
      split_ifs with hhex
      · exact ⟨[b], rfl, rfl, nofun⟩
      · have hb : isHex b = true := by simpa using hhex
        cases more with
        | zero => exact hnext .text fun body hbody => ⟨[b], body, rfl, by simpa using hb, rfl, hbody⟩
        | succ n =>
          refine hnext (.hex n) ?_
          rintro _ ⟨hs, tail, hlength, hall, rfl, htail⟩
          exact ⟨b :: hs, tail, by simp [hlength], by simpa using ⟨hb, hall⟩, rfl, htail⟩

variable {body : List Byte}

theorem stringLoop_of (hbody : StringBody body) (k : ℕ) (c : Capture) (rest : List Byte)
    (offset : ℕ) :
    stringLoop k .text c (body ++ 0x22 :: rest) offset
      = (.ok (c.addAll k (body ++ [0x22])), rest, offset + (body.length + 1)) := by
  induction hbody generalizing c offset with
  | nil => rfl
  | @plain b bs hlow hquote hback _ ih =>
    rw [List.cons_append, stringLoop]
    rw [if_neg hquote, if_neg (UInt8.not_lt.mpr hlow), if_pos hback, ih, List.cons_append,
      Capture.addAll_cons, List.length_cons]
    simp only [Prod.mk.injEq, true_and]
    omega
  | @escape e bs he _ ih =>
    simp only [List.cons_append]
    rw [stringLoop]
    rw [if_neg (by decide), if_neg (by decide), if_neg (by decide), stringLoop]
    rw [if_pos he, ih]
    simp only [Capture.addAll_cons, List.length_cons, Prod.mk.injEq, true_and]
    omega
  | @unicode h1 h2 h3 h4 bs hh1 hh2 hh3 hh4 _ ih =>
    simp only [List.cons_append]
    rw [stringLoop]
    rw [if_neg (by decide), if_neg (by decide), if_neg (by decide), stringLoop]
    rw [if_neg (by decide), if_pos rfl]
    simp only [stringLoop, hh1, hh2, hh3, hh4, Bool.not_true, Bool.false_eq_true, if_false, ih,
      Capture.addAll_cons, List.length_cons, Prod.mk.injEq, true_and]
    omega

theorem readString_of (hbody : StringBody body) (h : s.rest = body ++ 0x22 :: rest) :
    readString k s = (.ok (Capture.addAll k ⟨[0x22], false⟩ (body ++ [0x22])),
      s.past (body ++ [0x22]) rest) := by
  simp only [readString, h, stringLoop_of hbody, Scanner.past, List.length_append,
    List.length_cons, List.length_nil]

theorem readString_takes (k : ℕ) (s : Scanner) : Takes id (readString k) s fun c w _ =>
    ∃ body, StringBody body ∧ w = body ++ [0x22] ∧ c = Capture.addAll k ⟨[0x22], false⟩ w := by
  obtain ⟨w, hrest, hoffset, hpost⟩ := stringLoop_takes k .text ⟨[0x22], false⟩ s.rest s.offset
  exact ⟨w, ⟨hrest, hoffset, rfl, rfl⟩, hpost⟩

/-- **A string of the grammar is read.** -/
theorem parseString_of (hbody : StringBody body) (h : s.rest = 0x22 :: (body ++ 0x22 :: rest)) :
    parseString k s = (.ok (captured k body), s.past (0x22 :: (body ++ [0x22])) rest) := by
  rw [parseString, bind_of (expect_of h), bind_of (readString_of hbody rfl),
    Scanner.past_past, ← captured_eq]
  split <;> rfl

/-- **What is read as a string is one.** -/
theorem parseString_takes (k : ℕ) (s : Scanner) : Takes id (parseString k) s fun x w _ =>
    ∃ body, StringBody body ∧ x = captured k body ∧ w = 0x22 :: (body ++ [0x22]) := by
  refine (expect_takes _ s).bind ?_
  rintro - _ s1 - rfl
  refine (readString_takes k s1).bind ?_
  rintro c _ s2 - ⟨body, hbody, rfl, rfl⟩
  have hcaptured := captured_eq k body
  refine takes_ite (fun hover => takes_pure ⟨body, hbody, ?_, by simp⟩)
    fun hover => takes_pure ⟨body, hbody, ?_, by simp⟩
  · rwa [if_pos hover] at hcaptured
  · rwa [if_neg hover] at hcaptured

/-! ## Numbers -/

section Numbers

open NumberLiteral

theorem parseInteger_of {int : List Byte} (hint : Digits int)
    (hzero : int.head? = some 0x30 → int = [0x30]) (hrest : Stops isDigit rest)
    (h : s.rest = int ++ rest) : parseInteger s = (.ok (), s.past int rest) := by
  obtain ⟨hne, hdigits⟩ := hint
  cases int with
  | nil => exact absurd rfl hne
  | cons d ds =>
    rw [parseInteger, bind_of (peekByte_of h)]
    dsimp only
    by_cases hd : d = 0x30
    · obtain ⟨-, rfl⟩ := List.cons.inj (hzero (by rw [hd]; rfl))
      have hread : s.rest = d :: rest := h
      rw [if_pos hd, bind_of (readByte_of hread)]
      cases rest with
      | nil => rfl
      | cons b rest =>
        have hb : isDigit b = false := stops_cons.mp hrest
        have hnext : peekByte (s.past [d] (b :: rest)) = (.ok (some b), s.past [d] (b :: rest)) := rfl
        rw [bind_of hnext]
        dsimp only
        rw [if_neg (by simp [hb])]
        rfl
    · have hdigit := hdigits d List.mem_cons_self
      have hrange : 0x31 ≤ d ∧ d ≤ 0x39 := by
        simp only [isDigit, Bool.and_eq_true, decide_eq_true_eq] at hdigit
        grind
      rw [if_neg hd, if_pos hrange, bind_of (readWhile_of hdigits hrest h)]
      rfl

theorem parseInteger_takes (s : Scanner) : Takes id parseInteger s fun _ w _ =>
    Digits w ∧ (w.head? = some 0x30 → w = [0x30]) := by
  refine (peekByte_takes s).bind ?_
  rintro _ _ _ - ⟨rfl, rfl, rfl⟩
  cases hhead : s.rest.head? with
  | none => exact takes_fail (by simp)
  | some next =>
    refine takes_ite (fun hz => ?_) fun hz => takes_ite (fun hrange => ?_) fun _ => takes_fail (by simp)
    · refine (readByte_takes s).bind ?_
      rintro b _ s1 - ⟨rfl, hb⟩
      obtain rfl : b = 0x30 := (Option.some.inj (hb.symm.trans hhead)).trans hz
      have hdone : ∀ w : List Byte, w = [0x30] → Digits w ∧ (w.head? = some 0x30 → w = [0x30]) := by
        rintro _ rfl
        exact ⟨⟨by simp, by simp [isDigit]⟩, fun _ => rfl⟩
      refine (peekByte_takes s1).bind ?_
      rintro _ _ _ - ⟨rfl, rfl, rfl⟩
      cases s1.rest.head? with
      | none => exact takes_pure (hdone _ rfl)
      | some digit => exact takes_ite (fun _ => takes_fail (by simp)) fun _ => takes_pure (hdone _ rfl)
    · refine (readWhile_takes _ s).bind ?_
      rintro n w s1 hw ⟨-, hdigits, hstops⟩
      refine takes_pure ?_
      rw [List.append_nil, List.nil_append]
      cases w with
      | nil =>
        -- The loop has read nothing, so it stopped at a digit.
        rw [← hw.rest.trans (List.nil_append _)] at hstops
        have hno := hstops next hhead
        simp only [isDigit, Bool.and_eq_false_iff, decide_eq_false_iff_not] at hno
        grind
      | cons d ds =>
        refine ⟨⟨by simp, hdigits⟩, fun hd => ?_⟩
        rw [hw.rest] at hhead
        simp only [List.head?_cons, Option.some.injEq, List.cons_append] at hd hhead
        exact absurd (hhead.symm.trans hd) hz

theorem parseFraction_of {frac : Option (List Byte)} (hfrac : ∀ ds ∈ frac, Digits ds)
    (hrest : Stops isDigit rest) (hpoint : rest.head? ≠ some 0x2e)
    (h : s.rest = fracBytes frac ++ rest) :
    parseFraction s = (.ok (), s.past (fracBytes frac) rest) := by
  cases frac with
  | none =>
    have hpeek : peekByte s = (.ok rest.head?, s) := by
      rw [peekByte, h]
      rfl
    rw [parseFraction, bind_of hpeek, if_neg hpoint]
    obtain ⟨rest', offset, result, depth⟩ := s
    obtain rfl : rest' = rest := h
    rfl
  | some ds =>
    rw [parseFraction, bind_of (peekByte_of h), if_pos rfl, bind_of (readByte_of h),
      consumeDigits_of (hfrac ds rfl) hrest rfl, Scanner.past_past]
    rfl

theorem parseFraction_takes (s : Scanner) : Takes id parseFraction s fun _ w _ =>
    ∃ frac, (∀ ds ∈ frac, Digits ds) ∧ w = fracBytes frac := by
  refine (peekByte_takes s).bind ?_
  rintro _ _ _ - ⟨rfl, rfl, rfl⟩
  refine takes_ite (fun hpoint => ?_) fun _ => takes_pure ⟨none, by simp, rfl⟩
  refine (readByte_takes s).bind ?_
  rintro b _ s1 - ⟨rfl, hb⟩
  obtain rfl : b = 0x2e := Option.some.inj (hb.symm.trans hpoint)
  exact (consumeDigits_takes s1).mono fun _ ds _ _ hds => ⟨some ds, by simpa using hds, rfl⟩

/-- The sign of an exponent is one, and digits begin with none. -/
theorem sign_of_digits {sign : Option Byte} (hsign : ∀ b ∈ sign, b = 0x2b ∨ b = 0x2d)
    {ds : List Byte} (hds : Digits ds) :
    (((sign.toList ++ ds) ++ rest).head? = some 0x2b ∨
      ((sign.toList ++ ds) ++ rest).head? = some 0x2d) ↔ sign ≠ none := by
  obtain ⟨hne, hdigits⟩ := hds
  cases sign with
  | some b => simpa using hsign b rfl
  | none =>
    cases ds with
    | nil => exact absurd rfl hne
    | cons d ds =>
      have hd := hdigits d List.mem_cons_self
      simp only [isDigit, Bool.and_eq_true, decide_eq_true_eq] at hd
      simp only [Option.toList_none, List.nil_append, List.cons_append, List.head?_cons,
        Option.some.injEq, ne_eq, not_true_eq_false, iff_false]
      grind

theorem parseExponent_of {exp : Option (Byte × Option Byte × List Byte)}
    (hexp : ∀ e ∈ exp, (e.1 = 0x65 ∨ e.1 = 0x45) ∧ (∀ sign ∈ e.2.1, sign = 0x2b ∨ sign = 0x2d) ∧ Digits e.2.2)
    (hrest : Stops continues rest) (h : s.rest = expBytes exp ++ rest) :
    parseExponent s = (.ok (), s.past (expBytes exp) rest) := by
  have hdigits : Stops isDigit rest := fun b hb => by
    have := hrest b hb
    simp only [continues, Bool.or_eq_false_iff] at this
    exact this.1.1.1
  cases exp with
  | none =>
    have hpeek : peekByte s = (.ok rest.head?, s) := by
      rw [peekByte, h]
      rfl
    rw [parseExponent, bind_of hpeek, if_neg]
    · obtain ⟨rest', offset, result, depth⟩ := s
      obtain rfl : rest' = rest := h
      rfl
    · rintro (heq | heq) <;> simpa [continues] using hrest _ heq
  | some e =>
    obtain ⟨letter, sign, ds⟩ := e
    obtain ⟨hletter, hsign, hds⟩ := hexp (letter, sign, ds) rfl
    have hread : s.rest = letter :: ((sign.toList ++ ds) ++ rest) := h
    rw [parseExponent, bind_of (peekByte_of hread), if_pos (hletter.imp (congrArg some) (congrArg some)),
      bind_of (readByte_of hread)]
    have hpeek' : peekByte (s.past [letter] ((sign.toList ++ ds) ++ rest))
        = (.ok ((sign.toList ++ ds) ++ rest).head?, s.past [letter] ((sign.toList ++ ds) ++ rest)) :=
      rfl
    have hiff := @sign_of_digits rest sign hsign ds hds
    rw [bind_of hpeek']
    cases sign with
    | none =>
      rw [if_neg (fun hs => absurd rfl (hiff.mp hs))]
      refine (consumeDigits_of hds hdigits rfl).trans ?_
      rw [Scanner.past_past]
      rfl
    | some b =>
      have hread' : (s.past [letter] (((some b).toList ++ ds) ++ rest)).rest = b :: (ds ++ rest) := rfl
      rw [if_pos (hiff.mpr (by simp)), bind_of (readByte_of hread')]
      refine (consumeDigits_of hds hdigits rfl).trans ?_
      rw [Scanner.past_past, Scanner.past_past]
      rfl

theorem parseExponent_takes (s : Scanner) : Takes id parseExponent s fun _ w _ =>
    ∃ exp, (∀ e ∈ exp, (e.1 = 0x65 ∨ e.1 = 0x45) ∧
      (∀ sign ∈ e.2.1, sign = 0x2b ∨ sign = 0x2d) ∧ Digits e.2.2) ∧ w = expBytes exp := by
  refine (peekByte_takes s).bind ?_
  rintro _ _ _ - ⟨rfl, rfl, rfl⟩
  refine takes_ite (fun hletter => ?_) fun _ => takes_pure ⟨none, by simp, rfl⟩
  refine (readByte_takes s).bind ?_
  rintro letter _ s1 - ⟨rfl, hl⟩
  rw [hl] at hletter
  have hletter : letter = 0x65 ∨ letter = 0x45 := by simpa using hletter
  refine (peekByte_takes s1).bind ?_
  rintro _ _ _ - ⟨rfl, rfl, rfl⟩
  refine takes_ite (fun hsign => ?_) fun _ => ?_
  · refine (readByte_takes s1).bind ?_
    rintro b _ s2 - ⟨rfl, hb⟩
    rw [hb] at hsign
    have hsign : b = 0x2b ∨ b = 0x2d := by simpa using hsign
    refine (consumeDigits_takes s2).mono fun _ ds _ _ hds => ⟨some (letter, some b, ds), ?_, rfl⟩
    rintro e ⟨⟩
    exact ⟨hletter, by simpa using hsign, hds⟩
  · refine (consumeDigits_takes s1).mono fun _ ds _ _ hds => ⟨some (letter, none, ds), ?_, rfl⟩
    rintro e ⟨⟩
    exact ⟨hletter, by simp, hds⟩

/-- What follows the digits of a number does not go on with them. -/
theorem stops_expBytes {exp : Option (Byte × Option Byte × List Byte)}
    (hexp : ∀ e ∈ exp, e.1 = 0x65 ∨ e.1 = 0x45) (hrest : Stops continues rest) :
    Stops isDigit (expBytes exp ++ rest) ∧ (expBytes exp ++ rest).head? ≠ some 0x2e := by
  cases exp with
  | none =>
    refine ⟨fun b hb => ?_, fun hpoint => ?_⟩
    · have := hrest b hb
      simp only [continues, Bool.or_eq_false_iff] at this
      exact this.1.1.1
    · simpa [continues] using hrest _ hpoint
  | some e =>
    obtain ⟨letter, sign, ds⟩ := e
    rcases hexp (letter, sign, ds) rfl with hl | hl <;> simp only at hl <;> subst hl <;>
      exact ⟨stops_cons.mpr (by decide), by simp [expBytes]⟩

/-- **A number of the grammar is read**, if the text does not go on with it. -/
theorem parseNumber_of {n : NumberLiteral} (hn : n.WellFormed)
    (hrest : Stops continues rest) (h : s.rest = n.bytes ++ rest) :
    parseNumber s = (.ok (), s.past n.bytes rest) := by
  obtain ⟨minus, int, frac, exp⟩ := n
  obtain ⟨hexpDigits, hexpPoint⟩ :=
    @stops_expBytes rest exp (fun e he => (hn.exp e he).1) hrest
  have hafter : Stops isDigit (fracBytes frac ++ (expBytes exp ++ rest)) := by
    cases frac with
    | none => exact hexpDigits
    | some ds => exact stops_cons.mpr (by decide)
  -- The three parts after the sign.
  have hparts : ∀ s : Scanner, s.rest = int ++ (fracBytes frac ++ (expBytes exp ++ rest)) →
      (do parseInteger; parseFraction; parseExponent : Scan Unit) s
        = (.ok (), s.past (int ++ (fracBytes frac ++ expBytes exp)) rest) := by
    intro s hs
    rw [bind_of (parseInteger_of hn.int hn.zero hafter hs),
      bind_of (parseFraction_of hn.frac hexpDigits hexpPoint rfl),
      parseExponent_of hn.exp hrest rfl, Scanner.past_past, Scanner.past_past]
  cases minus with
  | true =>
    have hs : s.rest = 0x2d :: (int ++ (fracBytes frac ++ (expBytes exp ++ rest))) := by
      simpa [NumberLiteral.bytes, signBytes] using h
    rw [parseNumber, bind_of (peekByte_of hs), if_pos rfl, bind_of (readByte_of hs)]
    refine (hparts (s.past [0x2d] _) rfl).trans ?_
    rw [Scanner.past_past]
    rfl
  | false =>
    have hs : s.rest = int ++ (fracBytes frac ++ (expBytes exp ++ rest)) := by
      simpa [NumberLiteral.bytes, signBytes] using h
    have hpeek : ∃ o, peekByte s = (.ok o, s) ∧ o ≠ some 0x2d := by
      refine ⟨_, rfl, ?_⟩
      obtain ⟨hne, hdigits⟩ := hn.int
      cases int with
      | nil => exact absurd rfl hne
      | cons d ds =>
        have hd := hdigits d List.mem_cons_self
        rw [hs]
        rintro ⟨⟩
        exact absurd hd (by decide)
    obtain ⟨o, hpeek, hminus⟩ := hpeek
    rw [parseNumber, bind_of hpeek, if_neg hminus]
    exact hparts s hs

/-- **What is read as a number is one.** -/
theorem parseNumber_takes (s : Scanner) : Takes id parseNumber s fun _ w _ =>
    ∃ n : NumberLiteral, n.WellFormed ∧ w = n.bytes := by
  have hparts : ∀ (minus : Bool) (s : Scanner), Takes id (do parseInteger; parseFraction; parseExponent) s
      fun _ w _ => ∃ n : NumberLiteral, n.WellFormed ∧ signBytes minus ++ w = n.bytes := by
    intro minus s
    refine (parseInteger_takes s).bind ?_
    rintro - int s1 - ⟨hdigits, hzero⟩
    refine (parseFraction_takes s1).bind ?_
    rintro - _ s2 - ⟨frac, hfrac, rfl⟩
    refine (parseExponent_takes s2).mono ?_
    rintro - _ - - ⟨exp, hexp, rfl⟩
    exact ⟨⟨minus, int, frac, exp⟩, ⟨hdigits, hzero, hfrac, hexp⟩, rfl⟩
  refine (peekByte_takes s).bind ?_
  rintro _ _ _ - ⟨rfl, rfl, rfl⟩
  refine takes_ite (fun hminus => ?_) fun _ => hparts false s
  refine (readByte_takes s).bind ?_
  rintro b _ s1 - ⟨rfl, hb⟩
  obtain rfl : b = 0x2d := Option.some.inj (hb.symm.trans hminus)
  exact hparts true s1

end Numbers

end Responses
