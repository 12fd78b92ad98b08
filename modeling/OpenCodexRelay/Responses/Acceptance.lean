/-
  What the scanner accepts.

  The other direction: whatever is read to its end is a text of the grammar.  The inductions follow
  the programs, with the logic `Takes` of the lexical level: each reader gives back the piece of text
  that it read, and the loops put the pieces together.  On the way the bounds on which the model
  recurses turn out never to be met: a container is entered only below 512 levels, and each round of a
  loop reads at least one byte.

  1. `Sound`: what a parser of values has read is a value, and it returns what it is.
  2. The loops and the containers, given a sound parser of the values inside; for the root object the
     members are admissible.
  3. `parseValue_sound`, and with `scanDocument_of` the documents that are accepted.
-/
import OpenCodexRelay.Responses.Reading

namespace Responses

open Json

/-- Which of the two members of the root have been seen. -/
def RequestScan.seen (r : RequestScan) : Bool × Bool := (r.modelSeen, r.streamSeen)

/-- Above the lexical level the result changes on the way; what is known of it is said of successes. -/
abbrev Accepts {α : Type} (x : Scan α) (s : Scanner) (post : α → List Byte → Scanner → Prop) : Prop :=
  Takes (fun _ => ()) x s post

variable {s' : Scanner} {d k : ℕ} {r : RequestScan} {es : List Entry}

section Containers

variable {value : ValueContext → Bool → Scan ValueInfo} {ctx : ValueContext} {root : Bool} {n : ℕ}
variable {s : Scanner}

/-- **What a parser of values has read is a value**, and it returns what that is. -/
def Sound (value : ValueContext → Bool → Scan ValueInfo) (d k : ℕ) : Prop :=
  ∀ (ctx : ValueContext) (s : Scanner), s.depth = k → Accepts (value ctx false) s fun info w s' =>
    ∃ w₀ lit t, w = w₀ ++ lit ∧ Spaces w₀ ∧ Value d lit t ∧
      info = infoOf lit t (s.offset + w₀.length) ∧ s'.result.seen = s.result.seen

/-! ## Members and elements -/

/-- What the result of an object says of the members of the root, before and after some of them. -/
def Sees (root : Bool) (r : RequestScan) (es : List Entry) (r' : RequestScan) : Prop :=
  if root then Admissible r.modelSeen r.streamSeen es else r'.seen = r.seen

theorem admissible_of_seen {m st : Bool} (h : r.seen = (m, st))
    (hes : Admissible r.modelSeen r.streamSeen es) : Admissible m st es := by
  obtain ⟨rfl, rfl⟩ := Prod.mk.inj h
  exact hes

/-- A member that is noted is as the root demands. -/
theorem noteMember_takes {name lit : List Byte} {t : Tree} {start : ℕ} (hvalue : Value d lit t) :
    Accepts (noteMember ctx root (keyOf name) (infoOf lit t start)) s fun _ w s' => w = [] ∧
      (root = false → s'.result.seen = s.result.seen) ∧
      (root = true → EntryOk s.result.modelSeen s.result.streamSeen ⟨unquote name, lit, t⟩ ∧
        s'.result.seen = (s.result.modelSeen || unquote name == ascii "model",
          s.result.streamSeen || unquote name == ascii "stream")) := by
  unfold Accepts Takes noteMember
  cases root with
  | false => exact ⟨[], ⟨rfl, rfl, rfl, rfl⟩, rfl, fun _ => rfl, nofun⟩
  | true =>
    simp only [if_true]
    rcases heq : noteRoot (keyOf name) (infoOf lit t start) s.result with e | r
    · refine ⟨[], .refl s, fun hfuel => ?_⟩
      subst hfuel
      unfold noteRoot at heq
      split_ifs at heq <;> cases heq
    · obtain ⟨hok, rfl⟩ := noteRoot_inv (e := ⟨unquote name, lit, t⟩) rfl hvalue heq
      have hseen := member_seen s.result ctx ⟨unquote name, lit, t⟩ start
      exact ⟨[], ⟨rfl, rfl, rfl, rfl⟩, rfl, nofun, fun _ => ⟨hok, Prod.ext hseen.1 hseen.2⟩⟩

/-- **The loop of `parseObject` reads members**, and those of the root are admissible. -/
theorem objectLoop_takes (hv : Sound value d k) (hk : s.depth = k) (hn : s.rest.length < n) :
    Accepts (objectLoop value ctx root n) s fun _ w s' =>
      ∃ es, Members (Value d) w es ∧ Sees root s.result es s'.result := by
  induction n generalizing s with
  | zero => exact absurd hn (Nat.not_lt_zero _)
  | succ n ih =>
    rw [objectLoop_succ]
    refine (parseString_takes 256 s).lexical.bind ?_
    rintro _ _ s1 hmoves1 ⟨hresult1, name, hname, rfl, rfl⟩
    rw [captured_key]
    refine (skipWhitespace_takes s1).lexical.bind ?_
    rintro - w1 s2 hmoves2 ⟨hresult2, hw1, -⟩
    refine (expect_takes _ s2).lexical.bind ?_
    rintro - _ s3 hmoves3 ⟨hresult3, rfl⟩
    have hmoves := (hmoves1.trans hmoves2).trans hmoves3
    refine (hv _ s3 (hmoves.depth.trans hk)).bind ?_
    rintro _ _ s4 hmoves4 ⟨w2, lit, t, rfl, hw2, hvalue, rfl, hseen4⟩
    refine (noteMember_takes hvalue).bind ?_
    rintro - _ s5 hmoves5 ⟨rfl, hinside, hroot⟩
    refine (skipWhitespace_takes s5).lexical.bind ?_
    rintro - w s6 hmoves6 ⟨hresult6, hw, -⟩
    refine (readByte_takes s6).lexical.bind ?_
    rintro sep _ s7 hmoves7 ⟨hresult7, rfl, -⟩
    -- Neither the value nor what is around it changes what was seen of the root.
    have hseen : s4.result.seen = s.result.seen := by
      rw [hseen4, hresult3, hresult2, hresult1]
    have hmodel : s4.result.modelSeen = s.result.modelSeen := congrArg Prod.fst hseen
    have hstream : s4.result.streamSeen = s.result.streamSeen := congrArg Prod.snd hseen
    rw [hmodel, hstream] at hroot
    have hresult : s7.result = s5.result := hresult7.trans hresult6
    refine takes_ite (fun hbrace => takes_pure ⟨[⟨unquote name, lit, t⟩], ?_, ?_⟩) fun _ =>
      takes_ite (fun hcomma => ?_) fun _ => takes_fail nofun
    · subst hbrace
      simpa [memberText] using Members.last hname hw1 hw2 hvalue hw
    · cases root with
      | false => exact (congrArg RequestScan.seen hresult).trans ((hinside rfl).trans hseen)
      | true => exact admissible_cons.mpr ⟨(hroot rfl).1, admissible_nil _ _⟩
    subst hcomma
    refine (skipWhitespace_takes s7).lexical.bind ?_
    rintro - w' s8 hmoves8 ⟨hresult8, hw', -⟩
    have hchain := ((((hmoves.trans hmoves4).trans hmoves5).trans hmoves6).trans hmoves7).trans hmoves8
    have hlength := hchain.length_eq
    simp only [List.length_append, List.length_cons, List.length_nil] at hlength
    refine (ih (hchain.depth.trans hk) (by omega)).mono ?_
    rintro - body s9 - ⟨es, hbody, hsees⟩
    refine ⟨⟨unquote name, lit, t⟩ :: es, ?_, ?_⟩
    · simpa [memberText] using Members.more hname hw1 hw2 hvalue hw hw' hbody
    · rw [hresult8, hresult] at hsees
      cases root with
      | false => exact Eq.trans hsees ((hinside rfl).trans hseen)
      | true =>
        obtain ⟨hok, hnoted⟩ := hroot rfl
        exact admissible_cons.mpr ⟨hok, admissible_of_seen hnoted hsees⟩

theorem arrayLoop_takes (hv : Sound value d k) (hk : s.depth = k) (hn : s.rest.length < n) :
    Accepts (arrayLoop value ctx n) s fun _ w s' => ∃ w0 body ts, w = w0 ++ body ∧ Spaces w0 ∧
      Elements (Value d) body ts ∧ s'.result.seen = s.result.seen := by
  induction n generalizing s with
  | zero => exact absurd hn (Nat.not_lt_zero _)
  | succ n ih =>
    refine (hv _ s hk).bind ?_
    rintro - _ s1 hmoves1 ⟨w0, lit, t, rfl, hw0, hvalue, -, hseen1⟩
    refine (skipWhitespace_takes s1).lexical.bind ?_
    rintro - w s2 hmoves2 ⟨hresult2, hw, -⟩
    refine (readByte_takes s2).lexical.bind ?_
    rintro sep _ s3 hmoves3 ⟨hresult3, rfl, -⟩
    have hseen : s3.result.seen = s.result.seen := by
      rw [hresult3, hresult2, hseen1]
    refine takes_ite (fun hbracket => takes_pure ⟨w0, _, [t], ?_, hw0, .last hvalue hw, hseen⟩) fun _ =>
      takes_ite (fun hcomma => ?_) fun _ => takes_fail nofun
    · simp [hbracket]
    subst hcomma
    refine (skipWhitespace_takes s3).lexical.bind ?_
    rintro - w' s4 hmoves4 ⟨hresult4, hw', -⟩
    have hchain := ((hmoves1.trans hmoves2).trans hmoves3).trans hmoves4
    have hlength := hchain.length_eq
    simp only [List.length_append, List.length_cons, List.length_nil] at hlength
    refine (ih (hchain.depth.trans hk) (by omega)).mono ?_
    rintro - _ s5 - ⟨w'', body, ts, rfl, hw'', hbody, hseen5⟩
    have hspaces : Spaces (w' ++ w'') := List.forall_mem_append.mpr ⟨hw', hw''⟩
    refine ⟨w0, _, t :: ts, ?_, hw0, .more hvalue hw hspaces hbody, ?_⟩
    · simp
    · rw [hseen5, hresult4, hseen]

/-! ## Containers -/

/-- The inside of a container, one level deeper. -/
def inside (x : Scan Unit) : Scan Unit := fun s => leaving x s.deeper

theorem inside_takes {x : Scan Unit} {post : Unit → List Byte → Scanner → Prop}
    (h : Accepts x s.deeper fun u w s' => post u w { s' with depth := s'.depth - 1 }) :
    Accepts (inside x) s post := by
  obtain ⟨w, hw, hpost⟩ := h
  refine ⟨w, ⟨hw.rest, hw.offset, ?_, rfl⟩, hpost⟩
  show (x s.deeper).2.depth - 1 = s.depth
  rw [hw.depth]
  rfl

/-- **A container** is entered below 512 levels only. -/
theorem container_takes {b c : Byte} {x : Scan Unit} {post : Unit → List Byte → Scanner → Prop}
    (hempty : ∀ w s', s.depth < 512 → Spaces w → s'.result = s.result → post () (b :: (w ++ [c])) s')
    (hfull : ∀ w s', s.depth < 512 → Spaces w → s'.result = s.result → s'.depth = s.depth + 1 →
      Accepts x s' fun u w' s'' => post u (b :: (w ++ w')) { s'' with depth := s''.depth - 1 }) :
    Accepts (do enter b; leaving (closing c x)) s post := by
  have hsplit : (do enter b; leaving (closing c x)) s = (if 512 ≤ s.depth then Scan.fail .nesting else do
      expect b
      inside (closing c x)) s := by
    rw [Scan.bind_run, enter, Scan.bind_of (show currentDepth s = (.ok s.depth, s) from rfl)]
    by_cases hdepth : 512 ≤ s.depth
    · rw [if_pos hdepth, if_pos hdepth]
      rfl
    · rw [if_neg hdepth, if_neg hdepth, Scan.bind_run]
      rcases hexpect : expect b s with ⟨e | u, s'⟩
      · exact ((Scan.bind_run _ _ _).trans (by rw [hexpect])).symm
      · exact (Scan.bind_of (f := fun _ => inside (closing c x)) hexpect).symm
  refine takes_congr hsplit (takes_ite (fun _ => takes_fail (by simp)) fun hdepth => ?_)
  have hdepth := Nat.not_le.mp hdepth
  refine (expect_takes b s).lexical.bind ?_
  rintro - _ s1 hmoves1 ⟨hresult1, rfl⟩
  refine inside_takes ((skipWhitespace_takes _).lexical.bind ?_)
  rintro - w s2 hmoves2 ⟨hresult2, hw, -⟩
  have hresult : s2.result = s.result := hresult2.trans hresult1
  refine (peekByte_takes s2).lexical.bind ?_
  rintro _ _ _ - ⟨-, rfl, rfl, rfl⟩
  refine takes_ite (fun hc => ?_) fun _ =>
    hfull w s2 hdepth hw hresult (hmoves2.depth.trans (congrArg (· + 1) hmoves1.depth))
  refine (readByte_takes s2).lexical.bind ?_
  rintro b' _ s3 - ⟨hresult3, rfl, hb'⟩
  obtain rfl : b' = c := Option.some.inj (hb'.symm.trans hc)
  exact takes_pure (hempty w _ hdepth hw (hresult3.trans hresult))

theorem parseObject_takes (hv : k < 512 → Sound value d (k + 1)) (hk : s.depth = k) :
    Accepts (parseObject value ctx root) s fun _ w s' =>
      k < 512 ∧ ∃ es, ObjectText (Value d) w es ∧ Sees root s.result es s'.result := by
  rw [parseObject_eq]
  refine container_takes (fun w s' hlt hw hs' => ⟨hk ▸ hlt, [], .empty hw, ?_⟩)
    fun w s1 hlt hw hs1 hdepth => ?_
  · rw [hs']
    cases root with
    | false => exact rfl
    | true => exact admissible_nil _ _
  · refine takes_congr (show objectMembers value ctx root s1 = objectLoop value ctx root _ s1 from rfl)
      ((objectLoop_takes (hv (hk ▸ hlt)) (hdepth.trans (congrArg (· + 1) hk)) (Nat.lt_succ_self _)).mono ?_)
    rintro - body s' - ⟨es, hm, hsees⟩
    exact ⟨hk ▸ hlt, es, .members hw hm, hs1 ▸ hsees⟩

theorem parseArray_takes (hv : k < 512 → Sound value d (k + 1)) (hk : s.depth = k) :
    Accepts (parseArray value ctx) s fun _ w s' =>
      k < 512 ∧ ∃ ts, ArrayText (Value d) w ts ∧ s'.result.seen = s.result.seen := by
  rw [parseArray_eq]
  refine container_takes (fun w s' hlt hw hs' => ⟨hk ▸ hlt, [], .empty hw, congrArg _ hs'⟩)
    fun w s1 hlt hw hs1 hdepth => ?_
  refine takes_congr (show arrayElements value ctx s1 = arrayLoop value ctx _ s1 from rfl)
    ((arrayLoop_takes (hv (hk ▸ hlt)) (hdepth.trans (congrArg (· + 1) hk)) (Nat.lt_succ_self _)).mono ?_)
  rintro - _ s' - ⟨w', body, ts, rfl, hw', hbody, hseen⟩
  have hspaces : Spaces (w ++ w') := List.forall_mem_append.mpr ⟨hw, hw'⟩
  refine ⟨hk ▸ hlt, ts, ?_, hs1 ▸ hseen⟩
  rw [← List.append_assoc]
  exact .items hspaces hbody

/-- Whichever way the members of the root are read: if they are accepted, they are admissible. -/
theorem objectLoop_admissible (hv : Complete value d k) {body tail : List Byte}
    (hm : Members (Value d) body es) (hk : s.depth = k) (hrest : s.rest = body ++ tail) {u : Unit}
    (h : objectLoop value ctx true n s = (.ok u, s')) :
    Admissible s.result.modelSeen s.result.streamSeen es := by
  induction hm generalizing s n with
  | @last name w1 w2 lit w t hname hw1 hw2 hvalue hw =>
    cases n with
    | zero => cases h
    | succ n =>
      have hshape : s.rest = memberText name w1 w2 lit (w ++ 0x7d :: tail) := by
        rw [hrest]
        simp [memberText]
      rw [memberRound_value hv hk hname hw1 hw2 hvalue hw (.inl rfl) hshape] at h
      obtain ⟨_, s1, hnote, -⟩ := Scan.bind_inv h
      obtain ⟨_, -, -, -, hroot⟩ := (noteMember_takes hvalue).ok hnote
      exact admissible_cons.mpr ⟨(hroot rfl).1, admissible_nil _ _⟩
  | @more name w1 w2 lit w w' body t es hname hw1 hw2 hvalue hw hw' hbody ih =>
    cases n with
    | zero => cases h
    | succ n =>
      have hshape : s.rest = memberText name w1 w2 lit (w ++ 0x2c :: (w' ++ (body ++ tail))) := by
        rw [hrest]
        simp [memberText]
      rw [memberRound_value hv hk hname hw1 hw2 hvalue hw (.inr rfl) hshape] at h
      obtain ⟨_, s1, hnote, h⟩ := Scan.bind_inv h
      obtain ⟨_, hmoves, rfl, -, hroot⟩ := (noteMember_takes hvalue).ok hnote
      obtain ⟨hok, hseen⟩ := hroot rfl
      have hrest1 : s1.rest = w ++ 0x2c :: (w' ++ (body ++ tail)) := hmoves.rest.symm
      rw [memberEnd_of hw (.inr rfl) hrest1, if_neg (by decide),
        Scan.bind_of (skipWhitespace_of hw' hbody.stops rfl)] at h
      have hafter := ih (by exact hmoves.depth.trans hk) rfl h
      exact admissible_cons.mpr ⟨hok, admissible_of_seen hseen hafter⟩

theorem parseObject_admissible (hdepth : k < 512) (hv : Complete value d (k + 1))
    {lit tail : List Byte} (ho : ObjectText (Value d) lit es) (hk : s.depth = k)
    (hrest : s.rest = lit ++ tail) {u : Unit} (h : parseObject value ctx true s = (.ok u, s')) :
    Admissible s.result.modelSeen s.result.streamSeen es := by
  cases ho with
  | empty => exact admissible_nil _ _
  | @members w body es hw hm =>
    rw [parseObject_eq, container_full (hk ▸ hdepth) hw hm.stops (Members.head hm) (by simpa using hrest),
      leaving] at h
    rcases hrun : objectMembers value ctx true (s.past (0x7b :: w) (body ++ tail)).deeper with ⟨r, s1⟩
    rw [hrun] at h
    obtain ⟨rfl, -⟩ := Prod.mk.inj h
    exact objectLoop_admissible (s := (s.past (0x7b :: w) (body ++ tail)).deeper) hv hm
      (congrArg (· + 1) hk) rfl hrun

/-! ## Values -/

/-- What is returned for a value that was read. -/
theorem valueInfo_takes {α : Type} {x : Scan α} {kind : ValueKind} {text : α → List Byte} {b : Bool}
    {V : List Byte → Tree → Prop} (h : Accepts x s fun a w s' => ∃ t, V w t ∧
      infoOf w t s.offset = ⟨kind, text a, b, s.offset, s.offset + w.length⟩ ∧
      s'.result.seen = s.result.seen) :
    Accepts (x >>= fun a => valueInfo kind (text a) b s.offset) s fun info w s' => ∃ t, V w t ∧
      info = infoOf w t s.offset ∧ s'.result.seen = s.result.seen := by
  refine h.bind ?_
  rintro a w s' hmoves ⟨t, hV, hinfo, hseen⟩
  refine takes_of rfl (.refl s') ⟨t, ?_⟩
  rw [List.append_nil, hinfo, ← hmoves.offset]
  exact ⟨hV, rfl, hseen⟩

/-- **What is read as a value is one**: a scalar, or a container, which is entered below 512 levels
    only. -/
theorem valueAt_takes (hv : k < 512 → Sound value d (k + 1)) (hk : s.depth = k) (b : Byte) :
    Accepts (valueAt value ctx false s.offset b) s fun info w s' =>
      ∃ t, (Scalar w t ∨ k < 512 ∧ Container (Value d) w t) ∧ info = infoOf w t s.offset ∧
        s'.result.seen = s.result.seen := by
  have hliteral : ∀ (literal : List Byte) (t : Tree), Scalar literal t →
      Accepts (consumeLiteral literal) s fun _ w s' => ∃ t', Scalar w t' ∧ (w = literal ∧ t' = t) ∧
        s'.result.seen = s.result.seen := by
    intro literal t ht
    refine (consumeLiteral_takes literal s).lexical.mono ?_
    rintro - _ s' - ⟨hresult, rfl⟩
    exact ⟨t, ht, ⟨rfl, rfl⟩, congrArg _ hresult⟩
  refine takes_ite (fun _ => valueInfo_takes ?_) fun _ => takes_ite (fun _ => valueInfo_takes ?_) fun _ =>
    takes_ite (fun _ => valueInfo_takes ?_) fun _ => takes_ite (fun _ => valueInfo_takes ?_) fun _ =>
    takes_ite (fun _ => valueInfo_takes ?_) fun _ => takes_ite (fun _ => valueInfo_takes ?_) fun _ =>
    takes_ite (fun _ => valueInfo_takes ?_) fun _ => takes_fail nofun
  · refine (parseObject_takes hv hk).mono ?_
    rintro - lit s' - ⟨hlt, es, ho, hseen⟩
    exact ⟨_, .inr ⟨hlt, .object ho⟩, rfl, hseen⟩
  · refine (parseArray_takes hv hk).mono ?_
    rintro - lit s' - ⟨hlt, ts, ha, hseen⟩
    exact ⟨_, .inr ⟨hlt, .array ha⟩, rfl, hseen⟩
  · refine (parseString_takes 4096 s).lexical.mono ?_
    rintro _ _ s' - ⟨hresult, body, hbody, rfl, rfl⟩
    refine ⟨_, .inl (.string hbody), ?_, congrArg _ hresult⟩
    rw [captured_text]
    rfl
  · refine (hliteral _ _ .true).mono ?_
    rintro - _ s' - ⟨_, ht, ⟨rfl, rfl⟩, hseen⟩
    exact ⟨_, .inl ht, rfl, hseen⟩
  · refine (hliteral _ _ .false).mono ?_
    rintro - _ s' - ⟨_, ht, ⟨rfl, rfl⟩, hseen⟩
    exact ⟨_, .inl ht, rfl, hseen⟩
  · refine (hliteral _ _ .null).mono ?_
    rintro - _ s' - ⟨_, ht, ⟨rfl, rfl⟩, hseen⟩
    exact ⟨_, .inl ht, rfl, hseen⟩
  · refine (parseNumber_takes s).lexical.mono ?_
    rintro - _ s' - ⟨hresult, n, hn, rfl⟩
    exact ⟨_, .inl (.number hn), rfl, congrArg _ hresult⟩

theorem parseValueWith_takes (hv : k < 512 → Sound value d (k + 1)) (hk : s.depth = k) :
    Accepts (parseValueWith value ctx false) s fun info w s' => ∃ w0 lit t, w = w0 ++ lit ∧ Spaces w0 ∧
      (Scalar lit t ∨ k < 512 ∧ Container (Value d) lit t) ∧
      info = infoOf lit t (s.offset + w0.length) ∧ s'.result.seen = s.result.seen := by
  refine (skipWhitespace_takes s).lexical.bind ?_
  rintro - w s1 hmoves ⟨hresult, hw, -⟩
  have hoffset : Accepts currentOffset s1 fun start w s' => start = s1.offset ∧ w = [] ∧ s1 = s' :=
    takes_of rfl (.refl s1) ⟨rfl, rfl, rfl⟩
  refine hoffset.bind ?_
  rintro _ _ _ - ⟨rfl, rfl, rfl⟩
  refine (peekByte_takes s1).lexical.bind ?_
  rintro next _ _ - ⟨-, -, rfl, rfl⟩
  cases next with
  | none => exact takes_fail nofun
  | some b =>
    refine (valueAt_takes hv (hmoves.depth.trans hk) b).mono ?_
    rintro info lit s' - ⟨t, hvalue, hinfo, hseen⟩
    rw [hmoves.offset] at hinfo
    exact ⟨w, lit, t, rfl, hw, hvalue, hinfo, hseen.trans (congrArg _ hresult)⟩

end Containers

theorem parseValue_sound (h : d + k = 512) : Sound (parseValue d) d k := by
  induction d generalizing k with
  | zero =>
    intro ctx s hk
    refine (parseValueWith_takes (d := 0) (fun hlt => absurd hlt (by omega)) hk).mono ?_
    rintro info _ s' - ⟨w0, lit, t, rfl, hw0, hvalue, hinfo⟩
    exact ⟨w0, lit, t, rfl, hw0, hvalue.resolve_right fun hlt => by omega, hinfo⟩
  | succ d ih =>
    intro ctx s hk
    refine (parseValueWith_takes (fun _ => ih (by omega)) hk).mono ?_
    rintro info _ s' - ⟨w0, lit, t, rfl, hw0, hvalue, hinfo⟩
    exact ⟨w0, lit, t, rfl, hw0, hvalue.imp id And.right, hinfo⟩

/-! ## The document -/

/-- **Whatever is accepted is a document with admissible members.** -/
theorem scanDocument_takes (bytes : List Byte) : Accepts scanDocument (.start bytes) fun _ _ _ =>
    ∃ es, Document 511 bytes es ∧ Admissible false false es := by
  refine (skipWhitespace_takes _).lexical.bind ?_
  rintro - w s1 hmoves1 ⟨hresult1, hw, -⟩
  refine (peekByte_takes s1).lexical.bind ?_
  rintro _ _ _ - ⟨-, rfl, rfl, rfl⟩
  refine takes_ite (fun _ => takes_fail nofun) fun hbrace => ?_
  obtain ⟨rest, hrest⟩ : ∃ rest, s1.rest = 0x7b :: rest := by
    have hhead := not_not.mp hbrace
    cases heq : s1.rest with
    | nil => rw [heq] at hhead; cases hhead
    | cons b rest =>
      rw [heq] at hhead
      exact ⟨rest, by rw [Option.some.inj hhead]⟩
  have hroot : Accepts (parseValue 512 .zero true) s1 fun _ lit _ =>
      ∃ es, ObjectText (Value 511) lit es ∧ Admissible false false es := by
    refine takes_congr (parseValue_root hrest)
      ((parseObject_takes (fun _ => parseValue_sound (by rfl)) hmoves1.depth).bind ?_)
    rintro - lit s2 - ⟨-, es, ho, hadmissible⟩
    rw [hresult1] at hadmissible
    refine takes_of rfl (.refl s2) ⟨es, ?_, hadmissible⟩
    rwa [List.append_nil]
  refine hroot.bind ?_
  rintro - lit s2 hmoves2 ⟨es, ho, hadmissible⟩
  refine (skipWhitespace_takes s2).lexical.bind ?_
  rintro - w' s3 hmoves3 ⟨-, hw', -⟩
  refine (peekByte_takes s3).lexical.bind ?_
  rintro next _ _ - ⟨-, hnext, rfl, rfl⟩
  cases next with
  | some b => exact takes_fail nofun
  | none =>
    refine takes_of rfl (.refl s3) ⟨es, ⟨w, lit, w', hw, ho, hw', ?_⟩, hadmissible⟩
    have hbytes : bytes = _ := ((hmoves1.trans hmoves2).trans hmoves3).rest
    rw [List.head?_eq_none_iff.mp hnext.symm] at hbytes
    simpa using hbytes

theorem scanDocument_inv {bytes : List Byte} (h : scanDocument (.start bytes) = (.ok r, s')) :
    ∃ es, Document 511 bytes es ∧ Admissible false false es :=
  ((scanDocument_takes bytes).ok h).choose_spec.2

/-- An accepted document is admissible in whichever way it is read. -/
theorem admissible_of_scan {bytes : List Byte} (hdocument : Document 511 bytes es)
    (h : scanDocument (.start bytes) = (.ok r, s')) :
    Admissible false false es := by
  obtain ⟨w, lit, w', hw, ho, -, rfl⟩ := hdocument
  rw [scanDocument_at hw ho] at h
  obtain ⟨_, s1, hvalue, -⟩ := Scan.bind_inv h
  obtain ⟨_, s2, hobject, -⟩ := Scan.bind_inv hvalue
  exact parseObject_admissible (k := 0) (by decide) (parseValue_complete (by rfl)) ho rfl rfl hobject

/-- **What `scanResponsesRequest` accepts.**  It succeeds exactly on the texts of one object with at
    most 512 nested containers, whitespace around it, whose members `model` and `stream` are
    admissible; and whatever it meets, it comes to an end by a cause of its own, having read every byte
    at most once: what is left of the text is what is behind the offset. -/
theorem scanResponsesRequest_accepts (bytes : List Byte) :
    ((∃ r, scanResponsesRequest bytes = .ok r) ↔
      ∃ es, Document 511 bytes es ∧ Admissible false false es) ∧
    (scanDocument (.start bytes)).1 ≠ .error .outOfFuel ∧
    (scanDocument (.start bytes)).2.offset ≤ bytes.length ∧
    (scanDocument (.start bytes)).2.rest = bytes.drop (scanDocument (.start bytes)).2.offset := by
  obtain ⟨w, hmoves, hends⟩ := scanDocument_takes bytes
  have hbytes : bytes = w ++ (scanDocument (.start bytes)).2.rest := hmoves.rest
  have hoffset : (scanDocument (.start bytes)).2.offset = w.length :=
    hmoves.offset.trans (Nat.zero_add _)
  refine ⟨⟨?_, ?_⟩, fun hfuel => ?_, ?_, ?_⟩
  · rintro ⟨r, hr⟩
    rcases hrun : scanDocument (.start bytes) with ⟨e | r', s'⟩
    · rw [scanResponsesRequest, hrun] at hr
      cases hr
    · exact scanDocument_inv hrun
  · rintro ⟨es, hdocument, hadmissible⟩
    obtain ⟨r, s', hrun, -⟩ := scanDocument_of hdocument hadmissible
    exact ⟨r, by rw [scanResponsesRequest, hrun]⟩
  · rw [hfuel] at hends
    exact hends rfl
  · rw [hoffset]
    calc w.length ≤ (w ++ (scanDocument (.start bytes)).2.rest).length := by simp
      _ = bytes.length := by rw [← hbytes]
  · rw [hoffset]
    nth_rewrite 2 [hbytes]
    simp

end Responses
