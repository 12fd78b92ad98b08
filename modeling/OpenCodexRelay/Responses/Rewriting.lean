/-
  The stream rewrite — what `PrepareRequest` hands over when it normalizes a request.

  The rewriting puts `false` where the root's `stream` was `true`, one byte more than there was, and
  checks the result against limits of its own: the decoded limit for what it wrote, and for a
  compressed body the encoded limit for what comes of compressing it again.

  1. `Received`: a body that comes through up to the scan.  From there on only the policy decides.
  2. `accepts_iff`: when a body that can be passed through can be normalized as well.
  3. `scan_rewritten`: the scan of the rewritten body finds the same but for `stream`.
  4. `prepared_iff`: what is handed over, and when it can be prepared again.
-/
import OpenCodexRelay.Responses.Preparing

namespace Responses

open Json
open PreparedRequest (action view)
open RequestScan (mark mk unplaced withRoot zero)

/-! ## Up to the scan -/

/-- **A body that comes through up to the scan**: how it is encoded, the bytes that are gathered and
    decoded, and what the scan finds. -/
structure Received {ε : Type} (env : Env) (limits : Limits) (reads : Chunks ε) (contentEncoding : List Byte)
    (encoding : Encoding) (original decoded : List Byte) (scan : RequestScan) : Prop where
  classified : classifyContentEncoding (ε := ε) env contentEncoding = .ok encoding
  gathered : gather limits.maxEncodedBytes .encoded [] reads = .ok original
  decodes : decodeContent (ε := ε) env limits original encoding = .ok decoded
  scanned : scanResponsesRequest decoded = .ok scan

variable {encoding : Encoding} {decoded : List Byte} {env : Env} {limits : Limits} {α ε : Type}
variable {scan r : RequestScan} {x : Except ε α} {reads : Chunks ε} {policy : Policy}

section Rewriting

variable {contentEncoding : List Byte} {original : List Byte}

/-- The rest is the last stage. -/
theorem Received.prepares (h : Received env limits reads contentEncoding encoding original decoded scan)
    (policy : Policy) :
    prepareContent env limits (gather limits.maxEncodedBytes .encoded [] reads) contentEncoding policy =
      handOverContent env limits encoding contentEncoding policy original decoded scan := by
  obtain ⟨hencoding, horiginal, hdecoded, hscan⟩ := h
  simp only [prepareContent, hencoding, horiginal]
  simp only [bind, Except.bind, Except.mapError, hdecoded, hscan]

theorem bind_ok {β : Type} {f : α → Except ε β} {b : β} (h : x.bind f = .ok b) :
    ∃ a, x = .ok a ∧ f a = .ok b := by
  cases x with
  | error e => cases h
  | ok a => exact ⟨a, rfl, h⟩

theorem mapError_ok {ε' : Type} {f : ε → ε'} {a : α} :
    x.mapError f = .ok a ↔ x = .ok a := by
  constructor
  · intro h
    cases x with
    | ok b => exact congrArg Except.ok (Except.ok.inj h)
    | error e => cases h
  · rintro rfl
    rfl

theorem received_of_prepareContent {q : PreparedRequest (List Byte)}
    (h : prepareContent env limits (gather limits.maxEncodedBytes .encoded [] reads) contentEncoding policy = .ok q) :
    ∃ encoding original decoded scan,
      Received env limits reads contentEncoding encoding original decoded scan := by
  obtain ⟨encoding, hencoding, h⟩ := bind_ok h
  obtain ⟨original, horiginal, h⟩ := bind_ok h
  obtain ⟨decoded, hdecoded, h⟩ := bind_ok h
  obtain ⟨scan, hscan, -⟩ := bind_ok h
  exact ⟨encoding, original, decoded, scan, hencoding, mapError_ok.mp horiginal, hdecoded, mapError_ok.mp hscan⟩

/-- What was prepared came through up to the scan, and shows what the last stage makes of it. -/
theorem exists_received (hlive : env.Live) {p : PreparedRequest Body}
    (h : prepareRequest env limits (some reads) contentEncoding policy = .ok p) :
    limits.validate = true ∧ ∃ encoding original decoded scan,
      Received env limits reads contentEncoding encoding original decoded scan ∧
      handOverContent (ε := ε) env limits encoding contentEncoding policy original decoded scan =
        .ok p.view := by
  have hvalid : limits.validate = true := by
    by_contra hnot
    rw [prepareRequest, if_pos (Bool.eq_false_iff.mpr hnot)] at h
    cases h
  have hview := (prepareRequest_agree hlive hvalid reads contentEncoding policy).view_eq
  rw [h] at hview
  obtain ⟨encoding, original, decoded, scan, hreceived⟩ := received_of_prepareContent hview.symm
  exact ⟨hvalid, encoding, original, decoded, scan, hreceived, (hreceived.prepares policy).symm.trans hview.symm⟩

/-- A body that comes through is prepared just if the last stage takes it. -/
theorem Received.prepares_iff (hlive : env.Live) (hvalid : limits.validate = true)
    (h : Received env limits reads contentEncoding encoding original decoded scan) (policy : Policy)
    (q : PreparedRequest (List Byte)) :
    (∃ p, prepareRequest env limits (some reads) contentEncoding policy = .ok p ∧ p.view = q) ↔
      handOverContent (ε := ε) env limits encoding contentEncoding policy original decoded scan = .ok q := by
  have hview := (prepareRequest_agree hlive hvalid reads contentEncoding policy).view_eq
  rw [← h.prepares policy, ← hview]
  cases prepareRequest env limits (some reads) contentEncoding policy <;> simp [Except.map]

/-! ## What the rewriting demands -/

/-- **The rewriting is within its limits.** -/
def RewriteFits (env : Env) (limits : Limits) (encoding : Encoding) (decoded : List Byte)
    (scan : RequestScan) : Prop :=
  (decoded.length + 1 : ℤ) ≤ limits.maxDecodedBytes ∧
    (encoding = .zstd → env.zstd.newWriter limits.zstdMaxWindowBytes = none ∧
      ((env.zstd.encodeAll limits.zstdMaxWindowBytes (rewritten decoded scan)).length : ℤ) ≤
        limits.maxEncodedBytes)

/-- What is handed over for a body. -/
def encodedAs (env : Env) (limits : Limits) (content : List Byte) : Encoding → List Byte
  | .identity => content
  | .zstd => env.zstd.encodeAll limits.zstdMaxWindowBytes content

/-- The request that is handed over after rewriting. -/
def rewrittenRequest (env : Env) (limits : Limits) (encoding : Encoding) (policy : Policy)
    (original decoded : List Byte) (scan : RequestScan) : PreparedRequest (List Byte) :=
  let body := encodedAs env limits (rewritten decoded scan) encoding
  { baseRequest env .normalize body original.length decoded.length scan policy false with
    contentEncoding := if encoding = .zstd then ascii "zstd" else []
    contentLength := body.length }

theorem length_rewritten (hscan : scanResponsesRequest decoded = .ok scan) (hstream : scan.stream = true) :
    (rewritten decoded scan).length = decoded.length + 1 := by
  obtain ⟨es, pre, post, -, hslot⟩ := scan_slot hscan hstream
  rw [rewritten_eq hslot, hslot.text_eq]
  simp only [List.length_append]
  have htrue : (ascii "true").length = 4 := by decide
  have hfalse : (ascii "false").length = 5 := by decide
  omega

theorem appendWithin_nil_ok {limit : ℤ} {limitError : SizeLimit} {data bytes : List Byte} :
    appendWithin (ε := ε) limit limitError [] data = .ok bytes ↔ (data.length : ℤ) ≤ limit ∧ bytes = data := by
  unfold appendWithin
  split_ifs with h <;> simp_all [eq_comm]

/-- **The last stage, when it is to normalize.** -/
theorem handOverContent_normalize (hscan : scanResponsesRequest decoded = .ok scan)
    (hnormalize : chooseAction env.toLower policy scan = .normalize)
    (contentEncoding original : List Byte) (q : PreparedRequest (List Byte)) :
    handOverContent (ε := ε) env limits encoding contentEncoding policy original decoded scan = .ok q ↔
      RewriteFits env limits encoding decoded scan ∧
        q = rewrittenRequest env limits encoding policy original decoded scan := by
  have hlength := length_rewritten hscan (stream_of_normalize hnormalize)
  have hfits : ((rewritten decoded scan).length : ℤ) ≤ limits.maxDecodedBytes ↔
      (decoded.length + 1 : ℤ) ≤ limits.maxDecodedBytes := by
    rw [hlength]
    omega
  simp only [handOverContent, hnormalize, ne_eq, not_true_eq_false, if_false]
  constructor
  · intro h
    obtain ⟨content, hcontent, h⟩ := bind_ok h
    obtain ⟨hwithin, rfl⟩ := appendWithin_nil_ok.mp (mapError_ok.mp hcontent)
    obtain ⟨body, hbody, h⟩ := bind_ok h
    cases encoding with
    | identity =>
      cases hbody
      cases h
      exact ⟨⟨hfits.mp hwithin, nofun⟩, rfl⟩
    | zstd =>
      simp only [encodeContent] at hbody
      split at hbody
      · cases hbody
      · rename_i hwriter
        obtain ⟨hencoded, rfl⟩ := appendWithin_nil_ok.mp (mapError_ok.mp hbody)
        cases h
        exact ⟨⟨hfits.mp hwithin, fun _ => ⟨hwriter, hencoded⟩⟩, rfl⟩
  · rintro ⟨⟨hwithin, hzstd⟩, rfl⟩
    have hcontent : appendWithin (ε := ε) limits.maxDecodedBytes .decoded [] (rewritten decoded scan) =
        .ok (rewritten decoded scan) := appendWithin_nil_ok.mpr ⟨hfits.mpr hwithin, rfl⟩
    have hbody : encodeContent (ε := ε) env limits (rewritten decoded scan) encoding =
        .ok (encodedAs env limits (rewritten decoded scan) encoding) := by
      cases encoding with
      | identity => rfl
      | zstd =>
        obtain ⟨hwriter, hencoded⟩ := hzstd rfl
        simp only [encodeContent, hwriter]
        exact mapError_ok.mpr (appendWithin_nil_ok.mpr ⟨hencoded, rfl⟩)
    rw [hcontent]
    show (encodeContent (ε := ε) env limits (rewritten decoded scan) encoding).bind _ = _
    rw [hbody]
    rfl

/-- The last stage, when it is not. -/
theorem handOverContent_other (hother : chooseAction env.toLower policy scan ≠ .normalize)
    (contentEncoding original : List Byte) :
    handOverContent (ε := ε) env limits encoding contentEncoding policy original decoded scan =
      .ok { baseRequest env (chooseAction env.toLower policy scan) original original.length decoded.length scan
        policy false with contentEncoding := contentEncoding, contentLength := original.length } := by
  rw [handOverContent, if_pos hother]

end Rewriting

/-- **When normalizing takes what passing through takes.**  Of a body that is prepared under one policy,
    such as one that matches no model, the same call under another is refused just if it is to
    normalize and the rewriting is not within its limits. -/
theorem accepts_iff {ε : Type} {env : Env} (hlive : env.Live) (limits : Limits) (body : Option (Chunks ε))
    (contentEncoding : List Byte) {passing : Policy} {p : PreparedRequest Body}
    (h : prepareRequest env limits body contentEncoding passing = .ok p) :
    ∃ reads encoding original decoded scan, body = some reads ∧
      Received env limits reads contentEncoding encoding original decoded scan ∧
      ∀ policy, (∃ q, prepareRequest env limits body contentEncoding policy = .ok q) ↔
        (chooseAction env.toLower policy scan = .normalize → RewriteFits env limits encoding decoded scan) := by
  cases body with
  | none =>
    unfold prepareRequest at h
    split at h <;> cases h
  | some reads =>
    obtain ⟨hvalid, encoding, original, decoded, scan, hreceived, -⟩ := exists_received hlive h
    refine ⟨reads, encoding, original, decoded, scan, rfl, hreceived, fun policy => ?_⟩
    have hprepared := hreceived.prepares_iff hlive hvalid policy
    have hany : (∃ q, prepareRequest env limits (some reads) contentEncoding policy = .ok q) ↔
        ∃ q, handOverContent (ε := ε) env limits encoding contentEncoding policy original decoded scan = .ok q := by
      simp only [← hprepared]
      exact ⟨fun ⟨p, hp⟩ => ⟨_, p, hp, rfl⟩, fun ⟨_, p, hp, _⟩ => ⟨p, hp⟩⟩
    rw [hany]
    by_cases hnormalize : chooseAction env.toLower policy scan = .normalize
    · simp only [handOverContent_normalize hreceived.scanned hnormalize, hnormalize, true_imp_iff,
        exists_and_left, exists_eq, and_true]
    · rw [handOverContent_other hnormalize]
      simp [hnormalize]

/-- A body as long as the decoded limit passes through, but is not normalized. -/
theorem longest_body_refused :
    let limits := { defaultLimits with maxDecodedBytes := 27 }
    let prepared (policy : Policy) := prepareRequest (ε := Empty) storing limits (some [(streamingBody, none)])
      [] policy
    (prepared ⟨[]⟩).map (fun p => (p.action, p.view.body)) = .ok (.passthrough, streamingBody) ∧
      (prepared namingPolicy).map view = .error (.storage (.tooLarge .decoded 27)) := by
  decide +kernel

theorem exists_of_isOk (h : x.isOk = true) : ∃ a, x = .ok a := by
  cases x with
  | ok a => exact ⟨a, rfl⟩
  | error e => cases h

/-- One byte more, and it is. -/
theorem accepts_iff_roomy :
    ∃ q, prepareRequest (ε := Empty) storing { defaultLimits with maxDecodedBytes := 28 }
      (some [(streamingBody, none)]) [] namingPolicy = .ok q := by
  obtain ⟨p, hp⟩ : ∃ p, prepareRequest (ε := Empty) storing { defaultLimits with maxDecodedBytes := 28 }
      (some [(streamingBody, none)]) [] ⟨[]⟩ = .ok p := exists_of_isOk (by decide +kernel)
  obtain ⟨reads, encoding, original, decoded, scan, hbody, hreceived, hiff⟩ := accepts_iff storing_live _ _ _ hp
  refine (hiff namingPolicy).mpr fun _ => ?_
  obtain rfl := Option.some.inj hbody
  obtain rfl := Except.ok.inj hreceived.classified
  obtain rfl := Except.ok.inj hreceived.gathered
  obtain rfl := Except.ok.inj hreceived.decodes
  exact ⟨by decide, nofun⟩

/-! ## The rewritten body -/

section Replaced

variable {es : List Entry}

/-- A result with `stream` false, and without its place. -/
def RequestScan.unstreamed (r : RequestScan) : RequestScan := { r.unplaced with stream := false }

theorem unstreamed_withAll {r' : RequestScan} (h : r.unstreamed = r'.unstreamed) (lit : List Byte) :
    (r.withAll (replaceStream es lit (.bool false))).unstreamed = (r'.withAll es).unstreamed := by
  induction es generalizing r r' with
  | nil => exact h
  | cons e es ih =>
    refine ih ?_
    simp only [RequestScan.unstreamed, unplaced, mk.injEq] at h
    obtain ⟨h1, h2, h3, -, -, -, h5, h6, h7⟩ := h
    beta_reduce
    by_cases hkey : e.key = ascii "stream"
    · have hne : ascii "stream" ≠ ascii "model" := by decide
      rw [if_pos hkey]
      simp [withRoot, RequestScan.unstreamed, unplaced, *]
    · rw [if_neg hkey]
      unfold withRoot
      split_ifs <;> simp [RequestScan.unstreamed, unplaced, *]

theorem membersFlags_replaceStream (hstream : ∀ e ∈ es, e.key = ascii "stream" → StreamLiteral e)
    (ctx : ValueContext) (root : Bool) (lit : List Byte) :
    membersFlags ctx root ((replaceStream es lit (.bool false)).map Entry.member) =
      membersFlags ctx root (es.map Entry.member) := by
  induction es with
  | nil => rfl
  | cons e es ih =>
    have htail := ih fun x hx => hstream x (List.mem_cons_of_mem _ hx)
    rw [replaceStream, List.map_cons, membersFlags_cons, membersFlags_cons]
    refine congrArg₂ Flags.or ?_ htail
    by_cases hkey : e.key = ascii "stream"
    · obtain ⟨b, hb⟩ := hstream e List.mem_cons_self hkey
      rw [if_pos hkey, hb]
      rfl
    · rw [if_neg hkey]

theorem admissible_replaceStream (h : Admissible false false es) (lit : List Byte) :
    Admissible false false (replaceStream es lit (.bool false)) := by
  have hkeys : ∀ key : List Byte, (replaceStream es lit (.bool false)).countP (fun e => e.key == key) =
      es.countP fun e => e.key == key := by
    intro key
    rw [replaceStream, List.countP_map]
    refine List.countP_congr fun e _ => ?_
    simp only [Function.comp_apply]
    split_ifs <;> rfl
  refine ⟨(hkeys _).symm ▸ h.modelOnce, (hkeys _).symm ▸ h.streamOnce, ?_, ?_⟩
  · intro e he hmodel
    obtain ⟨e', he', rfl⟩ := List.mem_map.mp he
    by_cases hkey : e'.key = ascii "stream"
    · rw [if_pos hkey] at hmodel
      exact absurd (hkey.symm.trans hmodel) (by decide)
    · rw [if_neg hkey] at hmodel ⊢
      exact h.model e' he' hmodel
  · intro e he hstream
    obtain ⟨e', he', rfl⟩ := List.mem_map.mp he
    by_cases hkey : e'.key = ascii "stream"
    · rw [if_pos hkey]
      exact ⟨false, rfl⟩
    · rw [if_neg hkey] at hstream
      exact absurd hstream hkey

end Replaced

/-- **The scan of the rewritten body** finds the same but for `stream`. -/
theorem scan_rewritten {bytes : List Byte} (h : scanResponsesRequest bytes = .ok r)
    (hstream : r.stream = true) :
    ∃ r', scanResponsesRequest (rewritten bytes r) = .ok r' ∧ r'.unplaced = r.unstreamed := by
  obtain ⟨es, pre, post, hdocument, hslot⟩ := scan_slot h hstream
  obtain ⟨s, hrun⟩ := scan_ok h
  obtain ⟨hmeaning, hroot⟩ := meaning_of_scan h hdocument
  have hadmissible := admissible_of_scan hdocument hrun
  have hreplaced := hslot.replace (ascii "false") (.bool false) (.inl .false)
  obtain ⟨r', s', hrun', hroot'⟩ :=
    scanDocument_of hreplaced (admissible_replaceStream hadmissible (ascii "false"))
  have hscan' : scanResponsesRequest (pre ++ (ascii "false" ++ post)) = .ok r' := by
    rw [scanResponsesRequest, hrun']
  refine ⟨r', (rewritten_eq hslot).symm ▸ hscan', ?_⟩
  have hsame : r'.unplaced.unstreamed = r.unplaced.unstreamed := by
    rw [hroot'.result, hroot.result, membersFlags_replaceStream hadmissible.stream]
    have hall : (zero.withAll (replaceStream es (ascii "false") (.bool false))).unstreamed =
        (zero.withAll es).unstreamed := unstreamed_withAll rfl _
    simp only [RequestScan.unstreamed, unplaced, mk.injEq] at hall
    obtain ⟨h1, h2, h3, -, -, -, h5, h6, h7⟩ := hall
    simp [RequestScan.unstreamed, unplaced, mark, *]
  have hnot : r'.stream = false := by
    have hseen : r.streamSeen = true := by
      by_contra hnot
      exact Bool.false_ne_true ((hmeaning.noStream (Bool.eq_false_iff.mpr hnot)).symm.trans hstream)
    obtain ⟨t, ht⟩ := hmeaning.streamSeen.mp hseen
    obtain ⟨e, he, hkey, -⟩ := has_rootTree.mp ht
    have hhas : (rootTree (replaceStream es (ascii "false") (.bool false))).Has (ascii "stream") (.bool false) :=
      has_rootTree.mpr ⟨_, List.mem_map.mpr ⟨e, he, if_pos hkey⟩, hkey, rfl⟩
    exact (Tree.bool.inj ((meaning_of_scan hscan' hreplaced).1.stream (.bool false) hhas)).symm
  calc r'.unplaced = r'.unplaced.unstreamed := by
        simp [RequestScan.unstreamed, unplaced, hnot]
    _ = r.unplaced.unstreamed := hsame
    _ = r.unstreamed := rfl

/-! ## What is handed over -/

/-- What package strings does with the two encodings that a rewritten body can have, and a compressor
    that reads what it wrote. -/
structure Env.Rereads (env : Env) (limits : Limits) : Prop where
  trimEmpty : env.trimSpace [] = []
  trimZstd : env.trimSpace (ascii "zstd") = ascii "zstd"
  zstdIdentity : env.equalFold (ascii "zstd") (ascii "identity") = false
  zstdZstd : env.equalFold (ascii "zstd") (ascii "zstd") = true
  newReader : ∀ content : List Byte, (content.length : ℤ) ≤ limits.maxDecodedBytes →
    env.zstd.newReader limits.zstdMaxWindowBytes limits.decoderMemory
      (env.zstd.encodeAll limits.zstdMaxWindowBytes content) = none
  decode : ∀ content : List Byte, (content.length : ℤ) ≤ limits.maxDecodedBytes →
    Delivers (env.zstd.decode limits.zstdMaxWindowBytes limits.decoderMemory
      (env.zstd.encodeAll limits.zstdMaxWindowBytes content)) content

/-- A rewritten body comes through again if it is within the encoded limit. -/
theorem received_again (hvalid : limits.validate = true) (hback : env.Rereads limits)
    (hfits : RewriteFits env limits encoding decoded scan)
    (hlength : (rewritten decoded scan).length = decoded.length + 1)
    (hscan : scanResponsesRequest (rewritten decoded scan) = .ok r)
    (hreads : Delivers reads (encodedAs env limits (rewritten decoded scan) encoding))
    (hencoded : encoding = .identity → (decoded.length + 1 : ℤ) ≤ limits.maxEncodedBytes) :
    Received env limits reads (if encoding = .zstd then ascii "zstd" else []) encoding
      (encodedAs env limits (rewritten decoded scan) encoding) (rewritten decoded scan) r := by
  have hlimits := limits_of_validate hvalid
  have hgathered : gather limits.maxEncodedBytes .encoded [] reads = appendWithin limits.maxEncodedBytes
      .encoded [] (encodedAs env limits (rewritten decoded scan) encoding) := gather_delivers hreads hlimits.2
  have hdecoded : ((rewritten decoded scan).length : ℤ) ≤ limits.maxDecodedBytes := by
    rw [hlength]
    exact_mod_cast hfits.1
  cases encoding with
  | identity =>
    refine ⟨?_, hgathered.trans (appendWithin_nil_ok.mpr ⟨?_, rfl⟩), rfl, hscan⟩
    · rw [if_neg nofun, classifyContentEncoding, if_pos (.inl hback.trimEmpty)]
    · show ((rewritten decoded scan).length : ℤ) ≤ _
      rw [hlength]
      exact_mod_cast hencoded rfl
  | zstd =>
    refine ⟨?_, hgathered.trans (appendWithin_nil_ok.mpr ⟨(hfits.2 rfl).2, rfl⟩), ?_, hscan⟩
    · rw [if_pos rfl, classifyContentEncoding, hback.trimZstd, hback.zstdIdentity, if_neg (by decide),
        if_pos hback.zstdZstd]
    · simp only [decodeContent, encodedAs, hback.newReader _ hdecoded]
      refine mapError_ok.mpr ((gather_delivers (hback.decode _ hdecoded) hlimits.1).trans ?_)
      exact appendWithin_nil_ok.mpr ⟨hdecoded, rfl⟩

theorem passthrough_of_unstreamed {toLower : List Byte → List Byte}
    (h : r.unplaced = scan.unstreamed) (hnormalize : chooseAction toLower policy scan = .normalize)
    (again : Policy) : chooseAction toLower again r = .passthrough := by
  unfold chooseAction at hnormalize
  split_ifs at hnormalize with hcomputer
  simp only [unplaced, RequestScan.unstreamed, mk.injEq] at h
  obtain ⟨-, -, -, hstream, -, -, -, h1, h2⟩ := h
  rw [← h1, ← h2] at hcomputer
  rw [chooseAction, if_neg hcomputer, hstream]
  simp

/-- **What `PrepareRequest` hands over.**  A body that it does not normalize is the one it received.  One
    that it normalizes is the decoded one with `false` in place of the value of the root's `stream`; the
    scan finds the same there but for `stream`; and it can be prepared again, to be passed through as
    it is, just if without compression it is within the ENCODED limit too. -/
theorem normalize_rewrites (hlive : env.Live) (hback : env.Rereads limits) {contentEncoding : List Byte}
    {policy : Policy} {p : PreparedRequest Body}
    (h : prepareRequest env limits (some reads) contentEncoding policy = .ok p) :
    ∃ encoding original decoded scan,
      Received env limits reads contentEncoding encoding original decoded scan ∧
      p.action = chooseAction env.toLower policy scan ∧ p.contentLength = p.body.bytes.length ∧
      (p.action ≠ .normalize → p.body.bytes = original) ∧
      (p.action = .normalize → ∃ es pre post r, Document 511 decoded es ∧
        Slot 511 (Document 511) decoded es 0 scan pre (ascii "true") post ∧
        p.body.bytes = encodedAs env limits (pre ++ (ascii "false" ++ post)) encoding ∧
        scanResponsesRequest (pre ++ (ascii "false" ++ post)) = .ok r ∧ r.unplaced = scan.unstreamed ∧
        ∀ (reads' : Chunks ε) policy', Delivers reads' p.body.bytes →
          ((∃ q, prepareRequest env limits (some reads') p.contentEncoding policy' = .ok q ∧
              q.action = .passthrough ∧ q.body.bytes = p.body.bytes) ↔
            (encoding = .identity → (decoded.length + 1 : ℤ) ≤ limits.maxEncodedBytes))) := by
  obtain ⟨hvalid, encoding, original, decoded, scan, hreceived, hover⟩ := exists_received hlive h
  refine ⟨encoding, original, decoded, scan, hreceived, ?_⟩
  by_cases hnormalize : chooseAction env.toLower policy scan = .normalize
  · obtain ⟨hfits, hp⟩ := (handOverContent_normalize hreceived.scanned hnormalize _ _ _).mp hover
    have hstream := stream_of_normalize hnormalize
    have haction : p.action = .normalize := congrArg action hp
    have hbody : p.body.bytes = encodedAs env limits (rewritten decoded scan) encoding :=
      congrArg PreparedRequest.body hp
    have hencoding : p.contentEncoding = if encoding = .zstd then ascii "zstd" else [] :=
      congrArg PreparedRequest.contentEncoding hp
    have hcontentLength := congrArg PreparedRequest.contentLength hp
    have hlength := length_rewritten hreceived.scanned hstream
    obtain ⟨r, hscan, hr⟩ := scan_rewritten hreceived.scanned hstream
    obtain ⟨es, pre, post, hdocument, hslot⟩ := scan_slot hreceived.scanned hstream
    refine ⟨haction.trans hnormalize.symm, ?_, fun hne => absurd haction hne, fun _ => ?_⟩
    · rw [hbody]
      exact hcontentLength
    · have hrewritten := rewritten_eq hslot
      refine ⟨es, pre, post, r, hdocument, hslot, hrewritten ▸ hbody, hrewritten ▸ hscan, hr, ?_⟩
      intro reads' policy' hreads'
      rw [hbody] at hreads'
      constructor
      · -- What comes through again was within the encoded limit.
        rintro ⟨q, hq, -, -⟩ rfl
        obtain ⟨-, _, _, _, _, hreceived', -⟩ := exists_received hlive hq
        have hgathered := hreceived'.gathered
        rw [gather_delivers hreads' (limits_of_validate hvalid).2] at hgathered
        have hwithin := (appendWithin_nil_ok.mp hgathered).1
        rw [encodedAs, hlength] at hwithin
        exact_mod_cast hwithin
      · intro hencoded
        have hagain := received_again hvalid hback hfits hlength hscan hreads' hencoded
        have hpass := passthrough_of_unstreamed hr hnormalize policy'
        rw [← hencoding, ← hbody] at hagain
        obtain ⟨q, hq, hview⟩ := (hagain.prepares_iff hlive hvalid policy' _).mpr
          (handOverContent_other (hpass.trans_ne (by decide)) _ _)
        refine ⟨q, hq, ?_, congrArg PreparedRequest.body hview⟩
        exact (congrArg action hview).trans hpass
  · rw [handOverContent_other hnormalize] at hover
    have hp := Except.ok.inj hover
    have haction : chooseAction env.toLower policy scan = p.action := congrArg action hp
    have hbody : original = p.body.bytes := congrArg PreparedRequest.body hp
    refine ⟨haction.symm, ?_, fun _ => hbody.symm, fun heq => absurd (haction.trans heq) hnormalize⟩
    rw [← hbody]
    exact (congrArg PreparedRequest.contentLength hp).symm

theorem storing_encodeAll (window : ℕ) (content : List Byte) :
    storing.zstd.encodeAll window content = content := by
  have hbefore : (List.range' 0 (rounds content)).flatMap (storing.zstd.encode window content) = [] := by
    refine List.flatMap_eq_nil_iff.mpr fun round hround => if_neg ?_
    exact Nat.ne_of_lt (by simpa using hround)
  have hlast : storing.zstd.encode window content (rounds content) = [content] := if_pos rfl
  rw [Zstd.encodeAll, List.range'_1_concat, List.flatMap_append, hbefore, Nat.zero_add]
  simp [hlast]

theorem storing_rereads (limits : Limits) : storing.Rereads limits where
  trimEmpty := rfl
  trimZstd := rfl
  zstdIdentity := by decide
  zstdZstd := by decide
  newReader _ _ := rfl
  decode content _ := by
    rw [storing_encodeAll]
    show Delivers [(content, some .eof)] content
    cases content with
    | nil => exact .eof
    | cons b content => exact .last (List.cons_ne_nil _ _)

/-- A rewritten body that is too long to be taken again. -/
theorem rewritten_refused :
    let limits := { defaultLimits with maxEncodedBytes := 27 }
    let prepared (body : List Byte) := (prepareRequest (ε := Empty) storing limits (some [(body, none)]) []
      namingPolicy).map view
    let rewrittenBody := ascii "\x7b\"model\":\"m\",\"stream\":false\x7d"
    (prepared streamingBody).map (fun p => (p.action, p.body)) = .ok (.normalize, rewrittenBody) ∧
      prepared rewrittenBody = .error (.storage (.tooLarge .encoded 27)) := by
  decide +kernel

/-- A compressed body is rewritten and taken again. -/
theorem normalize_rewrites_zstd :
    ∃ p, prepareRequest (ε := Empty) storing defaultLimits (some [(streamingBody, none)]) (ascii "zstd")
        namingPolicy = .ok p ∧ p.action = .normalize ∧
      ∃ q, prepareRequest (ε := Empty) storing defaultLimits (some [(p.body.bytes, none)]) p.contentEncoding
        namingPolicy = .ok q ∧ q.body.bytes = p.body.bytes := by
  have haction : (prepareRequest (ε := Empty) storing defaultLimits (some [(streamingBody, none)])
      (ascii "zstd") namingPolicy).map (·.action) = .ok .normalize := by
    decide +kernel
  obtain ⟨p, hp⟩ : ∃ p, prepareRequest (ε := Empty) storing defaultLimits (some [(streamingBody, none)])
      (ascii "zstd") namingPolicy = .ok p := exists_of_isOk (by decide +kernel)
  rw [hp] at haction
  have hnormalize : p.action = .normalize := Except.ok.inj haction
  obtain ⟨encoding, original, decoded, scan, hreceived, -, -, -, hrewrites⟩ :=
    normalize_rewrites storing_live (storing_rereads _) hp
  obtain ⟨es, pre, post, r, -, -, hbody, -, -, hagain⟩ := hrewrites hnormalize
  obtain rfl := Except.ok.inj hreceived.classified
  have hne : p.body.bytes ≠ [] := by
    rw [hbody, encodedAs, storing_encodeAll]
    simp [ascii]
  have hdelivers : Delivers (ε := Empty) [(p.body.bytes, none)] p.body.bytes := by
    simpa using Delivers.chunk hne (.nothing (ε := Empty))
  obtain ⟨q, hq, -, hsame⟩ := (hagain _ namingPolicy hdelivers).mpr nofun
  exact ⟨p, hp, hnormalize, q, hq, hsame⟩

end Responses
