/-
  `PrepareRequest` (responses/request.go) — reading, classifying and rewriting a request body.

  The body is read into a storage, decoded into another one if it is compressed, scanned, and handed
  over as it came or with `stream` set to false — which is one byte longer, and compressed again if it
  was.  Every stage has a limit of its own.

  1. `Limits`, `Zstd`, `Env`: what the function is given.  The compressor is not the relay's: what it
     reads and writes are functions of the bytes it is given.
  2. `prepareRequest`, stage by stage, over storages in memory or in files.
  3. `prepareContent`: the same as a function of the bytes, and `prepareRequest_agree`: that is all
     that can be seen.  `spooling_invisible` reads it off.
-/
import OpenCodexRelay.Responses.Classification
import OpenCodexRelay.Responses.Storage

namespace Responses

open Json

/-! ## What the function is given -/

structure Limits where
  maxEncodedBytes : ℤ
  maxDecodedBytes : ℤ
  memoryThreshold : ℤ
  zstdMaxWindowBytes : ℕ
  maxResponseBytes : ℤ
  maxOutputItems : ℤ
  deriving DecidableEq

def defaultLimits : Limits := ⟨33554432, 268435456, 1048576, 8388608, 33554432, 10000⟩

/-- Whether `validate` returns nil. -/
def Limits.validate (l : Limits) : Bool :=
  !(l.maxEncodedBytes ≤ 0 || l.maxDecodedBytes ≤ 0 || l.memoryThreshold ≤ 0 ||
    l.zstdMaxWindowBytes == 0 || l.maxResponseBytes ≤ 0 || l.maxOutputItems ≤ 0)

/-- The compressor, with a window (and a bound on its memory). -/
structure Zstd where
  /-- The error of `zstd.NewReader` on these bytes. -/
  newReader : ℕ → ℕ → List Byte → Option String
  /-- What reading the decoder gives. -/
  decode : ℕ → ℕ → List Byte → Chunks String
  /-- How far the decoder has read then. -/
  consumed : ℕ → ℕ → List Byte → ℕ
  /-- The error of `zstd.NewWriter`. -/
  newWriter : ℕ → Option String
  /-- What the encoder writes in each round of giving it these bytes, and after the last one. -/
  encode : ℕ → List Byte → ℕ → List (List Byte)

/-- The loops that look at the context. -/
inductive LoopStage where
  | body
  | decode
  | before
  | behind
  | encode
  deriving DecidableEq

/-- What surrounds a call: the context in each round of each loop, why no spool can be made, the
    compressor, and functions of package strings. -/
structure Env where
  ctx : LoopStage → ℕ → Option ContextError
  spool : Option String
  zstd : Zstd
  trimSpace : List Byte → List Byte
  equalFold : List Byte → List Byte → Bool
  toLower : List Byte → List Byte

inductive PrepareError (ε : Type) where
  | invalidLimits
  | bodyRequired
  | unsupportedContentEncoding (value : List Byte)
  | storage (e : StorageError ε)
  | initializeDecoder (text : String)
  /-- `ErrMalformedRequest` around whatever ended the decoding. -/
  | decodeZstd (e : StorageError String)
  | malformed (e : Malformed)
  | initializeEncoder (text : String)
  deriving DecidableEq

structure PreparedRequest (β : Type) where
  action : Action
  body : β
  contentEncoding : List Byte
  contentLength : ℤ
  encodedBytes : ℤ
  decodedBytes : ℤ
  clientRequestedStream : Bool
  modelMatched : Bool
  normalized : Bool
  spilled : Bool
  deriving DecidableEq

inductive Encoding where
  | identity
  | zstd
  deriving DecidableEq

/-! ## The stages -/

section Stages

variable {ε : Type} (env : Env) (limits : Limits)

def classifyContentEncoding (value : List Byte) : Except (PrepareError ε) Encoding :=
  if env.trimSpace value = [] ∨ env.equalFold (env.trimSpace value) (ascii "identity") then .ok .identity
  else if env.equalFold (env.trimSpace value) (ascii "zstd") then .ok .zstd
  else .error (.unsupportedContentEncoding value)

/-- The stored bodies; without a decoded one the original is the decoded one as well. -/
structure Bodies where
  original : Storage
  decoded : Option Storage

namespace Bodies

def toScan (b : Bodies) : Storage := b.decoded.getD b.original

/-- Somebody read the decoded body. -/
def after (b : Bodies) (f : Seekable) : Bodies :=
  match b.decoded with
  | some d => { b with decoded := some (d.after f) }
  | none => { b with original := b.original.after f }

def spilled (b : Bodies) : Bool := b.original.spilled || b.toScan.spilled

end Bodies

/-- The bound on the decoder's memory, a 64-bit number. -/
def Limits.decoderMemory (l : Limits) : ℕ := (l.maxDecodedBytes.toNat + l.zstdMaxWindowBytes) % 2 ^ 64

/-- The error of the decoding stage; only a limit passes as it is. -/
def decodingError : StorageError String → PrepareError ε
  | .tooLarge limit maximum => .storage (.tooLarge limit maximum)
  | e => .decodeZstd e

def decodeBody (original : Storage) : Encoding → Except (PrepareError ε) Bodies
  | .identity => .ok ⟨original, none⟩
  | .zstd =>
    let reader := original.reader
    match env.zstd.newReader limits.zstdMaxWindowBytes limits.decoderMemory reader.rest with
    | some text => .error (.initializeDecoder text)
    | none =>
      ((readStorage (env.ctx .decode) env.spool
        (env.zstd.decode limits.zstdMaxWindowBytes limits.decoderMemory reader.rest)
        limits.maxDecodedBytes limits.memoryThreshold .decoded).mapError decodingError).map fun decoded =>
          ⟨original.after (reader.seek
            (env.zstd.consumed limits.zstdMaxWindowBytes limits.decoderMemory reader.rest)), some decoded⟩

/-- The rewriting stage: what stands before the value of `stream`, `false`, and what stands behind. -/
def rewriteBody (decoded : Storage) (scan : RequestScan) : Except (StorageError ε) Storage := do
  let w := StorageWriter.empty limits.maxDecodedBytes limits.memoryThreshold .decoded
  let (w, decoded) ← copyStorageRange (env.ctx .before) env.spool w decoded 0 scan.streamStart
  let w ← w.write env.spool (ascii "false")
  let (w, _) ← copyStorageRange (env.ctx .behind) env.spool w decoded scan.streamEnd
    (decoded.size - scan.streamEnd).toNat
  .ok w.finish

/-- `copyAllContext` into the encoder, and closing it: so many rounds, and the one that meets the
    end. -/
def encodeLoop (content : List Byte) : ℕ → ℕ → StorageWriter → Except (StorageError ε) StorageWriter
  | 0, round, w =>
    match env.ctx .encode round with
    | some e => .error (.context e)
    | none => w.writeAll env.spool (env.zstd.encode limits.zstdMaxWindowBytes content round)
  | rounds + 1, round, w =>
    match env.ctx .encode round with
    | some e => .error (.context e)
    | none => do
      let w ← w.writeAll env.spool (env.zstd.encode limits.zstdMaxWindowBytes content round)
      encodeLoop content rounds (round + 1) w

/-- The rounds in which something is read. -/
def rounds (content : List Byte) : ℕ := (content.length + bufferSize - 1) / bufferSize

def encodeBody (rewritten : Storage) : Except (PrepareError ε) Storage :=
  match env.zstd.newWriter limits.zstdMaxWindowBytes with
  | some text => .error (.initializeEncoder text)
  | none =>
    ((encodeLoop env limits rewritten.reader.rest (rounds rewritten.reader.rest) 0
      (.empty limits.maxEncodedBytes limits.memoryThreshold .encoded)).mapError .storage).map
        StorageWriter.finish

/-- What is known once the body has been scanned. -/
def baseRequest {β : Type} (action : Action) (body : β) (encoded decoded : ℤ) (scan : RequestScan)
    (policy : Policy) (spilled : Bool) : PreparedRequest β where
  action := action
  body := body
  contentEncoding := []
  contentLength := 0
  encodedBytes := encoded
  decodedBytes := decoded
  clientRequestedStream := scan.stream
  modelMatched := (policy.modeForModel env.toLower scan.model).isSome
  normalized := action = .normalize
  spilled := spilled

/-- The last stage: what is handed over. -/
def handOver (encoding : Encoding) (contentEncoding : List Byte) (policy : Policy) (bodies : Bodies)
    (scan : RequestScan) : Except (PrepareError ε) (PreparedRequest Body) :=
  let action := chooseAction env.toLower policy scan
  let base (body : Body) (spilled : Bool) :=
    baseRequest env action body bodies.original.size bodies.toScan.size scan policy spilled
  if action ≠ .normalize then
    .ok { base bodies.original.takeReader bodies.spilled with
      contentEncoding := contentEncoding
      contentLength := bodies.original.size }
  else do
    let rewritten ← (rewriteBody env limits bodies.toScan scan).mapError .storage
    match encoding with
    | .identity =>
      .ok { base rewritten.takeReader (bodies.spilled || rewritten.spilled) with
        contentLength := rewritten.size }
    | .zstd => do
      let encoded ← encodeBody env limits rewritten
      .ok { base encoded.takeReader (bodies.spilled || rewritten.spilled || encoded.spilled) with
        contentEncoding := ascii "zstd"
        contentLength := encoded.size }

/-- **`PrepareRequest`.** -/
def prepareRequest (body : Option (Chunks ε)) (contentEncoding : List Byte) (policy : Policy) :
    Except (PrepareError ε) (PreparedRequest Body) :=
  if limits.validate = false then .error .invalidLimits
  else
    match body with
    | none => .error .bodyRequired
    | some reads => do
      let encoding ← classifyContentEncoding env contentEncoding
      let original ← (readStorage (env.ctx .body) env.spool reads limits.maxEncodedBytes
        limits.memoryThreshold .encoded).mapError .storage
      let bodies ← decodeBody env limits original encoding
      let reader := bodies.toScan.reader
      let scan ← (scanResponsesRequest reader.rest).mapError .malformed
      -- The scanner has met the end of the body.
      handOver env limits encoding contentEncoding policy
        (bodies.after (reader.seek reader.content.length)) scan

/-! ## The same as a function of the bytes -/

def decodeContent (content : List Byte) : Encoding → Except (PrepareError ε) (List Byte)
  | .identity => .ok content
  | .zstd =>
    match env.zstd.newReader limits.zstdMaxWindowBytes limits.decoderMemory content with
    | some text => .error (.initializeDecoder text)
    | none =>
      (gather limits.maxDecodedBytes .decoded []
        (env.zstd.decode limits.zstdMaxWindowBytes limits.decoderMemory content)).mapError decodingError

/-- A body with `false` in place of what stands at `stream`. -/
def rewritten (decoded : List Byte) (scan : RequestScan) : List Byte :=
  decoded.take scan.streamStart ++ (ascii "false" ++ decoded.drop scan.streamEnd)

/-- Everything that the encoder writes. -/
def Zstd.encodeAll (z : Zstd) (window : ℕ) (content : List Byte) : List Byte :=
  ((List.range' 0 (rounds content + 1)).flatMap (z.encode window content)).flatten

def encodeContent (content : List Byte) : Encoding → Except (PrepareError ε) (List Byte)
  | .identity => .ok content
  | .zstd =>
    match env.zstd.newWriter limits.zstdMaxWindowBytes with
    | some text => .error (.initializeEncoder text)
    | none =>
      (appendWithin limits.maxEncodedBytes .encoded []
        (env.zstd.encodeAll limits.zstdMaxWindowBytes content)).mapError .storage

def handOverContent (encoding : Encoding) (contentEncoding : List Byte) (policy : Policy)
    (original decoded : List Byte) (scan : RequestScan) :
    Except (PrepareError ε) (PreparedRequest (List Byte)) :=
  let action := chooseAction env.toLower policy scan
  let base (body : List Byte) :=
    baseRequest env action body original.length decoded.length scan policy false
  if action ≠ .normalize then
    .ok { base original with contentEncoding := contentEncoding, contentLength := original.length }
  else do
    let content ← (appendWithin limits.maxDecodedBytes .decoded [] (rewritten decoded scan)).mapError .storage
    let body ← encodeContent env limits content encoding
    .ok { base body with
      contentEncoding := if encoding = .zstd then ascii "zstd" else []
      contentLength := body.length }

/-- **What `PrepareRequest` is, of a body and what came of gathering it.** -/
def prepareContent (received : Except (StorageError ε) (List Byte)) (contentEncoding : List Byte)
    (policy : Policy) : Except (PrepareError ε) (PreparedRequest (List Byte)) := do
  let encoding ← classifyContentEncoding env contentEncoding
  let original ← received.mapError .storage
  let decoded ← decodeContent env limits original encoding
  let scan ← (scanResponsesRequest decoded).mapError .malformed
  handOverContent env limits encoding contentEncoding policy original decoded scan

end Stages

/-! ## The storages cannot be told apart -/

/-- A request as it can be seen: the bytes of its body, and not whether anything was spooled. -/
def PreparedRequest.view (p : PreparedRequest Body) : PreparedRequest (List Byte) where
  action := p.action
  body := p.body.bytes
  contentEncoding := p.contentEncoding
  contentLength := p.contentLength
  encodedBytes := p.encodedBytes
  decodedBytes := p.decodedBytes
  clientRequestedStream := p.clientRequestedStream
  modelMatched := p.modelMatched
  normalized := p.normalized
  spilled := false

open PreparedRequest (view)

/-- The context never ends, and a spool can be made. -/
structure Env.Live (env : Env) : Prop where
  ctx : ∀ stage n, env.ctx stage n = none
  spool : env.spool = none

/-- The stored bodies stand for these. -/
structure Bodies.Hold (b : Bodies) (original decoded : List Byte) : Prop where
  original : b.original.Holds original
  toScan : b.toScan.Holds decoded

theorem Storage.Holds.unique {s : Storage} {bytes bytes' : List Byte} (h : s.Holds bytes)
    (h' : s.Holds bytes') : bytes = bytes' :=
  (Seekable.mk.inj (h.reader.symm.trans h'.reader)).1

theorem Bodies.Hold.after {b : Bodies} {original decoded : List Byte} (h : b.Hold original decoded)
    {f : Seekable} (hf : f.content = decoded) : (b.after f).Hold original decoded := by
  obtain ⟨o, d⟩ := b
  have hscan := h.toScan.after hf
  cases d with
  | some d => exact ⟨h.original, hscan⟩
  | none =>
    -- There is one storage, so both bodies are the same.
    obtain rfl := h.original.unique h.toScan
    exact ⟨hscan, hscan⟩

/-- Errors are wrapped alike. -/
theorem Agree.mapError {ε ε' α β : Type} {R : α → β → Prop} {x : Except ε α} {y : Except ε β}
    (h : Agree R x y) (f : ε → ε') : Agree R (x.mapError f) (y.mapError f) := by
  cases x <;> cases y
  · exact congrArg f h
  · cases h
  · cases h
  · exact h

section Agreement

variable {ε : Type} {env : Env} {limits : Limits}

variable {content : List Byte}

theorem decodeBody_agree (hlive : env.Live) (hlimit : 0 ≤ limits.maxDecodedBytes)
    {original : Storage} (h : original.Holds content) (encoding : Encoding) :
    Agree (fun b decoded => b.Hold content decoded) (decodeBody (ε := ε) env limits original encoding)
      (decodeContent env limits content encoding) := by
  cases encoding with
  | identity => exact ⟨h, h⟩
  | zstd =>
    have hrest : original.reader.rest = content := by
      rw [h.reader]
      rfl
    simp only [decodeBody, decodeContent, hrest]
    split
    · exact rfl
    · rw [hlive.spool]
      have hread := (readStorage_agree (hlive.ctx .decode) (env.zstd.decode limits.zstdMaxWindowBytes
        limits.decoderMemory content) hlimit limits.memoryThreshold .decoded).mapError (decodingError (ε := ε))
      exact hread.map fun d decoded hd => ⟨h.after (by rw [h.reader]; rfl), hd⟩

variable {scan : RequestScan}

/-- A range that is there, and what stands behind it. -/
theorem rewriteBody_agree (hlive : env.Live) (hlimit : 0 ≤ limits.maxDecodedBytes)
    {decoded : Storage} (h : decoded.Holds content) (hstart : scan.streamStart ≤ content.length)
    (hend : scan.streamEnd ≤ content.length) :
    Agree Storage.Holds (rewriteBody (ε := ε) env limits decoded scan)
      (appendWithin limits.maxDecodedBytes .decoded [] (rewritten content scan)) := by
  rw [rewritten, ← appendWithin_append]
  simp only [rewriteBody, hlive.spool]
  have hempty := StorageWriter.holds_empty hlimit limits.memoryThreshold .decoded
  have hbefore := copyStorageRange_agree (ε := ε) (hlive.ctx .before) h
    ((Nat.zero_add _).trans_le hstart) hempty
  refine hbefore.bind ?_
  rintro ⟨w, decoded⟩ bytes ⟨hw, h⟩
  rw [← appendWithin_append]
  refine (hw.write _).bind fun w bytes hw => ?_
  have hlength : (decoded.size - scan.streamEnd).toNat = content.length - scan.streamEnd := by
    rw [h.size]
    omega
  have hbehind := copyStorageRange_agree (ε := ε) (hlive.ctx .behind) h
    (Nat.add_sub_cancel' hend).le hw
  rw [List.take_of_length_le (List.length_drop ▸ le_rfl)] at hbehind
  rw [hlength]
  exact hbehind.map fun x bytes hx => hx.1.finish

variable {bytes : List Byte}

theorem encodeLoop_agree (hlive : env.Live) (content : List Byte) (count round : ℕ)
    {w : StorageWriter} {limit : ℤ} {limitError : SizeLimit} (h : w.Holds limit limitError bytes) :
    Agree (fun w bytes => w.Holds limit limitError bytes) (encodeLoop (ε := ε) env limits content count round w)
      (appendWithin limit limitError bytes ((List.range' round (count + 1)).flatMap
        (env.zstd.encode limits.zstdMaxWindowBytes content)).flatten) := by
  induction count generalizing round w bytes with
  | zero =>
    simp only [encodeLoop, hlive.ctx, hlive.spool]
    simpa using h.writeAll (env.zstd.encode limits.zstdMaxWindowBytes content round)
  | succ count ih =>
    rw [List.range'_succ, List.flatMap_cons, List.flatten_append, ← appendWithin_append]
    simp only [encodeLoop, hlive.ctx, hlive.spool]
    exact (h.writeAll _).bind fun w bytes h => ih (round + 1) h

theorem encodeBody_agree (hlive : env.Live) (hlimit : 0 ≤ limits.maxEncodedBytes) {s : Storage}
    (h : s.Holds content) :
    Agree Storage.Holds (encodeBody (ε := ε) env limits s) (encodeContent env limits content .zstd) := by
  have hrest : s.reader.rest = content := by
    rw [h.reader]
    rfl
  simp only [encodeBody, encodeContent, hrest]
  split
  · exact rfl
  · have hempty := StorageWriter.holds_empty hlimit limits.memoryThreshold .encoded
    exact ((encodeLoop_agree hlive content _ 0 hempty).mapError PrepareError.storage).map
      fun _ _ h => h.finish

theorem value_true {d : ℕ} {lit : List Byte} (h : Value d lit (.bool true)) : lit = ascii "true" := by
  have hscalar : Scalar lit (.bool true) := by
    cases d with
    | zero => exact h
    | succ d =>
      rcases h with h | h
      · exact h
      · cases h
  cases hscalar
  rfl

/-- Where the rewriting cuts: what the scanner noted is the place of the literal `true`. -/
theorem scan_slot {r : RequestScan} (h : scanResponsesRequest bytes = .ok r)
    (hstream : r.stream = true) :
    ∃ es pre post, Document 511 bytes es ∧ Slot 511 (Document 511) bytes es 0 r pre (ascii "true") post := by
  obtain ⟨s, hrun⟩ := scan_ok h
  obtain ⟨es, hdocument, -⟩ := scanDocument_inv hrun
  have hroot := (meaning_of_scan h hdocument).2
  have hthere : ∃ e ∈ es, e.key = ascii "stream" := by
    by_contra hnone
    simp only [not_exists, not_and] at hnone
    exact Bool.false_ne_true ((hroot.keeps hnone).2.2.symm.trans hstream)
  obtain ⟨pre, lit, post, hslot⟩ := hroot.slot hthere
  obtain rfl := value_true (hstream ▸ hslot.value)
  exact ⟨es, pre, post, hdocument, hslot⟩

theorem stream_of_normalize {toLower : List Byte → List Byte} {policy : Policy}
    (h : chooseAction toLower policy scan = .normalize) : scan.stream = true := by
  unfold chooseAction at h
  split_ifs at h with hcomputer hnormalize
  simp only [Bool.and_eq_true] at hnormalize
  exact hnormalize.1.2

theorem rewritten_eq {pre post : List Byte} {es : List Entry} {r : RequestScan}
    (h : Slot 511 (Document 511) bytes es 0 r pre (ascii "true") post) :
    rewritten bytes r = pre ++ (ascii "false" ++ post) := by
  obtain ⟨rfl, hstart, hfinish, -, -⟩ := h
  rw [rewritten, hfinish, hstart, Nat.zero_add, List.take_left, ← List.drop_drop, List.drop_left,
    List.drop_left]

theorem limits_of_validate (hvalid : limits.validate = true) :
    0 ≤ limits.maxDecodedBytes ∧ 0 ≤ limits.maxEncodedBytes := by
  simp only [Limits.validate, Bool.not_eq_true', Bool.or_eq_false_iff, decide_eq_false_iff_not] at hvalid
  omega

theorem handOver_agree (hlive : env.Live) (hvalid : limits.validate = true) {bodies : Bodies}
    {original decoded : List Byte} (h : bodies.Hold original decoded)
    (hscan : scanResponsesRequest decoded = .ok scan) (encoding : Encoding)
    (contentEncoding : List Byte) (policy : Policy) :
    Agree (fun p q => p.view = q) (handOver (ε := ε) env limits encoding contentEncoding policy bodies scan)
      (handOverContent env limits encoding contentEncoding policy original decoded scan) := by
  have hlimits := limits_of_validate hvalid
  have hsize := h.original.size
  have hsizeDecoded := h.toScan.size
  unfold handOver handOverContent
  by_cases hnormalize : chooseAction env.toLower policy scan = .normalize
  · simp only [hnormalize, ne_eq, not_true_eq_false, if_false]
    obtain ⟨es, pre, post, -, hslot⟩ := scan_slot hscan (stream_of_normalize hnormalize)
    have hlength := congrArg List.length hslot.text_eq
    simp only [List.length_append] at hlength
    have hstart := hslot.start
    have hfinish := hslot.finish
    have hrewrite := rewriteBody_agree (ε := ε) hlive hlimits.1 h.toScan
      (show scan.streamStart ≤ decoded.length by omega) (show scan.streamEnd ≤ decoded.length by omega)
    refine (hrewrite.mapError PrepareError.storage).bind fun s content hs => ?_
    cases encoding with
    | identity =>
      simp only [encodeContent]
      show view _ = _
      simp only [view, baseRequest, hs.takeReader, hs.size, hsize, hsizeDecoded]
      rfl
    | zstd =>
      refine (encodeBody_agree hlive hlimits.2 hs).bind fun s content hs => ?_
      show view _ = _
      simp only [view, baseRequest, hs.takeReader, hs.size, hsize, hsizeDecoded]
      rfl
  · simp only [hnormalize, ne_eq, not_false_eq_true, if_true]
    show view _ = _
    simp only [view, baseRequest, h.original.takeReader, hsize, hsizeDecoded]

/-- **`PrepareRequest` is a function of the bytes it gathers**: where they are kept is not seen. -/
theorem prepareRequest_agree (hlive : env.Live) (hvalid : limits.validate = true) (reads : Chunks ε)
    (contentEncoding : List Byte) (policy : Policy) :
    Agree (fun p q => p.view = q) (prepareRequest env limits (some reads) contentEncoding policy)
      (prepareContent env limits (gather limits.maxEncodedBytes .encoded [] reads) contentEncoding policy) := by
  have hlimits := limits_of_validate hvalid
  simp only [prepareRequest, hvalid, Bool.true_eq_false, if_false, prepareContent]
  cases classifyContentEncoding (ε := ε) env contentEncoding with
  | error e => exact rfl
  | ok encoding =>
    rw [hlive.spool]
    refine ((readStorage_agree (hlive.ctx .body) reads hlimits.2 _ .encoded).mapError _).bind
      fun original content h => ?_
    refine (decodeBody_agree hlive hlimits.1 h encoding).bind fun bodies decoded h => ?_
    have hrest : bodies.toScan.reader.rest = decoded := by
      rw [h.toScan.reader]
      rfl
    rw [hrest]
    cases hscan : scanResponsesRequest decoded with
    | error e => exact rfl
    | ok scan => exact handOver_agree hlive hvalid (h.after (by rw [h.toScan.reader]; rfl)) hscan _ _ _

theorem Agree.view_eq {x : Except (PrepareError ε) (PreparedRequest Body)}
    {y : Except (PrepareError ε) (PreparedRequest (List Byte))} (h : Agree (fun p q => p.view = q) x y) :
    x.map view = y := by
  cases x <;> cases y
  · exact congrArg Except.error h
  · cases h
  · cases h
  · exact congrArg Except.ok h

/-- **Spooling is invisible.**  However the same bytes are delivered, and whatever the thresholds, as
    long as `validate` takes both or neither: what can be seen of the result is the same. -/
theorem spooling_invisible (hlive : env.Live) {reads reads' : Chunks ε} {content : List Byte}
    (h : Delivers reads content) (h' : Delivers reads' content) (limits : Limits) {threshold threshold' : ℤ}
    (hboth : 0 < threshold ↔ 0 < threshold') (contentEncoding : List Byte) (policy : Policy) :
    (prepareRequest env { limits with memoryThreshold := threshold } (some reads) contentEncoding policy).map
        view =
      (prepareRequest env { limits with memoryThreshold := threshold' } (some reads') contentEncoding
        policy).map view := by
  have hvalidate : ({ limits with memoryThreshold := threshold } : Limits).validate =
      ({ limits with memoryThreshold := threshold' } : Limits).validate := by
    have hrefused : decide (threshold ≤ 0) = decide (threshold' ≤ 0) := by
      rw [decide_eq_decide]
      omega
    simp only [Limits.validate, hrefused]
  cases hvalid : ({ limits with memoryThreshold := threshold } : Limits).validate with
  | false =>
    simp only [prepareRequest, ← hvalidate, hvalid, if_true]
  | true =>
    rw [hvalid] at hvalidate
    have hlimit : (([] : List Byte).length : ℤ) ≤ limits.maxEncodedBytes := (limits_of_validate hvalid).2
    rw [(prepareRequest_agree hlive hvalid reads contentEncoding policy).view_eq,
      (prepareRequest_agree hlive hvalidate.symm reads' contentEncoding policy).view_eq,
      gather_delivers h hlimit, gather_delivers h' hlimit]
    rfl

end Agreement

/-- An environment in which nothing goes wrong, with a compressor that only stores. -/
def storing : Env where
  ctx _ _ := none
  spool := none
  zstd :=
    { newReader := fun _ _ _ => none
      decode := fun _ _ content => [(content, some .eof)]
      consumed := fun _ _ content => content.length
      newWriter := fun _ => none
      encode := fun _ content round => if round = rounds content then [content] else [] }
  trimSpace := id
  equalFold a b := a = b
  toLower := id

theorem storing_live : storing.Live := ⟨fun _ _ => rfl, rfl⟩

/-- A body of 27 bytes whose model the policy names. -/
def streamingBody : List Byte := ascii "\x7b\"model\":\"m\",\"stream\":true\x7d"

def namingPolicy : Policy := ⟨[(ascii "m", .boundedJson)]⟩

/-- A body that is spooled midway, and the same body kept in memory. -/
theorem spooling_invisible_midway :
    let midway := prepareRequest (ε := Empty) storing { defaultLimits with memoryThreshold := 20 }
      (some [(streamingBody.take 10, none), (streamingBody.drop 10, some .eof)]) [] namingPolicy
    let kept := prepareRequest storing { defaultLimits with memoryThreshold := 1000 }
      (some [(streamingBody, none)]) [] namingPolicy
    midway.map view = kept.map view ∧
      midway.map (·.spilled) = .ok true ∧ kept.map (·.spilled) = .ok false := by
  refine ⟨?_, by decide +kernel, by decide +kernel⟩
  have hmidway : Delivers (ε := Empty) [(streamingBody.take 10, none), (streamingBody.drop 10, some .eof)]
      streamingBody := .chunk (by decide) (.last (by decide))
  have hkept : Delivers (ε := Empty) [(streamingBody, none)] streamingBody := .chunk (by decide) .nothing
  exact spooling_invisible storing_live hmidway hkept defaultLimits (by decide) [] namingPolicy

/-- A threshold of zero is refused before anything is read, one of a byte is not. -/
theorem threshold_refused :
    (prepareRequest (ε := Empty) storing { defaultLimits with memoryThreshold := 0 }
      (some [(streamingBody, none)]) [] namingPolicy).map view = .error .invalidLimits ∧
    (prepareRequest (ε := Empty) storing { defaultLimits with memoryThreshold := 1 }
      (some [(streamingBody, none)]) [] namingPolicy).isOk = true :=
  ⟨rfl, by decide +kernel⟩

end Responses
