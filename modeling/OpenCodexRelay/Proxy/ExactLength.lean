/-
  Request bodies of a declared length (server.go).

  A request that declares its `Content-Length` has that many bytes reserved for it and is then read
  through an `exactLengthReadCloser`.  The reader asks its source for at most ONE byte more than is
  still due, so that a surplus shows, and compares the source's EOF with what is still due.

  1. `Source.read`: a source that comes in chunks, read into buffers of any size.
  2. `read`, `readAll`: the reader, and what successive reads of it answer.
  3. `verdict`: what a declared length and a source deserve, in terms of the source's bytes alone.
  4. `read_step`, `readAll_exactLength`: one read, then every sequence of reads.
  5. `prepareResponsesRequest`: the reader before `PrepareRequest`, and the length that is sent on.
-/
import OpenCodexRelay.Responses.Rewriting

namespace OpenCodexRelay.Proxy

open Responses Json

/-! ## The source -/

namespace Source

variable {ε : Type}

/-- **Reading from the chunks**: a chunk that does not fit is handed out in pieces, its end with the
    last one. -/
def read : Chunks ε → ℕ → (List Byte × Option (ReadEnd ε)) × Chunks ε
  | [], _ => (([], some .eof), [])
  | (data, stop) :: rest, size =>
    if data.length ≤ size then ((data, stop), rest)
    else ((data.take size, none), (data.drop size, stop) :: rest)

/-- All bytes of a sequence of answers. -/
def bytes (chunks : Chunks ε) : List Byte := (chunks.map Prod.fst).flatten

/-- The bytes up to the first EOF or error, -/
def content : Chunks ε → List Byte
  | [] => []
  | (data, none) :: rest => data ++ content rest
  | (data, some _) :: _ => data

/-- and which of the two it is. -/
def ending (chunks : Chunks ε) : ReadEnd ε := (chunks.findSome? Prod.snd).getD .eof

/-- How many non-empty reads exhaust the chunks, at most. -/
def effort (chunks : Chunks ε) : ℕ := (bytes chunks).length + chunks.length

@[simp] theorem bytes_nil : bytes ([] : Chunks ε) = [] := rfl

@[simp] theorem bytes_cons (data : List Byte) (stop : Option (ReadEnd ε)) (rest : Chunks ε) :
    bytes ((data, stop) :: rest) = data ++ bytes rest := rfl

/-- **What a read leaves.**  The bytes read are the source's first ones, and not more than asked for.
    Without an end the content goes on where the read stopped, and there is less of it left; an end is
    the source's own, after all of its content. -/
theorem read_spec (source : Chunks ε) (size : ℕ) {data : List Byte} {stop : Option (ReadEnd ε)}
    {source' : Chunks ε} (h : read source size = ((data, stop), source')) :
    bytes source = data ++ bytes source' ∧
    (stop = none → content source = data ++ content source' ∧ ending source = ending source' ∧
      (0 < size → effort source' < effort source)) ∧
    (∀ e, stop = some e → content source = data ∧ ending source = e) := by
  cases source with
  | nil =>
    cases h
    exact ⟨rfl, (fun h => by cases h), fun e he => ⟨rfl, Option.some.inj he⟩⟩
  | cons chunk rest =>
    obtain ⟨whole, last⟩ := chunk
    rw [read] at h
    split at h
    · cases h
      refine ⟨rfl, fun hnone => ?_, fun e he => ?_⟩
      · subst hnone
        exact ⟨rfl, rfl, fun _ => by simp [effort]; omega⟩
      · subst he
        exact ⟨rfl, rfl⟩
    · cases h
      have hsplit : whole.take size ++ whole.drop size = whole := List.take_append_drop size whole
      refine ⟨?_, fun _ => ⟨?_, rfl, fun hpos => ?_⟩, fun e he => by cases he⟩
      · rw [bytes_cons, bytes_cons, ← List.append_assoc, hsplit]
      · cases last with
        | none => rw [content, content, ← List.append_assoc, hsplit]
        | some e => exact hsplit.symm
      · simp only [effort, bytes_cons, List.length_append, List.length_cons, List.length_drop]
        omega

end Source

open Source (bytes content effort bytes_cons ending)

/-! ## The reader -/

/-- The errors of an exact-length body; `ε` are those of the source. -/
inductive BodyError (ε : Type) where
  | source (e : ε)
  | contentLengthMismatch
  deriving DecidableEq

/-- What is still due, and whether the mismatch has been found. -/
structure ExactLengthReader where
  remaining : ℕ
  failed : Bool
  deriving DecidableEq

namespace ExactLengthReader

variable {ε : Type}

/-- An answer to a read: bytes, and possibly an end. -/
abbrev Answer (ε : Type) := List Byte × Option (ReadEnd (BodyError ε))

def mismatch : Option (ReadEnd (BodyError ε)) := some (.failed .contentLengthMismatch)

/-- The source's end, as the reader passes it on. -/
def pass : ReadEnd ε → ReadEnd (BodyError ε)
  | .eof => .eof
  | .failed e => .failed (.source e)

/-- **One read** into a buffer of a size. -/
def read (r : ExactLengthReader) (size : ℕ) (source : Chunks ε) :
    Answer ε × ExactLengthReader × Chunks ε :=
  if r.failed then (([], mismatch), r, source)
  else
    let ((data, stop), source') := Source.read source (min size (r.remaining + 1))
    if r.remaining < data.length then (([], mismatch), { r with failed := true }, source')
    else
      let remaining := r.remaining - data.length
      if stop.any (fun e => e matches .eof) && remaining != 0 then
        ((data, mismatch), ⟨remaining, true⟩, source')
      else ((data, stop.map pass), ⟨remaining, false⟩, source')

/-- What reads into buffers of these sizes answer, one after the other. -/
def readAll : List ℕ → ExactLengthReader → Chunks ε → Chunks (BodyError ε)
  | [], _, _ => []
  | size :: sizes, r, source =>
    let result := r.read size source
    result.1 :: readAll sizes result.2.1 result.2.2

/-! ## What is due -/

/-- **What a declared length and a source deserve**: the mismatch for a source that has more bytes, or
    that is at its EOF with fewer; otherwise the source's own end. -/
def verdict (declared : ℕ) (source : Chunks ε) : ReadEnd (BodyError ε) :=
  if declared < (content source).length then .failed .contentLengthMismatch
  else if ending source matches .eof && (content source).length != declared then
    .failed .contentLengthMismatch
  else pass (ending source)

/-! ## One read -/

/-- **What one read of a reader that has not failed can be**: the mismatch, and it is deserved; an end
    of the source that is deserved; or bytes, after which as much is deserved as before. -/
inductive Step (n size : ℕ) (source : Chunks ε) : Answer ε × ExactLengthReader × Chunks ε → Prop where
  | fails {data : List Byte} {m : ℕ} {source' : Chunks ε}
      (hpre : data <+: bytes source) (hle : data.length ≤ n)
      (hdue : verdict n source = .failed .contentLengthMismatch) :
      Step n size source ((data, mismatch), ⟨m, true⟩, source')
  | ends {data : List Byte} {source' : Chunks ε} {stop : ReadEnd ε}
      (hbytes : bytes source = data ++ bytes source') (hle : data.length ≤ n)
      (hexact : stop = .eof → data.length = n) (hdue : verdict n source = pass stop) :
      Step n size source ((data, some (pass stop)), ⟨n - data.length, false⟩, source')
  | gives {data : List Byte} {source' : Chunks ε}
      (hbytes : bytes source = data ++ bytes source') (hle : data.length ≤ n)
      (hdue : verdict n source = verdict (n - data.length) source')
      (hless : 0 < size → effort source' < effort source) :
      Step n size source ((data, none), ⟨n - data.length, false⟩, source')

/-- **The step lemma.** -/
theorem read_step (n size : ℕ) (source : Chunks ε) :
    Step n size source (read ⟨n, false⟩ size source) := by
  rw [read, if_neg Bool.false_ne_true]
  rcases hread : Source.read source (min size (n + 1)) with ⟨⟨data, stop⟩, source'⟩
  obtain ⟨hbytes, hgoes, hstops⟩ := Source.read_spec source _ hread
  dsimp only
  by_cases hmore : n < data.length
  · -- more than is due, whatever comes with it
    rw [if_pos hmore]
    refine .fails List.nil_prefix (Nat.zero_le _) (if_pos ?_)
    cases stop with
    | none =>
      rw [(hgoes rfl).1, List.length_append]
      omega
    | some e => rwa [(hstops e rfl).1]
  rw [if_neg hmore]
  have hle : data.length ≤ n := Nat.le_of_not_lt hmore
  rcases stop with _ | _ | e
  · obtain ⟨hcontent, hending, hless⟩ := hgoes rfl
    have hlonger : n < (content source).length ↔
        n - data.length < (content source').length := by
      rw [hcontent, List.length_append]
      omega
    have hequal : (content source).length = n ↔
        (content source').length = n - data.length := by
      rw [hcontent, List.length_append]
      omega
    refine .gives hbytes hle ?_ (fun hpos => hless (by omega))
    simp only [verdict, hlonger, hending, bne, beq_eq_decide, hequal]
  · -- the source's EOF: in time, or too early
    obtain ⟨hcontent, hending⟩ := hstops .eof rfl
    by_cases hall : data.length = n
    · have hdue : n - data.length = 0 := by omega
      rw [if_neg (by simp [hdue])]
      refine .ends hbytes hle (fun _ => hall) ?_
      simp [verdict, hcontent, hending, hall]
    · have hdue : n - data.length ≠ 0 := by omega
      rw [if_pos (by simpa using hdue)]
      refine .fails ⟨_, hbytes.symm⟩ hle ?_
      simp [verdict, hcontent, hending, hall]
  · obtain ⟨hcontent, hending⟩ := hstops (.failed e) rfl
    refine .ends hbytes hle (fun h => by cases h) ?_
    simp [verdict, hcontent, hending, hmore]

/-! ## Every sequence of reads -/

/-- A reader that has failed answers the mismatch from then on. -/
theorem readAll_failed (sizes : List ℕ) (n : ℕ) (source : Chunks ε) :
    readAll sizes ⟨n, true⟩ source = List.replicate sizes.length ([], mismatch) := by
  induction sizes with
  | nil => rfl
  | cons size sizes ih => exact congrArg (([], mismatch) :: ·) ih

/-- **What the answers `out` may be** for a length and a source: their bytes are a prefix of the source's
    and not more than declared, and every EOF comes after exactly as many as declared. -/
structure Measured (declared : ℕ) (source : Chunks ε) (out : Chunks (BodyError ε)) : Prop where
  delivers : bytes out <+: bytes source
  bounded : (bytes out).length ≤ declared
  exact_eof : ∀ before data after, out = before ++ (data, some .eof) :: after →
    (bytes before ++ data).length = declared

/-- Answers without bytes and without EOF. -/
theorem measured_mismatches (k n : ℕ) (source : Chunks ε) :
    Measured n source (List.replicate k ([], mismatch)) where
  delivers := by simp [bytes]
  bounded := by simp [bytes]
  exact_eof := by
    intro before data after heq
    have hmem : (data, some .eof) ∈ List.replicate k (([], mismatch) : Answer ε) := by simp [heq]
    cases (Prod.mk.inj (List.eq_of_mem_replicate hmem)).2

/-- An answer before measured answers for the rest. -/
theorem Measured.cons {n : ℕ} {data : List Byte} {stop : Option (ReadEnd (BodyError ε))}
    {source source' : Chunks ε} {out : Chunks (BodyError ε)}
    (hrest : Measured (n - data.length) source' out)
    (hbytes : bytes source = data ++ bytes source') (hle : data.length ≤ n)
    (hexact : stop = some .eof → data.length = n) : Measured n source ((data, stop) :: out) where
  delivers := by
    rw [bytes_cons, hbytes]
    exact (List.prefix_append_right_inj _).2 hrest.delivers
  bounded := by
    have hout := hrest.bounded
    rw [bytes_cons, List.length_append]
    omega
  exact_eof := by
    intro before d after heq
    rcases List.cons_eq_append_iff.1 heq with ⟨rfl, hhead⟩ | ⟨before', rfl, htail⟩
    · obtain ⟨hanswer, -⟩ := List.cons_eq_cons.1 hhead
      obtain ⟨rfl, hstop⟩ := Prod.mk.inj hanswer
      exact hexact hstop.symm
    · have hlen := hrest.exact_eof before' d after htail
      simp only [bytes_cons, List.length_append] at hlen ⊢
      omega

theorem readAll_measured (sizes : List ℕ) (n : ℕ) (source : Chunks ε) :
    Measured n source (readAll sizes ⟨n, false⟩ source) := by
  induction sizes generalizing n source with
  | nil => exact measured_mismatches 0 n source
  | cons size sizes ih =>
    rw [readAll]
    have hstep := read_step n size source
    generalize read ⟨n, false⟩ size source = result at hstep
    cases hstep with
    | fails hpre hle hdue =>
      obtain ⟨left, hleft⟩ := hpre
      rw [readAll_failed]
      refine (measured_mismatches _ _ [(left, none)]).cons ?_ hle (fun h => by cases h)
      simpa using hleft.symm
    | @ends _ _ stop hbytes hle hexact hdue =>
      refine (ih _ _).cons hbytes hle (fun h => hexact ?_)
      cases stop with
      | eof => rfl
      | failed e => cases h
    | gives hbytes hle hdue hless => exact (ih _ _).cons hbytes hle (fun h => by cases h)

/-- **The first end is the deserved one**, and reads into non-empty buffers get there. -/
theorem readAll_end (sizes : List ℕ) (n : ℕ) (source : Chunks ε) :
    (∀ stop ∈ (readAll sizes ⟨n, false⟩ source).findSome? Prod.snd, stop = verdict n source) ∧
    ((∀ size ∈ sizes, 0 < size) → effort source < sizes.length →
      ((readAll sizes ⟨n, false⟩ source).findSome? Prod.snd).isSome) := by
  induction sizes generalizing n source with
  | nil => exact ⟨(fun stop h => by cases h), fun _ h => by cases h⟩
  | cons size sizes ih =>
    rw [readAll]
    have hstep := read_step n size source
    generalize read ⟨n, false⟩ size source = result at hstep
    cases hstep with
    | fails hpre hle hdue => exact ⟨fun stop h => hdue ▸ (Option.some.inj h).symm, fun _ _ => rfl⟩
    | ends hbytes hle hexact hdue =>
      exact ⟨fun stop h => hdue ▸ (Option.some.inj h).symm, fun _ _ => rfl⟩
    | gives hbytes hle hdue hless =>
      obtain ⟨hfirst, hreach⟩ := ih (n - _) _
      refine ⟨fun stop h => hdue ▸ hfirst stop h, fun hpos hlen => hreach ?_ ?_⟩
      · exact fun k hk => hpos k (List.mem_cons_of_mem _ hk)
      · have := hless (hpos size List.mem_cons_self)
        rw [List.length_cons] at hlen
        omega

/-- **Exact-length bodies.**  Over every source, however it is cut into chunks and wherever its EOF or
    error stands, and buffers of every size: the answers are measured; the first end they report is the
    deserved one; and enough reads into non-empty buffers do report one. -/
theorem readAll_exactLength (declared : ℕ) (source : Chunks ε) (sizes : List ℕ) :
    let out := readAll sizes ⟨declared, false⟩ source
    Measured declared source out ∧
    (∀ stop ∈ out.findSome? Prod.snd, stop = verdict declared source) ∧
    ((∀ size ∈ sizes, 0 < size) → effort source < sizes.length →
      out.findSome? Prod.snd = some (verdict declared source)) := by
  obtain ⟨hfirst, hreach⟩ := readAll_end sizes declared source
  refine ⟨readAll_measured sizes declared source, hfirst, fun hpos hlen => ?_⟩
  obtain ⟨stop, hstop⟩ := Option.isSome_iff_exists.1 (hreach hpos hlen)
  rw [hstop, hfirst stop hstop]

end ExactLengthReader

/-! ## What is sent on -/

open ExactLengthReader

variable {ε : Type}

/-- `pendingQuotaReadCloser`: a body of no declared length.  `refuse` is the context's error in a round,
    or that of reserving the bytes read in it. -/
def pendingQuota (refuse : ℕ → List Byte → Option ε) : ℕ → Chunks ε → Chunks (BodyError ε)
  | _, [] => []
  | round, (data, stop) :: rest =>
    match refuse round data with
    | some e => [([], some (.failed (.source e)))]
    | none => (data, stop.map pass) :: pendingQuota refuse (round + 1) rest

/-- The body and the length that go into the request. -/
def outgoing (originalContentLength : ℤ) (bodyIntegrityHeader : Bool) (p : PreparedRequest Body) :
    Option (Body × ℤ) :=
  if p.action = .rejectHostedComputer then none
  else if p.action ≠ .normalize then some (p.body, originalContentLength)
  else if bodyIntegrityHeader then none
  else some (p.body, p.contentLength)

/-- **`prepareResponsesRequest`**, for a request that the scheduler admits: what is sent on. -/
def prepareResponsesRequest (env : Env) (limits : Limits) (policy : Policy)
    (refuse : ℕ → List Byte → Option ε) (sizes : List ℕ) (originalContentLength : ℤ) (source : Chunks ε)
    (contentEncoding : List Byte) (bodyIntegrityHeader : Bool) : Option (Body × ℤ) :=
  if limits.maxEncodedBytes < originalContentLength then none
  else
    let quotaBody := if 0 ≤ originalContentLength then
        readAll sizes ⟨originalContentLength.toNat, false⟩ source
      else pendingQuota refuse 0 source
    (prepareRequest env limits (some quotaBody) contentEncoding policy).toOption.bind
      (outgoing originalContentLength bodyIntegrityHeader)

/-- What is gathered from a source that has an end are the bytes before it, and it is an EOF. -/
theorem gather_ok {limit : ℤ} {limitError : SizeLimit} {reads : Chunks ε} {before all : List Byte}
    (h : gather limit limitError before reads = .ok all) :
    reads.findSome? Prod.snd = none ∨ ∃ chunks data rest, reads = chunks ++ (data, some .eof) :: rest ∧
      all = before ++ (bytes chunks ++ data) ∧ reads.findSome? Prod.snd = some .eof := by
  induction reads generalizing before with
  | nil => exact .inl rfl
  | cons chunk reads ih =>
    obtain ⟨data, stop⟩ := chunk
    obtain ⟨_, hgathered, h⟩ := bind_ok h
    obtain ⟨rfl, -⟩ := appendWithin_ok hgathered
    cases stop with
    | some stop =>
      cases stop <;> cases h
      exact .inr ⟨[], data, reads, rfl, rfl, rfl⟩
    | none =>
      simp only at h
      split at h
      · cases h
      · obtain hnone | ⟨chunks, last, rest, rfl, rfl, heof⟩ := ih h
        · exact .inl hnone
        · refine .inr ⟨(data, none) :: chunks, last, rest, rfl, ?_, heof⟩
          rw [bytes_cons, List.append_assoc, List.append_assoc]

section Sent

variable {env : Env} {limits : Limits} {policy : Policy} {contentEncoding : List Byte} {integrity : Bool}
variable {declared length : ℤ} {body : Body}

/-- What is sent on is measured again if it was rewritten; otherwise it is what was gathered. -/
theorem outgoing_spec (hlive : env.Live) {reads : Chunks ε}
    (h : (prepareRequest env limits (some reads) contentEncoding policy).toOption.bind
      (outgoing declared integrity) = some (body, length)) :
    ∃ original, gather limits.maxEncodedBytes .encoded [] reads = .ok original ∧
      (length = body.bytes.length ∨ length = declared ∧ body.bytes = original) := by
  obtain ⟨p, hp, hout⟩ := Option.bind_eq_some_iff.1 h
  cases hprepared : prepareRequest env limits (some reads) contentEncoding policy <;>
    rw [hprepared] at hp <;> cases hp
  obtain ⟨-, encoding, original, decoded, scan, hreceived, hview⟩ := exists_received hlive hprepared
  refine ⟨original, hreceived.gathered, ?_⟩
  by_cases hnormalize : chooseAction env.toLower policy scan = .normalize
  · have hq := ((handOverContent_normalize hreceived.scanned hnormalize _ _ _).1 hview).2
    have haction : p.action = .normalize := congrArg (·.action) hq
    have hlength : p.contentLength = p.body.bytes.length :=
      (congrArg (·.contentLength) hq).trans (congrArg (fun q => (q.body.length : ℤ)) hq.symm)
    rw [outgoing, haction] at hout
    cases integrity <;> cases hout
    exact .inl hlength
  · have hq := Except.ok.inj ((handOverContent_other hnormalize _ _).symm.trans hview)
    have haction : chooseAction env.toLower policy scan = p.action := congrArg (·.action) hq
    rw [haction] at hnormalize
    rw [outgoing, if_pos hnormalize] at hout
    split at hout <;> cases hout
    exact .inr ⟨rfl, (congrArg (·.body) hq).symm⟩

end Sent

end OpenCodexRelay.Proxy
