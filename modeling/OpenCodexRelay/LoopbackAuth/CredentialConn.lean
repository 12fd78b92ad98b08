/-
  The connection that adds the credential to the one request it carries.

  `credentialConn.Write` keeps what it is given until the head of the request is complete, writes the
  head with the credential's line to the socket, and from then on only passes bytes on.  How the
  caller cuts the request into writes is the caller's business; the socket should not see it.

  1. `CredentialConn.write`: the program, on a socket that takes what it is given (its errors and
     deadlines are not part of the model).
  2. `Staged`: what the connection is after some bytes of a head that is not complete, and
     `write_staged`, the one step that there is.
  3. `writes_eq`: the state after a whole request, for every way to cut it.
  4. The limit is applied to what has been STAGED, which may include the beginning of the terminator,
     but to what stands BEFORE the terminator when that is complete.  So a head whose last bytes fit
     exactly is accepted in one write and refused when the cut falls into its terminator
     (`writes_independent_iff`).
  5. `writes_credentialed`: at any moment of any sequence of writes, also one that is no request, the
     socket has seen nothing that does not stand behind the credential.
-/
import OpenCodexRelay.Json
import OpenCodexRelay.Text

namespace LoopbackAuth

open Json Text

def maximumHeaderBytes : ℕ := 64 * 1024

def maximumTokenBytes : ℕ := 4 * 1024

def headerTerminatorBytes : ℕ := 4

def maximumCandidateHeaderBytes : ℕ := maximumHeaderBytes + headerTerminatorBytes

def credentialHeader : List Byte := ascii "X-OpenCodex-API-Key"

def crlf : List Byte := [0x0d, 0x0a]

def headerTerminator : List Byte := [0x0d, 0x0a, 0x0d, 0x0a]

/-- `bytes.ContainsAny(_, "\x00\r\n")`. -/
def containsBreak (bs : List Byte) : Bool := bs.any fun b => b == 0x00 || b == 0x0d || b == 0x0a

def validToken (token : List Byte) : Bool :=
  !(token.isEmpty || decide (maximumTokenBytes < token.length)) && !containsBreak token

/-- `bytes.Split(header, "\r\n")`. -/
def splitLines : List Byte → List (List Byte)
  | [] => [[]]
  | [b] => [[b]]
  | b :: c :: rest =>
    if b = 0x0d ∧ c = 0x0a then [] :: splitLines rest
    else match splitLines (c :: rest) with
      | [] => [[b]]
      | line :: lines => (b :: line) :: lines

section Header

-- `strings.EqualFold(strings.TrimSpace(name), CredentialHeader)`.
variable (namesCredential : List Byte → Bool)

/-- What is checked of a line of the header. -/
def validLine (line : List Byte) : Bool :=
  match line.findIdx? (· == 0x3a) with
  | none => false
  | some separator =>
    !(separator == 0 || line.head? == some 0x20 || line.head? == some 0x09) &&
      !namesCredential (line.take separator)

def validGeneratedHeader (header : List Byte) : Bool :=
  match splitLines header with
  | [] => false
  | first :: rest => !(first.isEmpty || containsBreak first) && rest.all (validLine namesCredential)

end Header

/-- `credentialConn`, with what the socket has received. -/
structure CredentialConn where
  header : List Byte
  token : List Byte
  /-- The lifecycle lease has not been given back. -/
  release : Bool
  authenticated : Bool
  failed : Bool
  sent : List Byte
  closed : Bool
  deriving DecidableEq, Repr

/-- `newCredentialConn`. -/
def newCredentialConn (token : List Byte) : CredentialConn :=
  ⟨[], token, true, false, false, [], false⟩

/-- `ErrBinding`. -/
inductive BindingError where
  | binding
  deriving DecidableEq, Repr

namespace CredentialConn

def finishAuthorizationLocked (c : CredentialConn) : CredentialConn :=
  { c with token := [], release := false }

def failLocked (c : CredentialConn) : Except BindingError ℕ × CredentialConn :=
  (.error .binding,
    { finishAuthorizationLocked { c with failed := true, header := [] } with closed := true })

/-- The line that carries the credential, and the end of the head. -/
def credentialLine (token : List Byte) : List Byte := credentialHeader ++ (ascii ": " ++ token)

def encodeHeader (header token : List Byte) : List Byte :=
  header ++ (crlf ++ (credentialLine token ++ headerTerminator))

variable (namesCredential : List Byte → Bool)

/-- **`Write`.** -/
def write (value : List Byte) (c : CredentialConn) : Except BindingError ℕ × CredentialConn :=
  if c.failed then (.error .binding, c)
  else if c.authenticated then (.ok value.length, { c with sent := c.sent ++ value })
  else
    let previous := c.header.length
    if maximumHeaderBytes < previous then c.failLocked
    else if maximumCandidateHeaderBytes ≤ previous then c.failLocked
    else
      let prefixLength := min value.length (maximumCandidateHeaderBytes - previous)
      let candidate := c.header ++ value.take prefixLength
      match index headerTerminator candidate with
      | none =>
        if maximumHeaderBytes - previous < value.length then c.failLocked
        else (.ok value.length, { c with header := c.header ++ value })
      | some separator =>
        if maximumHeaderBytes < separator ∨
            ¬validGeneratedHeader namesCredential (candidate.take separator) then c.failLocked
        else if separator + headerTerminatorBytes < previous ∨
            value.length < separator + headerTerminatorBytes - previous then c.failLocked
        else
          let bodyOffset := separator + headerTerminatorBytes - previous
          let encoded := encodeHeader (candidate.take separator) c.token
          let bound := finishAuthorizationLocked
            { c with sent := c.sent ++ encoded, authenticated := true }
          (.ok value.length, { bound with header := [], sent := bound.sent ++ value.drop bodyOffset })

/-- The caller writes one piece after the other; an error does not keep it from going on. -/
def writes : List (List Byte) → CredentialConn → CredentialConn
  | [], c => c
  | value :: rest, c => writes rest (c.write namesCredential value).2

end CredentialConn

/-! ## Lines -/

theorem splitLines_ne_nil (header : List Byte) : splitLines header ≠ [] := by
  fun_induction splitLines header with
  | case1 | case2 | case3 | case4 | case5 => simp

/-- A line break separates the lines in front of it from those behind it. -/
theorem splitLines_append (header rest : List Byte) :
    splitLines (header ++ (crlf ++ rest)) = splitLines header ++ splitLines rest := by
  fun_induction splitLines header with
  | case1 => rfl
  | case2 b =>
    have hbreak : splitLines (0x0d :: 0x0a :: rest) = [] :: splitLines rest := rfl
    show splitLines (b :: 0x0d :: 0x0a :: rest) = [b] :: splitLines rest
    rw [splitLines, if_neg (fun hboth => absurd hboth.2 (by decide)), hbreak]
  | case3 b c more hbreak ih =>
    show splitLines (b :: c :: (more ++ (crlf ++ rest))) = _
    rw [splitLines, if_pos hbreak, ih]
    rfl
  | case4 b c more hbreak hnone => exact absurd hnone (splitLines_ne_nil _)
  | case5 b c more hbreak line lines hlines ih =>
    rw [hlines] at ih
    have ih' : splitLines (c :: (more ++ (crlf ++ rest))) = line :: (lines ++ splitLines rest) := ih
    show splitLines (b :: c :: (more ++ (crlf ++ rest))) = _
    rw [splitLines, if_neg hbreak, ih']
    rfl

/-- A text without a carriage return is one line. -/
theorem splitLines_eq_singleton {line : List Byte} (h : 0x0d ∉ line) : splitLines line = [line] := by
  fun_induction splitLines line with
  | case1 => rfl
  | case2 b => rfl
  | case3 b c more hbreak ih => exact absurd (hbreak.1 ▸ List.mem_cons_self) h
  | case4 b c more hbreak hnone => exact absurd hnone (splitLines_ne_nil _)
  | case5 b c more hbreak line lines hlines ih =>
    have hrest := ih fun hmem => h (List.mem_cons_of_mem _ hmem)
    rw [hlines] at hrest
    obtain ⟨rfl, rfl⟩ := List.cons.inj hrest
    rfl

theorem not_mem_of_containsBreak {bs : List Byte} (h : containsBreak bs = false) : 0x0d ∉ bs := by
  intro hmem
  have hany : containsBreak bs = true := List.any_eq_true.mpr ⟨_, hmem, by decide⟩
  exact Bool.false_ne_true (h.symm.trans hany)

namespace CredentialConn

/-- The line of the credential is one line, whatever token the authorizer returns. -/
theorem splitLines_credentialLine {token : List Byte} (h : validToken token = true) :
    splitLines (credentialLine token) = [credentialLine token] := by
  have hbreak : containsBreak token = false := by
    rw [validToken, Bool.and_eq_true] at h
    simpa using h.2
  refine splitLines_eq_singleton fun hmem => ?_
  rcases List.mem_append.mp hmem with hname | hmem
  · revert hname
    decide
  · rcases List.mem_append.mp hmem with hcolon | htoken
    · revert hcolon
      decide
    · exact not_mem_of_containsBreak hbreak htoken

/-! ## The states of a connection -/

/-- Some bytes of a head have been kept. -/
def staged (token pre : List Byte) : CredentialConn := ⟨pre, token, true, false, false, [], false⟩

/-- The request was refused: the socket has seen nothing of it. -/
def refused : CredentialConn := ⟨[], [], false, false, true, [], true⟩

/-- The head has been sent with the credential, and some of the body. -/
def bound (token header body : List Byte) : CredentialConn :=
  ⟨[], [], false, true, false, encodeHeader header token ++ body, false⟩

section Writes

variable {namesCredential : List Byte → Bool} {token stream : List Byte} {h : ℕ}

/-- What a request comes to in ONE write. -/
def outcome (namesCredential : List Byte → Bool) (token stream : List Byte) (h : ℕ) :
    CredentialConn :=
  if h ≤ maximumHeaderBytes ∧ validGeneratedHeader namesCredential (stream.take h) then
    bound token (stream.take h) (stream.drop (h + headerTerminatorBytes))
  else refused

/-- **One write while the head is not complete.**  It ends the head, or goes beyond the limit, or is
    kept. -/
theorem write_staged (hhead : index headerTerminator stream = some h) {pre value rest : List Byte}
    (hstream : stream = pre ++ (value ++ rest)) (hpre : pre.length ≤ maximumHeaderBytes)
    (hopen : pre.length < h + headerTerminatorBytes) :
    ((staged token pre).write namesCredential value).2 =
      if h + headerTerminatorBytes ≤ pre.length + value.length ∧ h ≤ maximumHeaderBytes then
        if validGeneratedHeader namesCredential (stream.take h) then
          bound token (stream.take h) ((pre ++ value).drop (h + headerTerminatorBytes))
        else refused
      else if maximumHeaderBytes < pre.length + value.length then refused
      else staged token (pre ++ value) := by
  have hlimit : maximumCandidateHeaderBytes = maximumHeaderBytes + 4 := rfl
  have hfour : headerTerminatorBytes = 4 := rfl
  -- The candidate is the beginning of the stream, up to the limit of what is looked at.
  have hcandidate : pre ++ value.take (min value.length (maximumCandidateHeaderBytes - pre.length)) =
      stream.take (min (pre.length + value.length) maximumCandidateHeaderBytes) := by
    have hall : min (pre.length + value.length) maximumCandidateHeaderBytes =
        pre.length + min value.length (maximumCandidateHeaderBytes - pre.length) := by omega
    rw [hall, hstream, List.take_length_add_append, List.take_append_of_le_length (by omega)]
  have hfound := index_take (by decide) hhead
    (min (pre.length + value.length) maximumCandidateHeaderBytes)
  have hterminator : headerTerminator.length = 4 := rfl
  rw [hterminator] at hfound
  have hvalue : stream.take (pre.length + value.length) = pre ++ value := by
    rw [hstream, ← List.append_assoc, ← List.length_append, List.take_left]
  have hprevious : (staged token pre).header.length = pre.length := rfl
  have hheld : (staged token pre).header = pre := rfl
  unfold write
  rw [if_neg (by exact Bool.false_ne_true), if_neg (by exact Bool.false_ne_true),
    if_neg (by omega), if_neg (by omega)]
  by_cases hended : h + headerTerminatorBytes ≤ pre.length + value.length ∧ h ≤ maximumHeaderBytes
  · rw [if_pos (by omega)] at hfound
    have hheader : (stream.take (min (pre.length + value.length) maximumCandidateHeaderBytes)).take h =
        stream.take h := by
      rw [List.take_take, Nat.min_eq_left (by omega)]
    simp only [hheld, hcandidate, hfound, hheader]
    rw [if_pos hended]
    cases hvalid : validGeneratedHeader namesCredential (stream.take h) with
    | false =>
      rw [if_pos (.inr Bool.false_ne_true), if_neg Bool.false_ne_true]
      rfl
    | true =>
      have hgood : ¬(maximumHeaderBytes < h ∨ ¬true = true) := fun hbad =>
        hbad.elim (fun hlong => absurd hended.2 (Nat.not_le.mpr hlong)) (fun hfalse => hfalse rfl)
      have hbody : value.drop (h + headerTerminatorBytes - pre.length) =
          (pre ++ value).drop (h + headerTerminatorBytes) := by
        have hpast : pre.drop (h + headerTerminatorBytes) = [] := List.drop_eq_nil_of_le (by omega)
        rw [List.drop_append, hpast, List.nil_append]
      rw [if_neg hgood, if_neg (by omega), if_pos rfl, hbody]
      rfl
  · rw [if_neg (by omega)] at hfound
    simp only [hheld, hcandidate, hfound]
    rw [if_neg hended]
    by_cases hlong : maximumHeaderBytes < pre.length + value.length
    · rw [if_pos (by omega), if_pos hlong]
      rfl
    · rw [if_neg (by omega), if_neg hlong]
      rfl

theorem writes_refused (chunks : List (List Byte)) :
    refused.writes namesCredential chunks = refused := by
  induction chunks with
  | nil => rfl
  | cons value chunks ih => exact ih

/-- After the head everything is passed on. -/
theorem writes_bound (header body : List Byte) (chunks : List (List Byte)) :
    (bound token header body).writes namesCredential chunks =
      bound token header (body ++ chunks.flatten) := by
  induction chunks generalizing body with
  | nil => rw [List.flatten_nil, List.append_nil, writes]
  | cons value chunks ih =>
    have hstep : ((bound token header body).write namesCredential value).2 =
        bound token header (body ++ value) := by
      simp [write, bound]
    rw [writes, hstep, ih, List.flatten_cons, List.append_assoc]

/-- **A write ends inside the terminator and beyond the limit**, counting the `n` bytes that have
    been written before. -/
def CutFrom (n h : ℕ) (chunks : List (List Byte)) : Prop :=
  ∃ written, written <+: chunks ∧ maximumHeaderBytes < n + written.flatten.length ∧
    n + written.flatten.length < h + headerTerminatorBytes

theorem cutFrom_cons {n : ℕ} {value : List Byte} {chunks : List (List Byte)}
    (hn : n ≤ maximumHeaderBytes) (hnext : n + value.length ≤ maximumHeaderBytes) :
    CutFrom n h (value :: chunks) ↔ CutFrom (n + value.length) h chunks := by
  constructor
  · rintro ⟨written, hwritten, hbeyond, hinside⟩
    cases written with
    | nil =>
      rw [List.flatten_nil, List.length_nil] at hbeyond
      omega
    | cons v written =>
      obtain ⟨rfl, hmore⟩ := List.cons_prefix_cons.mp hwritten
      rw [List.flatten_cons, List.length_append] at hbeyond hinside
      exact ⟨written, hmore, by omega, by omega⟩
  · rintro ⟨written, hwritten, hbeyond, hinside⟩
    refine ⟨value :: written, List.cons_prefix_cons.mpr ⟨rfl, hwritten⟩, ?_, ?_⟩
    · rw [List.flatten_cons, List.length_append]
      omega
    · rw [List.flatten_cons, List.length_append]
      omega

/-- A write that ends behind the terminator leaves no room for another one inside. -/
theorem not_cutFrom {n : ℕ} {value : List Byte} {chunks : List (List Byte)}
    (hn : n ≤ maximumHeaderBytes) (hend : h + headerTerminatorBytes ≤ n + value.length) :
    ¬CutFrom n h (value :: chunks) := by
  rintro ⟨written, hwritten, hbeyond, hinside⟩
  cases written with
  | nil =>
    rw [List.flatten_nil, List.length_nil] at hbeyond
    omega
  | cons v written =>
    obtain ⟨rfl, -⟩ := List.cons_prefix_cons.mp hwritten
    rw [List.flatten_cons, List.length_append] at hinside
    omega

/-- **What a request comes to, however it is cut.** -/
theorem writes_staged (hhead : index headerTerminator stream = some h) {pre : List Byte}
    {chunks : List (List Byte)} (hstream : stream = pre ++ chunks.flatten)
    (hpre : pre.length ≤ maximumHeaderBytes) (hopen : pre.length < h + headerTerminatorBytes) :
    ((staged token pre).writes namesCredential chunks = outcome namesCredential token stream h ∧
        (h ≤ maximumHeaderBytes → ¬CutFrom pre.length h chunks)) ∨
      ((staged token pre).writes namesCredential chunks = refused ∧
        h ≤ maximumHeaderBytes ∧ CutFrom pre.length h chunks) := by
  induction chunks generalizing pre with
  | nil =>
    have hlength := index_add_le (by decide) hhead
    rw [hstream, List.flatten_nil, List.append_nil] at hlength
    exact absurd hlength (Nat.not_le.mpr hopen)
  | cons value chunks ih =>
    rw [List.flatten_cons] at hstream
    rw [writes, write_staged hhead hstream hpre hopen]
    by_cases hended : h + headerTerminatorBytes ≤ pre.length + value.length ∧ h ≤ maximumHeaderBytes
    · -- The head is complete.
      left
      rw [if_pos hended]
      refine ⟨?_, fun _ => not_cutFrom hpre hended.1⟩
      by_cases hvalid : validGeneratedHeader namesCredential (stream.take h) = true
      · rw [if_pos hvalid, writes_bound, outcome, if_pos ⟨hended.2, hvalid⟩]
        have hwhole : h + headerTerminatorBytes ≤ (pre ++ value).length := by
          rw [List.length_append]
          exact hended.1
        have hbody : stream.drop (h + headerTerminatorBytes) =
            (pre ++ value).drop (h + headerTerminatorBytes) ++ chunks.flatten := by
          rw [hstream, ← List.append_assoc, List.drop_append_of_le_length hwhole]
        rw [hbody]
      · rw [if_neg hvalid, writes_refused, outcome, if_neg fun hboth => hvalid hboth.2]
    · rw [if_neg hended]
      by_cases hlong : maximumHeaderBytes < pre.length + value.length
      · -- Beyond the limit, and the terminator is not complete or stands beyond it, too.
        rw [if_pos hlong, writes_refused]
        by_cases hfits : h ≤ maximumHeaderBytes
        · right
          refine ⟨rfl, hfits, [value], List.cons_prefix_cons.mpr ⟨rfl, List.nil_prefix⟩, ?_, ?_⟩
          · simpa using hlong
          · simp only [List.flatten_cons, List.flatten_nil, List.append_nil]
            omega
        · left
          rw [outcome, if_neg fun hboth => hfits hboth.1]
          exact ⟨rfl, fun h => absurd h hfits⟩
      · rw [if_neg hlong]
        have hlength : (pre ++ value).length = pre.length + value.length := List.length_append
        have hcut := @cutFrom_cons h pre.length value chunks hpre (Nat.not_lt.mp hlong)
        have hfour : headerTerminatorBytes = 4 := rfl
        have hrest := @ih (pre ++ value) (by rw [hstream, List.append_assoc]) (by omega) (by omega)
        rw [hlength, ← hcut] at hrest
        exact hrest

/-- In one piece a request is never cut. -/
theorem writes_single (hhead : index headerTerminator stream = some h) :
    (newCredentialConn token).writes namesCredential [stream] =
      outcome namesCredential token stream h := by
  have hlength : h + 4 ≤ stream.length := index_add_le (by decide) hhead
  have hfour : headerTerminatorBytes = 4 := rfl
  have hstaged := @writes_staged namesCredential token stream h hhead [] [stream] (by simp)
    (Nat.zero_le _) (by rw [List.length_nil]; omega)
  rcases hstaged with ⟨houtcome, -⟩ | ⟨-, -, hcut⟩
  · exact houtcome
  · refine absurd hcut (not_cutFrom (Nat.zero_le _) ?_)
    rw [List.length_nil]
    omega

/-- **A write ends inside the terminator and beyond the limit.** -/
def CutInTerminator (h : ℕ) (chunks : List (List Byte)) : Prop := CutFrom 0 h chunks

theorem writes_cut (hhead : index headerTerminator stream = some h) {chunks : List (List Byte)}
    (hchunks : chunks.flatten = stream) :
    ((newCredentialConn token).writes namesCredential chunks =
        outcome namesCredential token stream h ∧
        (h ≤ maximumHeaderBytes → ¬CutInTerminator h chunks)) ∨
      ((newCredentialConn token).writes namesCredential chunks = refused ∧
        h ≤ maximumHeaderBytes ∧ CutInTerminator h chunks) :=
  @writes_staged namesCredential token stream h hhead [] chunks hchunks.symm (Nat.zero_le _)
    (Nat.lt_of_lt_of_le (show 0 < headerTerminatorBytes by decide) (Nat.le_add_left _ _))

/-- **How far the socket sees how a request is cut into writes.**  In one write, a head within the
    limit that is well formed is sent with exactly one more line, the credential's, and the body
    follows; of any other request nothing is sent, and the connection has failed.  Every other way to
    cut the request comes to the same, UNLESS such a head ends so close to the limit that a write ends
    inside its terminator and beyond the limit. -/
theorem writes_independent_iff (htoken : validToken token = true)
    (hhead : index headerTerminator stream = some h) {chunks : List (List Byte)}
    (hchunks : chunks.flatten = stream) :
    (if h ≤ maximumHeaderBytes ∧ validGeneratedHeader namesCredential (stream.take h) then
        ((newCredentialConn token).writes namesCredential [stream]).sent =
          encodeHeader (stream.take h) token ++ stream.drop (h + headerTerminatorBytes) ∧
        ((newCredentialConn token).writes namesCredential [stream]).failed = false ∧
        splitLines (stream.take h ++ (crlf ++ credentialLine token)) =
          splitLines (stream.take h) ++ [credentialLine token]
      else
        ((newCredentialConn token).writes namesCredential [stream]).sent = [] ∧
        ((newCredentialConn token).writes namesCredential [stream]).failed = true) ∧
    ((((newCredentialConn token).writes namesCredential chunks).sent =
          ((newCredentialConn token).writes namesCredential [stream]).sent ∧
        ((newCredentialConn token).writes namesCredential chunks).failed =
          ((newCredentialConn token).writes namesCredential [stream]).failed) ↔
      ¬(h ≤ maximumHeaderBytes ∧ validGeneratedHeader namesCredential (stream.take h) = true ∧
        CutInTerminator h chunks)) := by
  have hline := splitLines_credentialLine htoken
  rw [writes_single hhead]
  by_cases hgood : h ≤ maximumHeaderBytes ∧ validGeneratedHeader namesCredential (stream.take h)
  · have houtcome : outcome namesCredential token stream h =
        bound token (stream.take h) (stream.drop (h + headerTerminatorBytes)) := if_pos hgood
    rw [if_pos hgood, houtcome]
    refine ⟨⟨rfl, rfl, by rw [splitLines_append, hline]⟩, ?_⟩
    rcases @writes_cut namesCredential token _ _ hhead _ hchunks with ⟨hrun, hcut⟩ | ⟨hrun, hfits, hcut⟩
    · rw [hrun, houtcome]
      exact iff_of_true ⟨rfl, rfl⟩ fun hbad => hcut hgood.1 hbad.2.2
    · rw [hrun]
      refine iff_of_false (fun hsame => ?_) (fun hbad => hbad ⟨hfits, hgood.2, hcut⟩)
      exact Bool.false_ne_true hsame.2.symm
  · have houtcome : outcome namesCredential token stream h = refused := if_neg hgood
    rw [if_neg hgood, houtcome]
    refine ⟨⟨rfl, rfl⟩, ?_⟩
    have hrun : (newCredentialConn token).writes namesCredential chunks = refused := by
      rcases @writes_cut namesCredential token _ _ hhead _ hchunks with ⟨hrun, -⟩ | ⟨hrun, -⟩
      · exact hrun.trans houtcome
      · exact hrun
    rw [hrun]
    exact iff_of_true ⟨rfl, rfl⟩ fun hbad => hgood ⟨hbad.1, hbad.2.1⟩

end Writes

/-- A short request in three pieces, two of which end inside the terminator. -/
theorem writes_independent_iff_short :
    ((newCredentialConn (ascii "key")).writes (· == credentialHeader)
      [ascii "GET / HTTP/1.1\r\nHost: x\r", ascii "\n\r", ascii "\nbody"]).sent =
    ((newCredentialConn (ascii "key")).writes (· == credentialHeader)
      [ascii "GET / HTTP/1.1\r\nHost: x\r\n\r\nbody"]).sent := by
  have hiff := @writes_independent_iff (· == credentialHeader) (ascii "key")
    (ascii "GET / HTTP/1.1\r\nHost: x\r\n\r\nbody") 23 (by decide) (by decide)
    [ascii "GET / HTTP/1.1\r\nHost: x\r", ascii "\n\r", ascii "\nbody"] (by decide)
  refine (hiff.2.mpr ?_).1
  rintro ⟨-, -, written, hwritten, hbeyond, -⟩
  have hlimit : 0 + written.flatten.length ≤ 31 := by
    obtain ⟨rest, hrest⟩ := hwritten
    have hall : (written ++ rest).flatten.length = 31 := by
      rw [hrest]
      decide
    rw [List.flatten_append, List.length_append] at hall
    omega
  exact absurd hbeyond (Nat.not_lt.mpr (hlimit.trans (by decide)))

/-- A head that takes the whole limit. -/
def longestHeader : List Byte := List.replicate maximumHeaderBytes 0x47

/-- **The head that fits exactly.**  In one write it is sent; in two, the first of which ends after the
    carriage return of its terminator, nothing is sent and the connection has failed. -/
theorem writes_longestHeader :
    ((newCredentialConn (ascii "key")).writes (· == credentialHeader)
      [longestHeader ++ headerTerminator]).failed = false ∧
    ((newCredentialConn (ascii "key")).writes (· == credentialHeader)
      [longestHeader ++ [0x0d], [0x0a, 0x0d, 0x0a]]).failed = true ∧
    ((newCredentialConn (ascii "key")).writes (· == credentialHeader)
      [longestHeader ++ [0x0d], [0x0a, 0x0d, 0x0a]]).sent = [] := by
  have hlength : longestHeader.length = maximumHeaderBytes := List.length_replicate
  have hno : (0x0d : Byte) ∉ longestHeader := by
    intro hmem
    exact absurd (List.eq_of_mem_replicate hmem) (by decide)
  have hhead : index headerTerminator (longestHeader ++ headerTerminator) = some maximumHeaderBytes := by
    have hfound := @index_append _ _ [0x0a, 0x0d, 0x0a] longestHeader [] 0x0d hno
    rw [hlength, List.append_nil] at hfound
    exact hfound
  have htake : (longestHeader ++ headerTerminator).take maximumHeaderBytes = longestHeader := by
    rw [← hlength, List.take_left]
  have hvalid : validGeneratedHeader (· == credentialHeader) longestHeader = true := by
    have hbreak : containsBreak longestHeader = false := by
      rw [containsBreak, List.any_eq_false]
      intro b hb
      rw [List.eq_of_mem_replicate hb]
      decide
    rw [validGeneratedHeader, splitLines_eq_singleton hno]
    simp only [hbreak, List.all_nil, Bool.and_true, Bool.or_false, Bool.not_eq_true',
      List.isEmpty_eq_false_iff]
    intro hnil
    rw [hnil] at hlength
    exact absurd hlength (by decide)
  refine ⟨?_, ?_⟩
  · rw [writes_single hhead, outcome, htake, if_pos ⟨le_rfl, hvalid⟩]
    rfl
  · have hflatten : [longestHeader ++ [0x0d], [0x0a, 0x0d, 0x0a]].flatten =
        longestHeader ++ headerTerminator := by
      simp [headerTerminator]
    have hcut : CutInTerminator maximumHeaderBytes [longestHeader ++ [0x0d], [0x0a, 0x0d, 0x0a]] := by
      refine ⟨[longestHeader ++ [0x0d]], List.cons_prefix_cons.mpr ⟨rfl, List.nil_prefix⟩, ?_, ?_⟩
      · simp [hlength]
      · simp [hlength, headerTerminatorBytes]
    rcases @writes_cut (· == credentialHeader) (ascii "key") _ _ hhead _ hflatten with ⟨-, hnot⟩ | ⟨hrun, -⟩
    · exact absurd hcut (hnot le_rfl)
    · rw [hrun]
      exact ⟨rfl, rfl⟩

/-! ### At any moment -/

/-- As long as the head is not complete, everything is kept, or the request has been refused. -/
theorem writes_open {namesCredential : List Byte → Bool} {token stream : List Byte} {h : ℕ}
    (hhead : index headerTerminator stream = some h) {pre rest : List Byte} {chunks : List (List Byte)}
    (hstream : stream = pre ++ (chunks.flatten ++ rest)) (hpre : pre.length ≤ maximumHeaderBytes)
    (hopen : pre.length + chunks.flatten.length < h + headerTerminatorBytes) :
    (staged token pre).writes namesCredential chunks = staged token (pre ++ chunks.flatten) ∨
      (staged token pre).writes namesCredential chunks = refused := by
  induction chunks generalizing pre with
  | nil => exact .inl (by simp [writes])
  | cons value chunks ih =>
    rw [List.flatten_cons, List.append_assoc] at hstream
    rw [List.flatten_cons, List.length_append] at hopen
    rw [writes, write_staged hhead hstream hpre (by omega), if_neg (by omega)]
    split_ifs with hlong
    · exact .inr (writes_refused chunks)
    · rw [List.flatten_cons, ← List.append_assoc]
      exact ih (by rw [hstream, List.append_assoc]) (by rw [List.length_append]; omega)
        (by rw [List.length_append]; omega)

/-- **Whatever is written, and however far it has got**: the socket has received nothing, or a
    well-formed head within the limit with the credential's line in front of exactly the bytes that
    were written after it.  The token and the lease are kept only until then, or until a refusal. -/
theorem writes_credentialed (namesCredential : List Byte → Bool) (token : List Byte)
    (chunks : List (List Byte)) :
    let c := (newCredentialConn token).writes namesCredential chunks
    (c.sent = [] ∧ c.authenticated = false ∧
      (c.failed = true ∧ c.closed = true ∧ c.token = [] ∧ c.release = false ∨
        c.failed = false ∧ c.header = chunks.flatten ∧ index headerTerminator chunks.flatten = none)) ∨
    ∃ h, index headerTerminator chunks.flatten = some h ∧ h ≤ maximumHeaderBytes ∧
      validGeneratedHeader namesCredential (chunks.flatten.take h) = true ∧
      c.sent = encodeHeader (chunks.flatten.take h) token ++
        chunks.flatten.drop (h + headerTerminatorBytes) ∧
      c.token = [] ∧ c.release = false ∧ c.failed = false := by
  intro c
  cases hindex : index headerTerminator chunks.flatten with
  | some h =>
    have hcut := @writes_cut namesCredential token _ h hindex chunks rfl
    unfold outcome at hcut
    split_ifs at hcut with hvalid
    · rcases hcut with ⟨hc, -⟩ | ⟨hc, -⟩
      · exact .inr ⟨h, rfl, hvalid.1, hvalid.2, by simp [c, hc, bound]⟩
      · exact .inl (by simp [c, hc, refused])
    · exact .inl (by simp [c, hcut.elim And.left And.left, refused])
  | none =>
    -- nothing is complete yet: a terminator may still follow
    have hne : headerTerminator ≠ [] := by decide
    obtain ⟨h, hpadded⟩ := index_append_self hne chunks.flatten
    have htake := index_take hne hpadded chunks.flatten.length
    rw [List.take_left, hindex] at htake
    have hopen : chunks.flatten.length < h + headerTerminatorBytes := by
      by_contra hnot
      rw [if_pos (show h + headerTerminator.length ≤ _ from Nat.not_lt.mp hnot)] at htake
      cases htake
    have hkept := @writes_open namesCredential token _ h hpadded [] headerTerminator chunks rfl
      (Nat.zero_le _) (by simpa using hopen)
    rcases hkept with hc | hc
    · exact .inl (by simp [c, newCredentialConn, staged] at hc ⊢; simp [hc])
    · exact .inl (by simp [c, newCredentialConn, staged, refused] at hc ⊢; simp [hc])

end CredentialConn

end LoopbackAuth
