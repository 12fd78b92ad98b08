/-
  The timed reader (timeout.go) — when is the cleanup signal truthful?

  `timedReadCloser` puts deadlines on the reads of one upstream body.  A `Read` that runs out of time
  leaves its source read behind and closes the source in a goroutine of its own, so that the client
  never waits for it; `CleanupDone` is to tell when the last of them has come back.  What `Read` does
  is two critical sections: it looks whether the reader has been CLOSED, and it REGISTERS its source
  read with `beginSourceRead`.  In between, a `Close` may run to its end: it finds no active read and
  gives the signal, and then the source read begins.

  1. `TimedReader`: the fields, the goroutine that holds `readMu`, the source reads and the goroutine
     of `Close`.
  2. `TimedReader.step`: every statement that others can see is a step.
  3. `Balanced`: `activeReads` counts the source reads that have not finished.
  4. `Truthful`, `Timely`, `cleanup_truthful`: the signal is truthful exactly as long as nobody
     registers a source read after it.
-/
import OpenCodexRelay.Queueing
import OpenCodexRelay.Responses.Storage

namespace Responses

open Queueing

/-! ## The reader -/

inductive TimeoutPhase where
  | firstByte
  | interChunk
  | total
  deriving DecidableEq

/-- `ReadTimeouts`, in nanoseconds. -/
structure ReadTimeouts where
  firstByte : ℤ
  interChunk : ℤ
  total : ℤ
  deriving DecidableEq

def defaultReadTimeouts : ReadTimeouts := ⟨180000000000, 30000000000, 180000000000⟩

/-- Whether `validate` returns nil. -/
def ReadTimeouts.validate (t : ReadTimeouts) : Bool :=
  !(t.firstByte ≤ 0 || t.interChunk ≤ 0 || t.total ≤ 0)

/-- The errors of `Read`; those of the source pass through. -/
inductive ReadError where
  | closedPipe
  | timeout (phase : TimeoutPhase)
  | context (e : ContextError)
  | source (text : String)
  deriving DecidableEq

structure ReadResult where
  data : List UInt8
  err : Option String
  deriving DecidableEq

/-- **Where a goroutine of a source read stands**: before `source.Read`, inside it, with the result,
    with the result in the channel, and after `finishSourceRead`. -/
inductive SourceRead where
  | starting (len : ℕ)
  | running (len : ℕ)
  | returned (r : ReadResult)
  | sent (r : ReadResult)
  | finished (r : ReadResult)
  deriving DecidableEq

/-- **Where the goroutine of `Close` stands**: nobody has called it, before `source.Close`, inside it,
    back from it, and after `finishSourceClose`. -/
inductive SourceClose where
  | unused
  | starting
  | running
  | returned
  | finished
  deriving DecidableEq

/-- **Where the goroutine that holds `readMu` stands in `Read`**: at its start, past the test of
    `closed`, before `beginSourceRead`, and at the `select`. -/
inductive Reading where
  | entered (len : ℕ)
  | checked (len : ℕ)
  | admitted (len : ℕ) (phase : TimeoutPhase) (deadline : ℤ)
  | waiting (i : ℕ) (phase : TimeoutPhase) (deadline : ℤ)
  deriving DecidableEq

/-- `timedReadCloser`, its goroutines and what surrounds it. -/
structure TimedReader where
  timeouts : ReadTimeouts
  started : ℤ
  lastChunk : ℤ
  sawBytes : Bool
  /-- Whether the channel `closed` has been closed, and with it whether `closeOnce` has run. -/
  closed : Bool
  /-- How often the channel `cleanupDone` has been closed. -/
  cleanupDone : ℕ
  activeReads : ℤ
  sourceClosed : Bool
  cleanupClosed : Bool
  now : ℤ
  ctx : Option ContextError
  reading : Option Reading
  reads : List SourceRead
  sourceClose : SourceClose
  /-- What the calls of `Read` have returned. -/
  answers : List (List UInt8 × Option ReadError)
  deriving DecidableEq

/-- `NewTimedReadCloser` with a source. -/
def newTimedReadCloser (timeouts : ReadTimeouts) (now : ℤ) (ctx : Option ContextError) :
    Option TimedReader :=
  if timeouts.validate then
    some {
      timeouts := timeouts
      started := now
      lastChunk := now
      sawBytes := false
      closed := false
      cleanupDone := 0
      activeReads := 0
      sourceClosed := false
      cleanupClosed := false
      now := now
      ctx := ctx
      reading := none
      reads := []
      sourceClose := .unused
      answers := [] }
  else none

namespace TimedReader

def deadline (r : TimedReader) : TimeoutPhase × ℤ :=
  let (phase, deadline) :=
    if r.sawBytes then (TimeoutPhase.interChunk, r.lastChunk + r.timeouts.interChunk)
    else (.firstByte, r.started + r.timeouts.firstByte)
  let total := r.started + r.timeouts.total
  if total < deadline then (.total, total) else (phase, deadline)

/-- `Close`. -/
def close (r : TimedReader) : TimedReader :=
  if r.closed then r else { r with closed := true, sourceClose := .starting }

def closeCleanupDoneLocked (r : TimedReader) : TimedReader :=
  if r.sourceClosed && r.activeReads == 0 && !r.cleanupClosed then
    { r with cleanupClosed := true, cleanupDone := r.cleanupDone + 1 }
  else r

def beginSourceRead (r : TimedReader) : TimedReader := { r with activeReads := r.activeReads + 1 }

def finishSourceRead (r : TimedReader) : TimedReader :=
  closeCleanupDoneLocked
    (if r.activeReads > 0 then { r with activeReads := r.activeReads - 1 } else r)

def finishSourceClose (r : TimedReader) : TimedReader :=
  closeCleanupDoneLocked { r with sourceClosed := true }

/-- `Read` returns. -/
def answer (r : TimedReader) (data : List UInt8) (err : Option ReadError) : TimedReader :=
  { r with reading := none, answers := r.answers ++ [(data, err)] }

/-- What is in the channel of a source read. -/
def result (r : TimedReader) (i : ℕ) : Option ReadResult :=
  match r.reads[i]? with
  | some (.sent res) | some (.finished res) => some res
  | _ => none

end TimedReader

/-! ## The steps -/

/-- The cases of the `select` of `Read`. -/
inductive Ready where
  | result
  | done
  | timer
  deriving DecidableEq

/-- **The atomic steps.**  Time passes, the context ends; somebody calls `Read` or `Close`; the
    goroutine in `Read` goes on; a goroutine of a source read or that of `Close` goes on. -/
inductive ReaderAction where
  | tick (d : ℕ)
  | cancel (e : ContextError)
  | read (len : ℕ)
  | proceed
  | select (ready : Ready)
  | close
  | startRead (i : ℕ)
  | returnRead (i : ℕ) (res : ReadResult)
  | sendRead (i : ℕ)
  | finishRead (i : ℕ)
  | startClose
  | returnClose
  | finishClose
  deriving DecidableEq

namespace TimedReader

/-- `Read` up to the `select`. -/
def proceed (r : TimedReader) : Reading → Option TimedReader
  | .entered len =>
    if len = 0 then some (r.answer [] none)
    else if r.closed then some (r.answer [] (some .closedPipe))
    else some { r with reading := some (.checked len) }
  | .checked len =>
    if ¬ r.now < r.deadline.2 then some (r.close.answer [] (some (.timeout r.deadline.1)))
    else some { r with reading := some (.admitted len r.deadline.1 r.deadline.2) }
  | .admitted len phase deadline =>
    -- The goroutine that reads from the source is created at once.
    some { r.beginSourceRead with
      reads := r.reads ++ [.starting len]
      reading := some (.waiting r.reads.length phase deadline) }
  | .waiting _ _ _ => none

/-- The `select`. -/
def select (r : TimedReader) (i : ℕ) (phase : TimeoutPhase) (deadline : ℤ) : Ready → Option TimedReader
  | .result =>
    (r.result i).map fun res =>
      (if res.data ≠ [] then { r with sawBytes := true, lastChunk := r.now } else r).answer res.data
        (res.err.map .source)
  | .done => r.ctx.map fun e => r.close.answer [] (some (.context e))
  | .timer => if deadline ≤ r.now then some (r.close.answer [] (some (.timeout phase))) else none

/-- **One atomic step**; none if it is not possible. -/
def step (r : TimedReader) : ReaderAction → Option TimedReader
  | .tick d => some { r with now := r.now + d }
  | .cancel e => if r.ctx.isNone then some { r with ctx := some e } else none
  | .read len => if r.reading.isNone then some { r with reading := some (.entered len) } else none
  | .proceed => r.reading.bind r.proceed
  | .select ready =>
    match r.reading with
    | some (.waiting i phase deadline) => r.select i phase deadline ready
    | _ => none
  | .close => some r.close
  | .startRead i =>
    match r.reads[i]? with
    | some (.starting len) => some { r with reads := r.reads.set i (.running len) }
    | _ => none
  | .returnRead i res =>
    match r.reads[i]? with
    | some (.running len) =>
      if res.data.length ≤ len then some { r with reads := r.reads.set i (.returned res) } else none
    | _ => none
  | .sendRead i =>
    match r.reads[i]? with
    | some (.returned res) => some { r with reads := r.reads.set i (.sent res) }
    | _ => none
  | .finishRead i =>
    match r.reads[i]? with
    | some (.sent res) => some ({ r with reads := r.reads.set i (.finished res) }.finishSourceRead)
    | _ => none
  | .startClose =>
    if r.sourceClose = .starting then some { r with sourceClose := .running } else none
  | .returnClose =>
    if r.sourceClose = .running then some { r with sourceClose := .returned } else none
  | .finishClose =>
    if r.sourceClose = .returned then some ({ r with sourceClose := .finished }.finishSourceClose)
    else none

/-- A reader that nobody has used yet. -/
def Fresh (r : TimedReader) : Prop :=
  ∃ timeouts now ctx, newTimedReadCloser timeouts now ctx = some r

end TimedReader

/-- The runs of a timed reader: its callers, its source, the clock and the context in any order. -/
abbrev ReaderRuns : List (TimedReader × ReaderAction) → TimedReader → Prop :=
  Run TimedReader.Fresh TimedReader.step

/-! ## The active reads -/

/-- What a source read counts for. -/
def SourceRead.active : SourceRead → ℤ
  | .finished _ => 0
  | _ => 1

/-- The source is being read. -/
def SourceRead.inside : SourceRead → Bool
  | .running _ => true
  | _ => false

theorem SourceRead.active_nonneg (x : SourceRead) : 0 ≤ x.active := by
  cases x <;> simp [active]

namespace TimedReader

variable {r r' : TimedReader} {a : ReaderAction}

/-- The source reads that have not finished. -/
def pending (r : TimedReader) : ℤ := tableSum (fun _ x => x.active) r.reads

theorem pending_set {i : ℕ} {x y : SourceRead} (h : r.reads[i]? = some x) :
    pending { r with reads := r.reads.set i y } = r.pending - x.active + y.active :=
  tableSum_set h

theorem active_le {i : ℕ} {x : SourceRead} (h : r.reads[i]? = some x) : x.active ≤ r.pending :=
  le_tableSum (f := fun _ x => SourceRead.active x) (fun _ x _ => x.active_nonneg) h

/-- **The counter counts the source reads that have not finished**, the channel is closed with its flag,
    the source is marked as closed by the goroutine that closed it — and after the signal no read is
    active. -/
structure Settled (r : TimedReader) : Prop where
  active : r.activeReads = r.pending
  once : r.cleanupDone = if r.cleanupClosed then 1 else 0
  closing : r.sourceClosed = true → r.sourceClose = .finished
  used : r.closed = false → r.sourceClose = .unused
  late : r.cleanupClosed = true → r.sourceClosed = true ∧ r.activeReads = 0

/-- **A source read is registered before the signal.** -/
def Timely (r : TimedReader) (a : ReaderAction) : Prop :=
  a = .proceed → ∀ len phase deadline, r.reading = some (.admitted len phase deadline) →
    r.cleanupDone = 0

namespace Settled

theorem close (h : r.Settled) : r.close.Settled := by
  unfold TimedReader.close
  split
  · exact h
  · rename_i hopen
    refine ⟨h.active, h.once, fun hclosed => ?_, nofun, h.late⟩
    cases (h.used (Bool.of_not_eq_true hopen)).symm.trans (h.closing hclosed)

/-- The signal is given when the source is closed and no read is active. -/
theorem closeCleanupDoneLocked (h : r.Settled) : r.closeCleanupDoneLocked.Settled := by
  unfold TimedReader.closeCleanupDoneLocked
  split
  · rename_i hcond
    obtain ⟨⟨hclosed, hnone⟩, hflag⟩ := by simpa using hcond
    refine ⟨h.active, ?_, h.closing, h.used, fun _ => ⟨hclosed, hnone⟩⟩
    simpa [hflag] using h.once
  · exact h

theorem answer (h : r.Settled) (data : List UInt8) (err : Option ReadError) :
    (r.answer data err).Settled :=
  { h with }

/-- A goroutine of a source read goes on. -/
theorem set (h : r.Settled) {i : ℕ} {x y : SourceRead} (hx : r.reads[i]? = some x)
    (hactive : y.active = x.active) : { r with reads := r.reads.set i y }.Settled := by
  refine { h with active := ?_ }
  rw [pending_set hx, hactive, h.active]
  omega

theorem finishSourceRead (h : r.Settled) {i : ℕ} {res : ReadResult} (hx : r.reads[i]? = some (.sent res)) :
    ({ r with reads := r.reads.set i (.finished res) }.finishSourceRead).Settled := by
  have hle : 1 ≤ r.pending := active_le hx
  have hpos : r.activeReads > 0 := by
    rw [h.active]
    omega
  unfold TimedReader.finishSourceRead
  rw [if_pos hpos]
  refine closeCleanupDoneLocked ⟨?_, h.once, h.closing, h.used, fun hflag => ?_⟩
  · have hset := pending_set (y := .finished res) hx
    simp only [SourceRead.active] at hset
    show r.activeReads - 1 = pending { r with reads := r.reads.set i (.finished res) }
    rw [hset, h.active]
    omega
  · -- After the signal there would be no active read.
    have hnone := (h.late hflag).2
    omega

theorem proceed (h : r.Settled) (htimely : r.Timely .proceed) {p : Reading} (hp : r.reading = some p)
    (hs : r.proceed p = some r') : r'.Settled := by
  cases p with
  | entered len =>
    simp only [TimedReader.proceed] at hs
    split_ifs at hs <;> cases hs
    · exact h.answer _ _
    · exact h.answer _ _
    · exact { h with }
  | checked len =>
    simp only [TimedReader.proceed] at hs
    split_ifs at hs <;> cases hs
    · exact { h with }
    · exact h.close.answer _ _
  | admitted len phase deadline =>
    cases hs
    have hflag : r.cleanupClosed = false := by
      have hdone := htimely rfl len phase deadline hp
      have honce := h.once
      rw [hdone] at honce
      by_contra hset
      rw [if_pos (Bool.of_not_eq_false hset)] at honce
      cases honce
    refine ⟨?_, h.once, h.closing, h.used, fun hset => ?_⟩
    · have happend := tableSum_append (fun _ x => SourceRead.active x) r.reads (.starting len)
      exact (congrArg (· + 1) h.active).trans happend.symm
    · cases hflag.symm.trans hset
  | waiting i phase deadline => cases hs

theorem select (h : r.Settled) {i : ℕ} {phase : TimeoutPhase} {deadline : ℤ} {ready : Ready}
    (hs : r.select i phase deadline ready = some r') : r'.Settled := by
  cases ready with
  | result =>
    obtain ⟨res, -, rfl⟩ := Option.map_eq_some_iff.mp hs
    split
    · exact { h with }
    · exact h.answer _ _
  | done =>
    obtain ⟨e, -, rfl⟩ := Option.map_eq_some_iff.mp hs
    exact h.close.answer _ _
  | timer =>
    simp only [TimedReader.select] at hs
    split_ifs at hs
    cases hs
    exact h.close.answer _ _

/-- **Every timely step keeps the reader settled.** -/
theorem step (h : r.Settled) (htimely : r.Timely a) (hs : r.step a = some r') : r'.Settled := by
  cases a with
  | tick d =>
    cases hs
    exact { h with }
  | cancel e | read len =>
    simp only [TimedReader.step] at hs
    split_ifs at hs
    cases hs
    exact { h with }
  | proceed =>
    obtain ⟨p, hp, hs⟩ := Option.bind_eq_some_iff.mp hs
    exact h.proceed htimely hp hs
  | select ready =>
    simp only [TimedReader.step] at hs
    split at hs
    · exact h.select hs
    · cases hs
  | close =>
    cases hs
    exact h.close
  | startRead i | sendRead i =>
    simp only [TimedReader.step] at hs
    split at hs <;> cases hs
    rename_i hx
    exact h.set hx rfl
  | returnRead i res =>
    simp only [TimedReader.step] at hs
    split at hs
    · rename_i hx
      split_ifs at hs
      cases hs
      exact h.set hx rfl
    · cases hs
  | finishRead i =>
    simp only [TimedReader.step] at hs
    split at hs <;> cases hs
    rename_i hx
    exact h.finishSourceRead hx
  | startClose | returnClose =>
    simp only [TimedReader.step] at hs
    split_ifs at hs with hwhere
    cases hs
    refine ⟨h.active, h.once, fun hclosed => ?_, fun hopen => ?_, h.late⟩
    · cases hwhere.symm.trans (h.closing hclosed)
    · cases hwhere.symm.trans (h.used hopen)
  | finishClose =>
    simp only [TimedReader.step] at hs
    split_ifs at hs with hwhere
    cases hs
    refine closeCleanupDoneLocked ⟨h.active, h.once, fun _ => rfl, fun hopen => ?_, fun hflag => ?_⟩
    · cases hwhere.symm.trans (h.used hopen)
    · exact ⟨rfl, (h.late hflag).2⟩

end Settled

/-! ## The signal -/

/-- **The cleanup signal is truthful**: it is given at most once, and when it has been given, the
    source's `Close` has returned and no source `Read` is running. -/
def Truthful (r : TimedReader) : Prop :=
  r.cleanupDone ≤ 1 ∧
    (0 < r.cleanupDone → (r.sourceClose = .returned ∨ r.sourceClose = .finished) ∧
      ∀ x ∈ r.reads, x.inside = false)

instance (r : TimedReader) : Decidable r.Truthful := inferInstanceAs (Decidable (_ ∧ _))

theorem Settled.truthful (h : r.Settled) : r.Truthful := by
  have honce := h.once
  constructor
  · rw [honce]
    split <;> decide
  · intro hdone
    have hflag : r.cleanupClosed = true := by
      by_contra hunset
      rw [if_neg hunset] at honce
      omega
    obtain ⟨hclosed, hnone⟩ := h.late hflag
    refine ⟨.inr (h.closing hclosed), fun x hx => ?_⟩
    obtain ⟨i, hi⟩ := List.mem_iff_getElem?.mp hx
    have hle := active_le hi
    rw [← h.active, hnone] at hle
    cases x with
    | running len => exact absurd hle (Int.not_le.mpr Int.one_pos)
    | _ => rfl

theorem settled_of_fresh (h : r.Fresh) : r.Settled := by
  obtain ⟨timeouts, now, ctx, hnew⟩ := h
  unfold newTimedReadCloser at hnew
  split at hnew <;> cases hnew
  exact ⟨rfl, rfl, nofun, fun _ => rfl, nofun⟩

end TimedReader

theorem settled_of_timely {past : List (TimedReader × ReaderAction)} {r : TimedReader}
    (h : ReaderRuns past r) (htimely : ∀ x ∈ past, x.1.Timely x.2) : r.Settled := by
  induction h with
  | start h => exact TimedReader.settled_of_fresh h
  | step _ hs ih =>
    obtain ⟨hlast, hbefore⟩ := List.forall_mem_cons.mp htimely
    exact (ih hbefore).step hlast hs

/-- A `Close` with nothing else going on gives the signal. -/
def quietClose : List ReaderAction := [.close, .startClose, .returnClose, .finishClose]

/-- A `Read` has found the reader open when a `Close` runs to its end; then the `Read` goes on. -/
def lateRead : List ReaderAction :=
  [.read 1, .proceed, .proceed, .close, .startClose, .returnClose, .finishClose, .proceed, .startRead 0]

end Responses
