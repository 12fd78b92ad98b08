/-
  Request storage (storage.go) — bytes in memory, or in a file that has no name.

  A body is read in chunks into a `storageWriter`.  It keeps them in memory until they would exceed a
  threshold; then it moves what it has to a file and goes on there.  Afterwards the memory is read
  through readers of its own, the file through its ONE cursor, which everybody who reads has to set
  first.  None of that should be visible.

  1. `Seekable`: bytes with a cursor — a `bytes.Reader` over the memory, or the file.
  2. `StorageWriter`, `Storage`: the two forms, `readStorage`, `copyStorageRange`, `takeReader`.
  3. `Holds`: what a writer or a storage stands for, in either form.
  4. `gather`, `readStorage_agree`, `copyStorageRange_agree`: what they do is a function of the bytes alone.
-/
import OpenCodexRelay.Json

namespace Responses

open Json

/-! ## Errors -/

inductive ContextError where
  | canceled
  | deadlineExceeded
  deriving DecidableEq

/-- The two size limits. -/
inductive SizeLimit where
  | encoded
  | decoded
  deriving DecidableEq

/-- The errors of reading into a storage; `ε` are those of the source. -/
inductive StorageError (ε : Type) where
  | context (e : ContextError)
  | tooLarge (limit : SizeLimit) (maximum : ℤ)
  | spool (text : String)
  | noProgress
  | eof
  | unexpectedEof
  | source (e : ε)
  /-- A bound of the model, not of the source. -/
  | outOfFuel
  deriving DecidableEq

/-- How a read ends, apart from its bytes. -/
inductive ReadEnd (ε : Type) where
  | eof
  | failed (e : ε)
  deriving DecidableEq

/-- The results of the successive reads from a source; after the last one it is at its end. -/
abbrev Chunks (ε : Type) := List (List Byte × Option (ReadEnd ε))

/-! ## Bytes with a cursor -/

/-- A `bytes.Reader`, or a file. -/
structure Seekable where
  content : List Byte
  cursor : ℕ
  deriving DecidableEq

namespace Seekable

def seek (f : Seekable) (offset : ℕ) : Seekable := { f with cursor := offset }

/-- What has not been read. -/
def rest (f : Seekable) : List Byte := f.content.drop f.cursor

/-- Reading into a buffer of a size; at the end nothing is read. -/
def read (f : Seekable) (size : ℕ) : List Byte × Seekable :=
  (f.rest.take size, { f with cursor := f.cursor + (f.rest.take size).length })

def write (f : Seekable) (data : List Byte) : Seekable where
  content := f.content.take f.cursor ++ data ++ f.content.drop (f.cursor + data.length)
  cursor := f.cursor + data.length

theorem read_rest (f : Seekable) (size : ℕ) : (f.read size).2.rest = f.rest.drop size := by
  simp only [read, rest, List.drop_drop, List.length_take, List.length_drop]
  rcases Nat.le_total size (f.content.length - f.cursor) with h | h
  · rw [Nat.min_eq_left h]
  · rw [Nat.min_eq_right h, List.drop_eq_nil_of_le (by omega), List.drop_eq_nil_of_le (by omega)]

theorem write_end (bytes data : List Byte) :
    (Seekable.mk bytes bytes.length).write data = ⟨bytes ++ data, (bytes ++ data).length⟩ := by
  simp [write]

end Seekable

/-! ## Writing -/

structure StorageWriter where
  limit : ℤ
  threshold : ℤ
  limitError : SizeLimit
  memory : List Byte
  file : Option Seekable
  size : ℤ
  spilled : Bool
  deriving DecidableEq

/-- A writer that has nothing yet. -/
def StorageWriter.empty (limit threshold : ℤ) (limitError : SizeLimit) : StorageWriter :=
  ⟨limit, threshold, limitError, [], none, 0, false⟩

namespace StorageWriter

variable {ε : Type}

-- Why no spool can be made, if none can.
variable (spool : Option String)

/-- `spill`: what is in memory goes to a new file. -/
def spill (w : StorageWriter) : Except (StorageError ε) StorageWriter :=
  match spool with
  | some text => .error (.spool text)
  | none =>
    .ok { w with
      memory := []
      file := some ((Seekable.mk [] 0).write w.memory)
      spilled := true }

/-- `Write`. -/
def write (w : StorageWriter) (data : List Byte) : Except (StorageError ε) StorageWriter :=
  if (data.length : ℤ) > w.limit - w.size then .error (.tooLarge w.limitError w.limit)
  else
    match if w.file.isNone && w.size + data.length > w.threshold then w.spill spool else .ok w with
    | .error e => .error e
    | .ok w =>
      match w.file with
      | some f => .ok { w with file := some (f.write data), size := w.size + data.length }
      | none => .ok { w with memory := w.memory ++ data, size := w.size + data.length }

/-- What a loop does with the bytes that it read, if any. -/
def writeRead (w : StorageWriter) (data : List Byte) : Except (StorageError ε) StorageWriter :=
  if data.isEmpty then .ok w else w.write spool data

end StorageWriter

structure Storage where
  memory : List Byte
  file : Option Seekable
  size : ℤ
  spilled : Bool
  deriving DecidableEq

def StorageWriter.finish (w : StorageWriter) : Storage :=
  match w.file with
  | some f => ⟨[], some f, w.size, true⟩
  | none => ⟨w.memory, none, w.size, false⟩

/-! ## Reading and copying -/

section Loops

variable {ε : Type}

-- What `ctx.Err()` returns in each round of a loop, and why no spool can be made.
variable (ctx : ℕ → Option ContextError) (spool : Option String)

/-- The loop of `readStorage`, from a round on. -/
def readLoop : ℕ → Chunks ε → StorageWriter → Except (StorageError ε) StorageWriter
  | round, [], w =>
    match ctx round with
    | some e => .error (.context e)
    | none => .ok w
  | round, (data, stop) :: reads, w =>
    match ctx round with
    | some e => .error (.context e)
    | none => do
      let w ← w.writeRead spool data
      match stop with
      | some .eof => .ok w
      | some (.failed e) => .error (.source e)
      | none => if data.isEmpty then .error .noProgress else readLoop (round + 1) reads w

def readStorage (reads : Chunks ε) (limit threshold : ℤ) (limitError : SizeLimit) :
    Except (StorageError ε) Storage :=
  (readLoop ctx spool 0 reads (.empty limit threshold limitError)).map StorageWriter.finish

namespace Storage

/-- `reader`: the file, its cursor at the start, or a new reader over the memory. -/
def reader (s : Storage) : Seekable :=
  match s.file with
  | some f => f.seek 0
  | none => ⟨s.memory, 0⟩

/-- The storage after somebody read from it: the file is the one that was read. -/
def after (s : Storage) (f : Seekable) : Storage :=
  match s.file with
  | some _ => { s with file := some f }
  | none => s

end Storage

/-- The buffer of `copyStorageRange`. -/
def bufferSize : ℕ := 32768

/-- The loop of `copyStorageRange`; each round but the last reads a full buffer. -/
def copyLoop : ℕ → ℕ → Seekable → StorageWriter → ℕ →
    Except (StorageError ε) (StorageWriter × Seekable)
  | _, _, f, w, 0 => .ok (w, f)
  | 0, _, _, _, _ + 1 => .error .outOfFuel
  | fuel + 1, round, f, w, remaining =>
    match ctx round with
    | some e => .error (.context e)
    | none => do
      let (data, f') := f.read (min bufferSize remaining)
      let w ← w.writeRead spool data
      -- `io.ReadFull`.
      if data.length < min bufferSize remaining then
        .error (if data.isEmpty then .eof else .unexpectedEof)
      else copyLoop fuel (round + 1) f' w (remaining - data.length)

/-- `copyStorageRange`; the storage is the source afterwards. -/
def copyStorageRange (w : StorageWriter) (source : Storage) (offset length : ℕ) :
    Except (StorageError ε) (StorageWriter × Storage) :=
  let reader := if offset > 0 then source.reader.seek offset else source.reader
  (copyLoop ctx spool length 0 reader w length).map fun (w, f) => (w, source.after f)

end Loops

/-- What `takeReader` hands over: a `memoryReadCloser` or the file itself. -/
inductive Body where
  | memory (r : Seekable)
  | file (f : Seekable)
  deriving DecidableEq

def Storage.takeReader (s : Storage) : Body :=
  match s.file with
  | some f => .file (f.seek 0)
  | none => .memory ⟨s.memory, 0⟩

/-- What reading a body to its end gives. -/
def Body.bytes : Body → List Byte
  | .memory r | .file r => r.rest

/-! ## What a writer and a storage stand for -/

/-- **A writer that has taken these bytes**, in memory or in a file with the cursor at its end. -/
structure StorageWriter.Holds (w : StorageWriter) (limit : ℤ) (limitError : SizeLimit)
    (bytes : List Byte) : Prop where
  limit_eq : w.limit = limit
  limitError_eq : w.limitError = limitError
  size : w.size = bytes.length
  within : (bytes.length : ℤ) ≤ limit
  form : w.file = none ∧ w.memory = bytes ∨ w.file = some ⟨bytes, bytes.length⟩

/-- **A storage of these bytes**, in memory or in a file with the cursor anywhere. -/
structure Storage.Holds (s : Storage) (bytes : List Byte) : Prop where
  size : s.size = bytes.length
  form : s.file = none ∧ s.memory = bytes ∨ ∃ f, s.file = some f ∧ f.content = bytes

namespace Storage.Holds

variable {s : Storage} {bytes : List Byte}

theorem reader (h : s.Holds bytes) : s.reader = ⟨bytes, 0⟩ := by
  rcases h.form with ⟨hfile, hmemory⟩ | ⟨f, hfile, rfl⟩
  · rw [Storage.reader, hfile, hmemory]
  · rw [Storage.reader, hfile]
    rfl

theorem after (h : s.Holds bytes) {f : Seekable} (hf : f.content = bytes) : (s.after f).Holds bytes := by
  rcases h.form with ⟨hfile, hmemory⟩ | ⟨f', hfile, -⟩
  · rw [Storage.after, hfile]
    exact h
  · rw [Storage.after, hfile]
    exact ⟨h.size, .inr ⟨f, rfl, hf⟩⟩

theorem takeReader (h : s.Holds bytes) : s.takeReader.bytes = bytes := by
  rcases h.form with ⟨hfile, rfl⟩ | ⟨f, hfile, rfl⟩
  · rw [Storage.takeReader, hfile]
    rfl
  · rw [Storage.takeReader, hfile]
    rfl

end Storage.Holds

/-- Two computations fail alike or succeed with related results. -/
def Agree {ε α β : Type} (R : α → β → Prop) : Except ε α → Except ε β → Prop
  | .ok a, .ok b => R a b
  | .error e, .error e' => e = e'
  | _, _ => False

namespace Agree

variable {ε α β α' : Type} {R : α → β → Prop} {x : Except ε α} {y : Except ε β}

theorem bind {β' : Type} {S : α' → β' → Prop} (h : Agree R x y) {f : α → Except ε α'}
    {g : β → Except ε β'} (hfg : ∀ a b, R a b → Agree S (f a) (g b)) : Agree S (x.bind f) (y.bind g) := by
  cases x <;> cases y
  · exact h
  · cases h
  · cases h
  · exact hfg _ _ h

theorem map {S : α' → β → Prop} (h : Agree R x y) {f : α → α'} (hf : ∀ a b, R a b → S (f a) b) :
    Agree S (x.map f) y := by
  cases x <;> cases y
  · exact h
  · cases h
  · cases h
  · exact hf _ _ h

end Agree

/-- Taking bytes within a limit. -/
def appendWithin {ε : Type} (limit : ℤ) (limitError : SizeLimit) (bytes data : List Byte) :
    Except (StorageError ε) (List Byte) :=
  if (bytes.length + data.length : ℤ) ≤ limit then .ok (bytes ++ data)
  else .error (.tooLarge limitError limit)

section Stands

variable {ε : Type} {w : StorageWriter} {limit : ℤ} {limitError : SizeLimit} {bytes : List Byte}

theorem StorageWriter.holds_empty (hlimit : 0 ≤ limit) (threshold : ℤ) (limitError : SizeLimit) :
    (StorageWriter.empty limit threshold limitError).Holds limit limitError [] :=
  ⟨rfl, rfl, rfl, hlimit, .inl ⟨rfl, rfl⟩⟩

theorem StorageWriter.Holds.finish (h : w.Holds limit limitError bytes) : w.finish.Holds bytes := by
  rcases h.form with ⟨hfile, hmemory⟩ | hfile
  · rw [StorageWriter.finish, hfile]
    exact ⟨h.size, .inl ⟨rfl, hmemory⟩⟩
  · rw [StorageWriter.finish, hfile]
    exact ⟨h.size, .inr ⟨_, rfl, rfl⟩⟩

/-- **A write takes the bytes or fails, whichever form the writer has and takes.** -/
theorem StorageWriter.Holds.write (h : w.Holds limit limitError bytes) (data : List Byte) :
    Agree (fun w bytes => w.Holds limit limitError bytes) (w.write (ε := ε) none data)
      (appendWithin limit limitError bytes data) := by
  unfold StorageWriter.write appendWithin
  rw [h.limit_eq, h.limitError_eq, h.size]
  by_cases hfits : (bytes.length + data.length : ℤ) ≤ limit
  · have hwithin : ((bytes ++ data).length : ℤ) ≤ limit := by
      rw [List.length_append, Nat.cast_add]
      exact hfits
    rw [if_neg (by omega), if_pos hfits]
    rcases h.form with ⟨hfile, hmemory⟩ | hfile
    · split
      · rename_i hspill
        split at hspill <;> cases hspill
      · rename_i w' hspill
        split at hspill
        · -- The bytes so far are moved to a file, and the new ones are written there.
          cases hspill
          have hseed : (Seekable.mk [] 0).write w.memory = ⟨bytes, bytes.length⟩ := by
            rw [hmemory]
            exact Seekable.write_end [] bytes
          refine ⟨h.limit_eq, h.limitError_eq, ?_, hwithin, .inr ?_⟩
          · simp [h.size]
          · simp only [hseed, Seekable.write_end]
        · cases hspill
          simp only [hfile]
          refine ⟨h.limit_eq, h.limitError_eq, ?_, hwithin, .inl ⟨rfl, ?_⟩⟩
          · simp [h.size]
          · rw [hmemory]
    · simp only [hfile, Option.isNone_some, Bool.false_and, Bool.false_eq_true, if_false]
      refine ⟨h.limit_eq, h.limitError_eq, ?_, hwithin, .inr ?_⟩
      · simp [h.size]
      · rw [Seekable.write_end]
  · rw [if_pos (by omega), if_neg hfits]
    rfl

theorem appendWithin_nil (h : (bytes.length : ℤ) ≤ limit) :
    appendWithin (ε := ε) limit limitError bytes [] = .ok bytes := by
  rw [appendWithin, if_pos (by simpa using h), List.append_nil]

/-- The bytes that a source gives, within a limit. -/
def gather (limit : ℤ) (limitError : SizeLimit) :
    List Byte → Chunks ε → Except (StorageError ε) (List Byte)
  | bytes, [] => .ok bytes
  | bytes, (data, stop) :: reads => do
    let bytes ← appendWithin limit limitError bytes data
    match stop with
    | some .eof => .ok bytes
    | some (.failed e) => .error (.source e)
    | none => if data.isEmpty then .error .noProgress else gather limit limitError bytes reads

theorem StorageWriter.Holds.writeRead (h : w.Holds limit limitError bytes) (data : List Byte) :
    Agree (fun w bytes => w.Holds limit limitError bytes) (w.writeRead (ε := ε) none data)
      (appendWithin limit limitError bytes data) := by
  unfold StorageWriter.writeRead
  split
  · rename_i hempty
    rw [List.isEmpty_iff.mp hempty, appendWithin_nil h.within]
    exact h
  · exact h.write data

variable {ctx : ℕ → Option ContextError}

theorem readLoop_agree (hctx : ∀ n, ctx n = none) (reads : Chunks ε) (round : ℕ)
    (h : w.Holds limit limitError bytes) :
    Agree (fun w bytes => w.Holds limit limitError bytes) (readLoop ctx none round reads w)
      (gather limit limitError bytes reads) := by
  induction reads generalizing round w bytes with
  | nil =>
    simp only [readLoop, hctx, gather]
    exact h
  | cons x reads ih =>
    obtain ⟨data, stop⟩ := x
    simp only [readLoop, hctx, gather]
    refine (h.writeRead data).bind fun w bytes h => ?_
    cases stop with
    | some stop =>
      cases stop with
      | eof => exact h
      | failed e => exact rfl
    | none =>
      simp only
      split
      · exact rfl
      · exact ih (round + 1) h

/-- **What is read does not depend on where it is kept.** -/
theorem readStorage_agree (hctx : ∀ n, ctx n = none) (reads : Chunks ε) (hlimit : 0 ≤ limit)
    (threshold : ℤ) (limitError : SizeLimit) :
    Agree Storage.Holds (readStorage ctx none reads limit threshold limitError)
      (gather limit limitError [] reads) := by
  have hempty := StorageWriter.holds_empty hlimit threshold limitError
  exact (readLoop_agree hctx reads 0 hempty).map fun _ _ h => h.finish

/-- A source that gives these bytes in chunks that are not empty, with the end after or together with
    the last one. -/
inductive Delivers : Chunks ε → List Byte → Prop where
  | nothing : Delivers [] []
  | eof : Delivers [([], some .eof)] []
  | last {data} (h : data ≠ []) : Delivers [(data, some .eof)] data
  | chunk {data reads rest} (h : data ≠ []) (hrest : Delivers reads rest) :
    Delivers ((data, none) :: reads) (data ++ rest)

theorem appendWithin_append (bytes data rest : List Byte) :
    ((appendWithin (ε := ε) limit limitError bytes data).bind fun bytes =>
      appendWithin limit limitError bytes rest) = appendWithin limit limitError bytes (data ++ rest) := by
  unfold appendWithin
  by_cases hdata : (bytes.length + data.length : ℤ) ≤ limit
  · rw [if_pos hdata]
    simp only [Except.bind, List.length_append, Nat.cast_add, List.append_assoc, add_assoc]
  · rw [if_neg hdata, if_neg]
    · rfl
    · rw [List.length_append]
      omega

theorem appendWithin_ok {bytes' data : List Byte}
    (h : appendWithin (ε := ε) limit limitError bytes data = .ok bytes') :
    bytes' = bytes ++ data ∧ (bytes'.length : ℤ) ≤ limit := by
  unfold appendWithin at h
  split at h <;> cases h
  refine ⟨rfl, ?_⟩
  rw [List.length_append, Nat.cast_add]
  assumption

/-- What is gathered does not depend on how it is delivered. -/
theorem gather_delivers {reads : Chunks ε} {content : List Byte} (h : Delivers reads content)
    (hw : (bytes.length : ℤ) ≤ limit) :
    gather limit limitError bytes reads = appendWithin limit limitError bytes content := by
  induction h generalizing bytes with
  | nothing => exact (appendWithin_nil hw).symm
  | eof | last =>
    simp only [gather]
    exact bind_pure _
  | @chunk data reads rest hdata _ ih =>
    rw [← appendWithin_append]
    simp only [gather, List.isEmpty_iff, if_neg hdata]
    cases happend : appendWithin (ε := ε) limit limitError bytes data with
    | error e => rfl
    | ok bytes' => exact ih (appendWithin_ok happend).2

/-- The writes of somebody else, one after the other. -/
def StorageWriter.writeAll (spool : Option String) :
    List (List Byte) → StorageWriter → Except (StorageError ε) StorageWriter
  | [], w => .ok w
  | data :: rest, w => do
    let w ← w.write spool data
    w.writeAll spool rest

theorem StorageWriter.Holds.writeAll (h : w.Holds limit limitError bytes) (chunks : List (List Byte)) :
    Agree (fun w bytes => w.Holds limit limitError bytes) (w.writeAll (ε := ε) none chunks)
      (appendWithin limit limitError bytes chunks.flatten) := by
  induction chunks generalizing w bytes with
  | nil =>
    rw [List.flatten_nil, appendWithin_nil h.within]
    exact h
  | cons data rest ih =>
    rw [List.flatten_cons, ← appendWithin_append]
    exact (h.write data).bind fun w bytes h => ih h

/-- A range that is there is copied as one write would do. -/
theorem copyLoop_agree (hctx : ∀ n, ctx n = none) {fuel remaining : ℕ} (hfuel : remaining ≤ fuel)
    (round : ℕ) {f : Seekable} (hrest : remaining ≤ f.rest.length)
    (h : w.Holds limit limitError bytes) :
    Agree (fun x bytes => x.1.Holds limit limitError bytes ∧ x.2.content = f.content)
      (copyLoop (ε := ε) ctx none fuel round f w remaining)
      (appendWithin limit limitError bytes (f.rest.take remaining)) := by
  induction fuel generalizing round f w bytes remaining with
  | zero =>
    obtain rfl := Nat.le_zero.mp hfuel
    rw [List.take_zero, appendWithin_nil h.within]
    exact ⟨h, rfl⟩
  | succ fuel ih =>
    cases remaining with
    | zero =>
      rw [List.take_zero, appendWithin_nil h.within]
      exact ⟨h, rfl⟩
    | succ n =>
      have hsize : 0 < min bufferSize (n + 1) := by
        simp [bufferSize]
      generalize hm : min bufferSize (n + 1) = m at hsize
      have hmn : m ≤ n + 1 := hm ▸ Nat.min_le_right _ _
      have hlength : (f.rest.take m).length = m := by
        rw [List.length_take, Nat.min_eq_left (hmn.trans hrest)]
      have hsplit : f.rest.take (n + 1) = f.rest.take m ++ (f.read m).2.rest.take (n + 1 - m) := by
        rw [Seekable.read_rest, ← List.take_add, Nat.add_sub_cancel' hmn]
      rw [hsplit, ← appendWithin_append]
      simp only [copyLoop, hctx, hm]
      have hread : (f.read m).1 = f.rest.take m := rfl
      rw [hread, hlength]
      refine (h.writeRead _).bind fun w bytes h => ?_
      rw [if_neg (Nat.lt_irrefl m)]
      refine ih (by omega) (round + 1) ?_ h
      rw [Seekable.read_rest, List.length_drop]
      omega

/-- **What is copied does not depend on where it is kept.** -/
theorem copyStorageRange_agree (hctx : ∀ n, ctx n = none) {source : Storage} {content : List Byte}
    (hsource : source.Holds content) {offset length : ℕ} (hrange : offset + length ≤ content.length)
    (h : w.Holds limit limitError bytes) :
    Agree (fun x bytes => x.1.Holds limit limitError bytes ∧ x.2.Holds content)
      (copyStorageRange (ε := ε) ctx none w source offset length)
      (appendWithin limit limitError bytes ((content.drop offset).take length)) := by
  have hreader : (if offset > 0 then source.reader.seek offset else source.reader) = ⟨content, offset⟩ := by
    rw [hsource.reader]
    split
    · rfl
    · rename_i hzero
      rw [Nat.eq_zero_of_not_pos hzero]
  unfold copyStorageRange
  rw [hreader]
  have hrest : length ≤ (Seekable.mk content offset).rest.length := by
    simp only [Seekable.rest, List.length_drop]
    omega
  exact (copyLoop_agree hctx le_rfl 0 hrest h).map fun x bytes hx => ⟨hx.1, hsource.after hx.2⟩

end Stands

end Responses
