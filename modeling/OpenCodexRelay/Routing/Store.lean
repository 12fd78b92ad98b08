/-
  Reading and writing the control files.

  `Store.read` is the only way into the routing state, and there are exactly two ways out:

  * `Store.save` checks the transition against the state on disk — greater generation, an edge of
    the phase graph — and then replaces the file;
  * `Store.replace` checks the new state's own shape and nothing else.  It is meant for explicit
    recovery, where the state on disk may be unreadable.

  Both write the initialisation marker first, so a run may stop between the two files.  The rules
  `safe_save` and `safe_replace` say everything a caller needs about all stopping points; what
  they leave behind is `Disk.marked`, the disk with the marker in place.
-/
import OpenCodexRelay.Routing.Files

namespace OpenCodexRelay.Routing

open Durable

/-- A store is bound to one canonical `relay.json` path. -/
structure Store where
  paths : Paths
  configPath : String
  canonical : canonicalConfigPath paths configPath = .ok configPath

/-! ## The routing state -/

/-- The state on disk, and whether it only stands for a missing file. -/
def Store.read (st : Store) (d : Disk) : Except Err (State × Bool) :=
  match d.state with
  | .absent =>
    match d.marker with
    | .absent => .ok (newRelayState st.configPath, true)
    -- once a controller has taken ownership, a missing state parks the relay
    | .malformed | .record () => .error .stateCorrupt
  | .malformed => .error .stateCorrupt
  | .record s =>
    match decodeState st.paths s st.configPath with
    | .error e => .error e
    | .ok decoded => .ok (decoded, false)

def writeInitializedMarker : Op (Except Err Unit) :=
  .read fun d => match d.marker with
    | .malformed => refuse .stateCorrupt
    | .record () => pure (.ok ())
    | .absent => store .marker

/-- Marker, then state. -/
def commitState (next : State) : Op (Except Err Unit) :=
  attempt writeInitializedMarker fun _ => store (.state next)

def Store.save (st : Store) (next : State) : Op (Except Err Unit) :=
  match next.validateFor st.paths st.configPath with
  | .error e => refuse e
  | .ok () => .read fun d => match st.read d with
    | .error e => refuse e
    | .ok (previous, legacy) =>
      if legacy = false ∧ next.generation ≤ previous.generation then refuse .stateGeneration else
      if legacy = false ∧ validateTransition previous next ≠ .ok () then
        refuse .stateTransition
      else commitState next

def Store.replace (st : Store) (next : State) : Op (Except Err Unit) :=
  match next.validateFor st.paths st.configPath with
  | .error e => refuse e
  | .ok () => commitState next

/-! ### What the two writers leave behind -/

/-- The disk once the initialisation marker is in place. -/
def Disk.marked (d : Disk) : Disk := { d with marker := .record () }

/-- The disk once `s` has been committed. -/
def Disk.withState (d : Disk) (s : State) : Disk := { d with state := .record s }

variable {st : Store} {d : Disk} {C : Observed → Prop} {E : Env Disk Query (fun _ => Bool)}
variable {post : Except Err Unit → Disk → Prop}

variable {s : State}

theorem State.validateFor_eq_ok_iff :
    s.validateFor st.paths st.configPath = .ok () ↔ s.WellFormed st.paths st.configPath := by
  unfold validateFor
  rw [st.canonical]
  exact validateForBound_eq_ok_iff

/-- What can be read is the state file, or there is neither that nor the marker. -/
theorem Store.read_cases {legacy : Bool} (h : st.read d = .ok (s, legacy)) :
    (legacy = false ∧ ∃ stored, d.state = .record stored ∧
      decodeState st.paths stored st.configPath = .ok s) ∨
    (legacy = true ∧ d.state = .absent ∧ d.marker = .absent ∧ s = newRelayState st.configPath) := by
  unfold read at h
  split at h
  · rename_i hstate
    split at h
    · rename_i hmarker
      cases h
      exact .inr ⟨rfl, hstate, hmarker, rfl⟩
    · cases h
    · cases h
  · cases h
  · rename_i stored hstate
    split at h
    · cases h
    · rename_i hdec
      cases h
      exact .inl ⟨rfl, stored, hstate, hdec⟩

/-- Whatever is read from a present file is well formed, and was read as it stands on disk up to
    its schema. -/
theorem Store.read_wellFormed (h : st.read d = .ok (s, false)) :
    s.WellFormed st.paths st.configPath := by
  rcases read_cases h with ⟨-, stored, -, hdec⟩ | ⟨hno, -⟩
  · exact decodeState_wellFormed hdec
  · cases hno

/-- A committed state is read back. -/
theorem Store.read_withState (h : s.WellFormed st.paths st.configPath) :
    st.read (d.withState s) = .ok (s, false) := by
  unfold read Disk.withState
  simp only [decodeState_of_wellFormed h]

/-- Reading a state that is not legacy looks at the state file only. -/
theorem Store.read_congr {d' : Disk} (h : st.read d = .ok (s, false)) (hs : d'.state = d.state) :
    st.read d' = .ok (s, false) := by
  rcases read_cases h with ⟨-, stored, hstate, hdec⟩ | ⟨hno, -⟩
  · simp only [read, hs, hstate, hdec]
  · cases hno

/-- A state that is read as legacy has no file and no marker. -/
theorem Store.read_legacy (h : st.read d = .ok (s, true)) :
    d.state = .absent ∧ d.marker = .absent ∧ s = newRelayState st.configPath := by
  rcases read_cases h with ⟨hno, -⟩ | ⟨-, hlegacy⟩
  · cases hno
  · exact hlegacy

section Rules

variable {next : State}

/-- The stopping points of a commit: `d`, `d` with the marker, and the latter with the new state. -/
structure CommitSafe (C : Observed → Prop) (next : State) (post : Except Err Unit → Disk → Prop)
    (d : Disk) : Prop where
  asked_marker : C (.asked (.store .marker) d)
  wrote_marker : C (.wrote d d.marked)
  asked_state : C (.asked (.store (.state next)) d.marked)
  wrote_state : C (.wrote d.marked (d.marked.withState next))
  ok : post (.ok ()) (d.marked.withState next)
  err : ∀ d', d' = d ∨ d' = d.marked → ∀ e, post (.error e) d'

/-- A marker that is there is not written again. -/
theorem Disk.marked_of_record (h : d.marker = .record ()) : d.marked = d := by
  unfold marked
  rw [← h]

theorem safe_commitState (h : CommitSafe C next post d) : Safe E C (commitState next) post d := by
  have hstate : Safe E C (store (.state next)) post d.marked :=
    safe_store h.asked_state h.wrote_state h.ok (h.err d.marked (.inr rfl) _)
  unfold commitState
  rw [safe_attempt]
  unfold writeInitializedMarker
  refine safe_read.mpr ?_
  cases hm : d.marker with
  | malformed => exact h.err d (.inl rfl) _
  | record u =>
    rw [Disk.marked_of_record hm] at hstate
    exact hstate
  | absent => exact safe_store h.asked_marker h.wrote_marker hstate (h.err d (.inl rfl) _)

/-- **The rule for `Replace`.** The new state is well formed; nothing is known about the old one. -/
theorem safe_replace
    (h : next.WellFormed st.paths st.configPath → CommitSafe C next post d)
    (herr : ∀ e, post (.error e) d) : Safe E C (st.replace next) post d := by
  unfold Store.replace
  split
  · exact herr _
  · rename_i hv
    exact safe_commitState (h (State.validateFor_eq_ok_iff.mp hv))

/-- What `Save` has checked against the state on disk when it commits. -/
structure SaveChecked (st : Store) (next : State) (d : Disk) : Prop where
  wellFormed : next.WellFormed st.paths st.configPath
  previous : (∃ s, st.read d = .ok (s, false) ∧ s.generation < next.generation ∧
      validateTransition s next = .ok ()) ∨
    st.read d = .ok (newRelayState st.configPath, true)

/-- **The rule for `Save`.** -/
theorem safe_save (h : SaveChecked st next d → CommitSafe C next post d)
    (herr : ∀ e, post (.error e) d) : Safe E C (st.save next) post d := by
  unfold Store.save
  split
  · exact herr _
  · rename_i hv
    refine safe_read.mpr ?_
    cases hr : st.read d with
    | error e => exact herr e
    | ok r =>
      obtain ⟨previous, legacy⟩ := r
      simp only
      refine safe_if (fun _ => herr _) fun hgen => ?_
      refine safe_if (fun _ => herr _) fun htr => ?_
      apply safe_commitState
      apply h
      refine ⟨State.validateFor_eq_ok_iff.mp hv, ?_⟩
      cases legacy with
      | true =>
        right
        rw [hr, (Store.read_legacy hr).2.2]
      | false =>
        left
        refine ⟨previous, hr, ?_, ?_⟩
        · by_contra hle
          exact hgen ⟨rfl, UInt64.not_lt.mp hle⟩
        · by_contra hne
          exact htr ⟨rfl, hne⟩

end Rules

/-! ## The crash witnesses -/

def loadJournal (d : Disk) : Except Err (Option TransactionJournal) :=
  match d.journal with
  | .absent => .ok none
  | .malformed => .error .stateCorrupt
  | .record j =>
    let normalized := normalizeTransactionJournal j
    if normalized.valid then .ok (some normalized) else .error .stateCorrupt

def writeJournal (j : TransactionJournal) : Op (Except Err Unit) :=
  let normalized := normalizeTransactionJournal j
  if normalized.valid then store (.journal normalized) else refuse .stateCorrupt

def removeJournal : Op (Except Err Unit) :=
  .read fun d => match d.journal with
    | .absent => pure (.ok ())
    | _ => store .removeJournal

def Store.loadMaintenance (st : Store) (d : Disk) : Except Err (Option MaintenanceJournal) :=
  match d.maintenance with
  | .absent => .ok none
  | .malformed => .error .stateCorrupt
  | .record j => if j.valid st.configPath then .ok (some j) else .error .stateCorrupt

def Store.writeMaintenance (st : Store) (j : MaintenanceJournal) : Op (Except Err Unit) :=
  if j.valid st.configPath then store (.maintenance j) else refuse .stateCorrupt

def removeMaintenance : Op (Except Err Unit) :=
  .read fun d => match d.maintenance with
    | .absent => pure (.ok ())
    | _ => store .removeMaintenance

def Store.loadRuntimeRouting (st : Store) (codexConfigPath : String) (d : Disk) :
    Except Err (Option RuntimeRoutingJournal) :=
  match d.runtimeRouting with
  | .absent => .ok none
  | .malformed => .error .runtimeRoutingConflict
  | .record j =>
    match canonicalConfigPath st.paths codexConfigPath with
    | .error _ => .error .runtimeRoutingConflict
    | .ok boundCodex =>
      if j.valid st.configPath boundCodex then .ok (some j) else .error .runtimeRoutingConflict

def Store.writeRuntimeRouting (st : Store) (codexConfigPath : String)
    (j : RuntimeRoutingJournal) : Op (Except Err Unit) :=
  match canonicalConfigPath st.paths codexConfigPath with
  | .error _ => refuse .runtimeRoutingConflict
  | .ok boundCodex =>
    if j.valid st.configPath boundCodex then store (.runtimeRouting j)
    else refuse .runtimeRoutingConflict

def removeRuntimeRouting : Op (Except Err Unit) :=
  .read fun d => match d.runtimeRouting with
    | .absent => pure (.ok ())
    | _ => store .removeRuntimeRouting

/-- A journal that is written is read back as it is. -/
theorem loadJournal_record {j : TransactionJournal} (hd : d.journal = .record j)
    (hj : j.valid = true) : loadJournal d = .ok (some j) := by
  unfold loadJournal
  rw [hd]
  simp only [normalizeTransactionJournal_of_schema (TransactionJournal.valid_schema hj), hj,
    if_true]

theorem loadJournal_absent (hd : d.journal = .absent) : loadJournal d = .ok none := by
  unfold loadJournal
  rw [hd]

/-- What loading a journal can say about the file. -/
theorem loadJournal_cases {r : Option TransactionJournal} (h : loadJournal d = .ok r) :
    (d.journal = .absent ∧ r = none) ∨ ∃ j, r = some j ∧ j.valid = true ∧ d.journal ≠ .absent := by
  unfold loadJournal at h
  split at h
  · rename_i habs
    cases h
    exact .inl ⟨habs, rfl⟩
  · cases h
  · rename_i j hj
    simp only at h
    split at h
    · rename_i hv
      cases h
      exact .inr ⟨_, rfl, hv, by rw [hj]; exact fun hc => by cases hc⟩
    · cases h

theorem loadJournal_eq_none_iff : loadJournal d = .ok none ↔ d.journal = .absent := by
  constructor
  · intro h
    rcases loadJournal_cases h with ⟨habs, -⟩ | ⟨j, hj, -⟩
    · exact habs
    · cases hj
  · exact loadJournal_absent

/-- **The rule for writing the journal**: what reaches the disk is valid. -/
theorem safe_writeJournal {j : TransactionJournal} (hschema : j.schema = schemaVersion)
    (hask : j.valid = true → C (.asked (.store (.journal j)) d))
    (hwrote : j.valid = true → C (.wrote d { d with journal := .record j }))
    (hok : j.valid = true → post (.ok ()) { d with journal := .record j })
    (herr : ∀ e, post (.error e) d) : Safe E C (writeJournal j) post d := by
  unfold writeJournal
  simp only [normalizeTransactionJournal_of_schema hschema]
  exact safe_if (fun hv => safe_store (hask hv) (hwrote hv) (hok hv) (herr _)) fun _ => herr _

theorem safe_removeJournal (hask : C (.asked (.store .removeJournal) d))
    (hwrote : C (.wrote d { d with journal := .absent }))
    (hok : post (.ok ()) { d with journal := .absent })
    (herr : ∀ e, post (.error e) d) : Safe E C removeJournal post d := by
  unfold removeJournal
  refine safe_read.mpr ?_
  split
  · rename_i habs
    have hsame : { d with journal := .absent } = d := by rw [← habs]
    rw [hsame] at hok
    exact hok
  · exact safe_store hask hwrote hok (herr _)

end OpenCodexRelay.Routing
