/-
  The accounts of the pending quota — every slot and every byte has one owner at a time.

  A slot or a byte that the quota shows as used belongs to somebody: to a pending request that is
  open, to a job that has not been released, to a granted waiter that has not looked yet, or to a
  goroutine that is between two critical sections of an operation — one that has its slot but not
  its handle, one that was granted bytes and has not written them down, one that has closed a request
  and is on its way to the quota.

  1. `State.held`: what requests, jobs and calls hold, summed over a set of owners.  Everybody's
     holdings and those of a single request are the same sum over different sets.
  2. `State.entries`: the book-keeping of a step — what it takes from the quota or returns to it,
     and on whose behalf.
  3. `held_step`: the holdings of ANY set of owners change by the entries of that set.
  4. `Balanced`: what is out of the quota is what everybody holds.  Every step keeps it
     (`Balanced.step`), because no step returns more than it holds — so no clamp holds back
     anything.
-/
import OpenCodexRelay.Scheduler.Turns

namespace Scheduling

open Queueing

/-! ## Holdings -/

/-- The two goods of the pending quota. -/
inductive Good where
  | slot
  | byte
  deriving DecidableEq

def PendingRequest.amount (r : PendingRequest) : Good → ℤ
  | .slot => if r.closed then 0 else 1
  | .byte => if r.closed then 0 else r.reservedBytes

def JobLease.amount (j : JobLease) : Good → ℤ
  | .slot => if j.released then 0 else 1
  | .byte => if j.released then 0 else j.retained

/-- What a call carries from one critical section to the next. -/
def Call.amount : Call → Good → ℤ
  | .requestAdmitted _, .slot => 1
  | .reserveGranted _ count, .byte => count
  | .reserveReturn _ count, .byte => count
  | .releaseReturn _ count, .byte => count
  | .finishing _ _ _ _, .slot => 1
  | .finishing _ reserved _ _, .byte => reserved
  | .handingOff _ _ _, .slot => 1
  | .handingOff _ reserved _, .byte => reserved
  | _, _ => 0

/-- On whose behalf. -/
def Call.owner : Call → Option RequestId
  | .reserveGranted p _ => some p
  | .reserveReturn p _ => some p
  | .releaseReturn p _ => some p
  | .finishing p _ _ _ => some p
  | .handingOff p _ _ => some p
  | _ => none

/-- The part of an amount that falls to a set of owners; `none` are those without a request yet. -/
def share (S : Option RequestId → Bool) (owner : Option RequestId) (n : ℤ) : ℤ :=
  if S owner then n else 0

/-- Everybody. -/
def everyone : Option RequestId → Bool := fun _ => true

/-- One request. -/
def only (p : RequestId) : Option RequestId → Bool := fun o => o == some p

@[simp] theorem share_zero (S : Option RequestId → Bool) (o : Option RequestId) : share S o 0 = 0 :=
  ite_self 0

theorem share_add (S : Option RequestId → Bool) (o : Option RequestId) (m n : ℤ) :
    share S o (m + n) = share S o m + share S o n := by
  unfold share
  split <;> omega

theorem share_sub (S : Option RequestId → Bool) (o : Option RequestId) (m n : ℤ) :
    share S o (m - n) = share S o m - share S o n := by
  unfold share
  split <;> omega

theorem share_neg (S : Option RequestId → Bool) (o : Option RequestId) (n : ℤ) :
    share S o (-n) = -share S o n := by
  unfold share
  split <;> omega

@[simp] theorem amount_returned (res : Result) (g : Good) : (Call.returned res).amount g = 0 := by
  cases g <;> rfl

@[simp] theorem share_everyone (o : Option RequestId) (n : ℤ) : share everyone o n = n := rfl

namespace State

/-- **What the owners in a set hold.** -/
def held (S : Option RequestId → Bool) (g : Good) (s : State) : ℤ :=
  tableSum (fun p r => share S (some p) (r.amount g)) s.requests +
    tableSum (fun _ j => share S (some j.request) (j.amount g)) s.jobs +
    tableSum (fun _ c => share S c.owner (c.amount g)) s.calls

variable {S : Option RequestId → Bool} {g : Good} {s s' : State} {t : Ticket} {c c' : Call}
  {p : RequestId} {r r' : PendingRequest}

theorem held_setCall (h : s.calls[t]? = some c) :
    (s.setCall t c').held S g
      = s.held S g - share S c.owner (c.amount g) + share S c'.owner (c'.amount g) := by
  simp only [held, setCall, tableSum_set h]
  omega

theorem held_returns {res : Result} (h : s.calls[t]? = some c) :
    (s.returns t res).held S g = s.held S g - share S c.owner (c.amount g) := by
  show (s.setCall t (.returned res)).held S g = _
  rw [held_setCall h, amount_returned, share_zero, add_zero]

theorem held_addCall (s : State) (c : Call) :
    (s.addCall c).held S g = s.held S g + share S c.owner (c.amount g) := by
  simp only [held, addCall, tableSum_append]
  omega

@[simp] theorem held_answers (s : State) (res : Result) : (s.answers res).held S g = s.held S g := by
  show (s.addCall (.returned res)).held S g = _
  rw [held_addCall, amount_returned, share_zero, add_zero]

theorem held_setRequest (h : s.requests[p]? = some r) :
    (s.setRequest p r').held S g
      = s.held S g - share S (some p) (r.amount g) + share S (some p) (r'.amount g) := by
  simp only [held, setRequest, tableSum_set h]
  omega

@[simp] theorem held_setPending (s : State) (q : PendingQuota) :
    (s.setPending q).held S g = s.held S g := rfl

@[simp] theorem held_setUpstream (s : State) (u : UpstreamPool) :
    (s.setUpstream u).held S g = s.held S g := rfl

@[simp] theorem held_setLimiter (s : State) (k : LimiterStage) (l : FifoLimiter) :
    (s.setLimiter k l).held S g = s.held S g := rfl

@[simp] theorem held_addLease (s : State) (permit : Permit) :
    (s.addLease permit).held S g = s.held S g := rfl

@[simp] theorem held_unlock (s : State) (p : RequestId) : (s.unlock p).held S g = s.held S g := by
  unfold unlock
  split
  · rename_i r hr
    rw [held_setRequest hr]
    cases g <;> simp [PendingRequest.amount]
  · rfl

theorem held_addRequest (s : State) (lane : Lane) :
    (s.addRequest lane).held S g
      = s.held S g + share S (some s.requests.length) (if g = .slot then 1 else 0) := by
  simp only [held, addRequest, tableSum_append]
  cases g
  · simp only [PendingRequest.amount, Bool.false_eq_true, if_false, if_true]
    omega
  · simp [PendingRequest.amount]

theorem held_addJob (s : State) (p : RequestId) (retained : ℤ) :
    (s.addJob p retained).held S g
      = s.held S g + share S (some p) (if g = .slot then 1 else retained) := by
  simp only [held, addJob, tableSum_append]
  cases g <;> simp [JobLease.amount] <;> omega

end State

/-! ## The entries of a step -/

/-- What one step takes from the quota on behalf of an owner; what it returns is negative. -/
structure Entry where
  owner : Option RequestId
  slots : ℤ
  bytes : ℤ
  deriving DecidableEq, Repr

def Entry.amount (e : Entry) : Good → ℤ
  | .slot => e.slots
  | .byte => e.bytes

namespace State

/-- **The entries of a step.**  A slot that was granted to a goroutine becomes that of the request
    the goroutine then creates. -/
def entries (s : State) : Action → List Entry
  | .acquirePendingRequest _ none =>
    if (s.scheduler.pending.acquireRequest s.calls.length).2 then [⟨none, 1, 0⟩] else []
  | .releaseJob j =>
    match s.jobs[j]? with
    | some job => if job.released then [] else [⟨some job.request, -1, -job.retained⟩]
    | none => []
  | .wake t =>
    match s.calls[t]? with
    | some (.requestWait _) => [⟨none, 1, 0⟩]
    | some (.reserveWait p count) => [⟨some p, 0, count⟩]
    | _ => []
  | .proceed t =>
    match s.calls[t]? with
    | some (.requestAdmitted _) => [⟨none, -1, 0⟩, ⟨some s.requests.length, 1, 0⟩]
    | some (.reserveStart p count) =>
      if count ≤ s.scheduler.pending.maxBytes ∧ (s.scheduler.pending.reserveBytes ⟨t, count⟩).2 then
        [⟨some p, 0, count⟩]
      else []
    | some (.reserveReturn p count) => [⟨some p, 0, -count⟩]
    | some (.releaseReturn p count) => [⟨some p, 0, -count⟩]
    | some (.finishing p reserved _ _) => [⟨some p, -1, -reserved⟩]
    | some (.handingOff p reserved _) => [⟨some p, 0, -reserved⟩]
    | _ => []
  | _ => []

/-- What the entries of a set of owners come to. -/
def moved (S : Option RequestId → Bool) (g : Good) (s : State) (a : Action) : ℤ :=
  ((s.entries a).map fun e => share S e.owner (e.amount g)).sum

theorem moved_of_nil {S : Option RequestId → Bool} {g : Good} {s : State} {a : Action}
    (h : s.entries a = []) : s.moved S g a = 0 := by
  rw [moved, h]
  rfl

end State

attribute [local simp] State.moved State.entries Call.amount Call.owner Entry.amount Change.amount share_neg

namespace State

variable {S : Option RequestId → Bool} {g : Good} {s s' : State} {t : Ticket} {c : Call}

theorem held_releaseLease {l : LeaseId} (h : s.releaseLease l = some s') :
    s'.held S g = s.held S g := by
  obtain ⟨hr, hj, hc, -⟩ := releaseLease_frame h
  rw [held, hr, hj, hc, held]

variable {p : RequestId}

/-- Closing a request takes from it all that the caller then carries. -/
theorem held_closing {r : PendingRequest} (hr : s.requests[p]? = some r) (hopen : r.closed = false) :
    (s.setRequest p { r with closed := true, reservedBytes := 0 }).held S g
      = s.held S g - share S (some p) (if g = .slot then 1 else r.reservedBytes) := by
  rw [held_setRequest hr]
  cases g <;> simp [PendingRequest.amount, hopen]

theorem held_locking {r : PendingRequest} (hr : s.requests[p]? = some r) :
    (s.setRequest p { r with opMu := true }).held S g = s.held S g := by
  rw [held_setRequest hr]
  cases g <;> simp [PendingRequest.amount]

variable {res : Result}

theorem held_unlock_returns (h : s.calls[t]? = some c) :
    ((s.unlock p).returns t res).held S g = s.held S g - share S c.owner (c.amount g) := by
  rw [held_returns (by rw [calls_unlock]; exact h), held_unlock]

theorem held_leaseReturned {l : LeaseId} (hc : s.calls[t]? = some (.leaseReturn p l))
    (h : s.releaseLease l = some s') : ((s'.unlock p).returns t res).held S g = s.held S g := by
  rw [held_unlock_returns (c := .leaseReturn p l) (by rw [(releaseLease_frame h).2.2.1]; exact hc),
    held_releaseLease h]
  cases g <;> simp

theorem amount_finishes (h : c.Finishes p res) : c.amount g = 0 := by
  cases h <;> cases g <;> rfl

theorem entries_of_opens (s : State) {a : Action} (ha : a.Opens) : s.entries a = [] := by
  cases a with
  | acquirePendingRequest lane refused => cases refused <;> first | rfl | cases ha
  | acquireLimiter | reserveBytes | releaseBytes | close | handoffPassthrough | acquireUpstream => rfl
  | _ => cases ha

theorem entries_of_finishes (hc : s.calls[t]? = some c) (h : c.Finishes p res) :
    s.entries (.proceed t) = [] := by
  cases h <;> simp only [entries, hc]

/-- **The holdings of any set of owners change by the entries of that set.** -/
theorem held_step {a : Action} (hs : s.step a = some s') :
    s'.held S g = s.held S g + s.moved S g a := by
  have hturn := step_turn hs
  generalize s.label a = label at hturn
  cases hturn with
  | answers ha => rw [held_answers, moved_of_nil (entries_of_opens s ha), add_zero]
  | enterAtOnce => simp
  | enterQueue =>
    rw [held_addCall]
    cases g <;> simp
  | acquireAtOnce h | acquireQueue h =>
    rw [held_addCall]
    cases g <;> simp [h]
  | reserveBytes hr | acquireUpstream hr =>
    rw [held_addCall, held_locking hr]
    cases g <;> simp
  | releaseBytes hr hopen =>
    rw [held_addCall, held_setRequest hr]
    cases g
    · simp [PendingRequest.amount]
    · simp [PendingRequest.amount, share_sub, hopen]
  | close hr hopen =>
    rw [held_addCall, held_closing hr hopen]
    cases g <;> simp
  | handoffPassthrough hr hopen =>
    rw [held_answers, held_addJob, held_closing hr hopen]
    simp
  | jobReleased hj hreleased => simp [hj, hreleased]
  | releaseJob hj hreleased =>
    simp only [held, setPending, tableSum_set hj]
    cases g <;> simp [hj, hreleased, JobLease.amount] <;> omega
  | releaseLease h => simp [held_releaseLease h]
  | @collect _ k _ hc | @withdraw _ k _ hc =>
    rw [held_returns (c := .limiterWait k) (by exact hc)]
    cases g <;> simp [hc]
  | @withdrawRequest _ lane _ hc =>
    rw [held_returns (c := .requestWait lane) (by exact hc)]
    cases g <;> simp
  | @collectRequest _ lane _ hc =>
    rw [held_setCall (c := .requestWait lane) (by exact hc)]
    cases g <;> simp [hc]
  | @collectBytes _ p count _ hc =>
    rw [held_setCall (c := .reserveWait p count) (by exact hc)]
    cases g <;> simp [hc]
  | @collectUpstream _ p job lane _ _ hc | @withdrawUpstream _ p job lane _ hc =>
    rw [held_setCall (c := .upstreamWait p job lane) (by exact hc)]
    cases g <;> simp [hc]
  | reserveRefused hc =>
    rw [held_unlock_returns hc]
    cases g <;> simp
  | @withdrawBytes _ p count _ hc =>
    rw [held_unlock_returns (c := .reserveWait p count) (by exact hc)]
    cases g <;> simp
  | upstreamRefused hc | grantedClosed hc | handoffClosed hc =>
    rw [held_setCall hc]
    cases g <;> simp [hc]
  | returnInterrupted hc h | leaseReturned hc h => simp [hc, held_leaseReturned hc h]
  | @admitted _ lane hc =>
    rw [held_returns (c := .requestAdmitted lane) (by exact hc), held_addRequest]
    cases g
    · simp [hc]
      omega
    · simp [hc]
  | reserveTooLarge hc hbig =>
    rw [held_unlock_returns hc]
    cases g <;> simp [hc, Int.not_le.mpr hbig]
  | @reserveAtOnce _ p count _ hc hsmall h | @reserveQueue _ p count _ hc hsmall h =>
    rw [held_setCall (c := .reserveStart p count) (by exact hc)]
    cases g <;> simp [hc, h, hsmall]
  | @granted _ p count _ hc hr hopen =>
    rw [held_unlock_returns (c := .reserveGranted p count) (by exact hc), held_setRequest hr]
    cases g
    · simp [hc, PendingRequest.amount]
    · simp [hc, PendingRequest.amount, share_add, hopen]
      omega
  | @reserveReturn _ p count hc =>
    rw [held_unlock_returns (c := .reserveReturn p count) (by exact hc)]
    cases g <;> simp [hc, sub_eq_add_neg]
  | @releaseReturn _ p count hc =>
    rw [held_unlock_returns (c := .releaseReturn p count) (by exact hc)]
    cases g <;> simp [hc, sub_eq_add_neg]
  | @finishedOp _ p reserved res hc =>
    rw [held_unlock_returns (c := .finishing p reserved true res) (by exact hc)]
    cases g <;> simp [hc, sub_eq_add_neg]
  | @finished _ p reserved res hc =>
    rw [held_returns (c := .finishing p reserved false res) (by exact hc)]
    cases g <;> simp [hc, sub_eq_add_neg]
  | @enterUpstream _ p job _ hc =>
    rw [held_setCall (c := .upstreamStart p job) (by exact hc)]
    cases g <;> simp [hc]
  | finishClosed hc hfinish =>
    rw [held_unlock_returns hc, amount_finishes hfinish, moved_of_nil (entries_of_finishes hc hfinish)]
    simp
  | @finish _ p c _ _ hc hfinish hr hopen =>
    rw [held_setCall (c := c) (by exact hc), held_closing hr hopen, amount_finishes hfinish,
      moved_of_nil (entries_of_finishes hc hfinish)]
    cases g <;> simp
  | @handoff _ p l _ hc hr hopen =>
    rw [held_setCall (c := .upstreamGranted p true l) (by exact hc), held_closing hr hopen]
    cases g <;> simp [hc]
  | @handedOff _ p reserved l hc =>
    rw [held_unlock_returns (c := .handingOff p reserved l) (by exact hc), held_addJob]
    cases g <;> simp [hc, sub_eq_add_neg]

end State

/-! ## The balance -/

/-- The counts a call carries are counts: what it asks for is positive, what it took from a request
    is not negative. -/
def Call.Sound : Call → Prop
  | .reserveStart _ count => 0 < count
  | .reserveWait _ count => 0 < count
  | .reserveGranted _ count => 0 < count
  | .reserveReturn _ count => 0 < count
  | .releaseReturn _ count => 0 < count
  | .finishing _ reserved _ _ => 0 ≤ reserved
  | .handingOff _ reserved _ => 0 ≤ reserved
  | _ => True

namespace State

/-- No entry of the tables holds a negative amount. -/
structure Tables (s : State) : Prop where
  requests : ∀ (p : RequestId) (r : PendingRequest), s.requests[p]? = some r → 0 ≤ r.reservedBytes
  jobs : ∀ (j : JobId) (job : JobLease), s.jobs[j]? = some job → 0 ≤ job.retained
  calls : ∀ (t : Ticket) (c : Call), s.calls[t]? = some c → c.Sound

/-- **What is out of the quota is what everybody holds.** -/
structure Balanced (s : State) : Prop extends Tables s where
  maxRequests : s.scheduler.pending.maxRequests = s.scheduler.limits.maxPendingRequests
  maxBytes : s.scheduler.pending.maxBytes = s.scheduler.limits.maxPendingBytes
  within : s.scheduler.pending.Within
  slots : s.scheduler.pending.slotsOut = s.held everyone .slot
  bytes : s.scheduler.pending.bytesOut = s.held everyone .byte
  waiting : ∀ w ∈ s.scheduler.pending.byteTickets, 0 < w.bytes

end State

theorem PendingRequest.amount_nonneg {r : PendingRequest} (h : 0 ≤ r.reservedBytes) (g : Good) :
    0 ≤ r.amount g := by
  cases g <;> simp only [amount] <;> split <;> omega

theorem JobLease.amount_nonneg {j : JobLease} (h : 0 ≤ j.retained) (g : Good) : 0 ≤ j.amount g := by
  cases g <;> simp only [amount] <;> split <;> omega

theorem Call.amount_nonneg {c : Call} (h : c.Sound) (g : Good) : 0 ≤ c.amount g := by
  cases c <;> cases g <;> simp only [amount, Sound] at h ⊢ <;> omega

theorem share_nonneg {S : Option RequestId → Bool} {o : Option RequestId} {n : ℤ} (h : 0 ≤ n) :
    0 ≤ share S o n := by
  unfold share
  split <;> omega

namespace State

variable {S : Option RequestId → Bool} {g : Good} {s s' : State} {t : Ticket} {c : Call}

section Parts

variable (h : s.Balanced)
include h

namespace Balanced

theorem requests_nonneg :
    0 ≤ tableSum (fun p r => share S (some p) (r.amount g)) s.requests :=
  tableSum_nonneg fun p r hr => share_nonneg (PendingRequest.amount_nonneg (h.requests p r hr) g)

theorem jobs_nonneg :
    0 ≤ tableSum (fun _ j => share S (some j.request) (j.amount g)) s.jobs :=
  tableSum_nonneg fun j job hjob => share_nonneg (JobLease.amount_nonneg (h.jobs j job hjob) g)

theorem calls_nonneg : 0 ≤ tableSum (fun _ c => share S c.owner (c.amount g)) s.calls :=
  tableSum_nonneg fun t c hc => share_nonneg (Call.amount_nonneg (h.calls t c hc) g)

theorem held_nonneg : 0 ≤ s.held S g := by
  have h1 := h.requests_nonneg (S := S) (g := g)
  have h2 := h.jobs_nonneg (S := S) (g := g)
  have h3 := h.calls_nonneg (S := S) (g := g)
  unfold held
  omega

/-- Nobody holds more than all together. -/
theorem call_le (hc : s.calls[t]? = some c) : c.amount g ≤ s.held everyone g := by
  have h1 := h.requests_nonneg (S := everyone) (g := g)
  have h2 := h.jobs_nonneg (S := everyone) (g := g)
  have h3 := le_tableSum (f := fun _ c => share everyone c.owner (c.amount g))
    (fun t c hc => share_nonneg (Call.amount_nonneg (h.calls t c hc) g)) hc
  unfold held
  simp only [share_everyone] at *
  omega

theorem job_le {j : JobId} {job : JobLease} (hj : s.jobs[j]? = some job) :
    job.amount g ≤ s.held everyone g := by
  have h1 := h.requests_nonneg (S := everyone) (g := g)
  have h2 := h.calls_nonneg (S := everyone) (g := g)
  have h3 := le_tableSum (f := fun _ j => share everyone (some j.request) (j.amount g))
    (fun j job hjob => share_nonneg (JobLease.amount_nonneg (h.jobs j job hjob) g)) hj
  unfold held
  simp only [share_everyone] at *
  omega

theorem granted_nonneg :
    0 ≤ (s.scheduler.pending.grantedBytes.map QuotaWaiter.bytes).sum := by
  refine List.sum_nonneg fun n hn => ?_
  obtain ⟨w, hw, rfl⟩ := List.mem_map.mp hn
  exact (h.waiting w (List.mem_append_right _ hw)).le

/-- What somebody holds is in use. -/
theorem held_le_bytes : s.held everyone .byte ≤ s.scheduler.pending.bytes := by
  have h1 := h.bytes
  have h2 := h.granted_nonneg
  unfold PendingQuota.bytesOut at h1
  omega

theorem held_le_requests : s.held everyone .slot ≤ s.scheduler.pending.requests := by
  have h1 := h.slots
  unfold PendingQuota.slotsOut at h1
  omega

end Balanced

end Parts

/-! ### The tables -/

theorem Tables.congr (h : s.Tables) (hr : s'.requests = s.requests) (hj : s'.jobs = s.jobs)
    (hc : s'.calls = s.calls) : s'.Tables := by
  constructor
  · rw [hr]; exact h.requests
  · rw [hj]; exact h.jobs
  · rw [hc]; exact h.calls

section Tables

variable {α : Type} {P : α → Prop} {l : List α} {x : α}

/-- What holds of every entry of a table, and of the one that is put into it. -/
theorem entries_set (h : ∀ (i : ℕ) y, l[i]? = some y → P y) (hx : P x) (n : ℕ) :
    ∀ (i : ℕ) y, (l.set n x)[i]? = some y → P y := by
  intro i y hi
  rcases List.mem_or_eq_of_mem_set (List.mem_of_getElem? hi) with hmem | rfl
  · obtain ⟨j, hj⟩ := List.mem_iff_getElem?.mp hmem
    exact h j y hj
  · exact hx

theorem entries_append (h : ∀ (i : ℕ) y, l[i]? = some y → P y) (hx : P x) :
    ∀ (i : ℕ) y, (l ++ [x])[i]? = some y → P y := by
  intro i y hi
  rcases List.mem_append.mp (List.mem_of_getElem? hi) with hmem | hmem
  · obtain ⟨j, hj⟩ := List.mem_iff_getElem?.mp hmem
    exact h j y hj
  · exact List.mem_singleton.mp hmem ▸ hx

end Tables

variable {l : LeaseId} {p : RequestId}

section Updates

variable (h : s.Tables)
include h

namespace Tables

theorem setPending (q : PendingQuota) : (s.setPending q).Tables := h.congr rfl rfl rfl

theorem setUpstream (u : UpstreamPool) : (s.setUpstream u).Tables := h.congr rfl rfl rfl

theorem setLimiter (k : LimiterStage) (l : FifoLimiter) : (s.setLimiter k l).Tables :=
  h.congr rfl rfl rfl

theorem addLease (permit : Permit) : (s.addLease permit).Tables := h.congr rfl rfl rfl

theorem setCall (hc : c.Sound) : (s.setCall t c).Tables :=
  ⟨h.requests, h.jobs, entries_set h.calls hc t⟩

theorem returns (res : Result) : (s.returns t res).Tables :=
  (h.setCall (c := .returned res) trivial).congr rfl rfl rfl

theorem addCall (hc : c.Sound) : (s.addCall c).Tables :=
  ⟨h.requests, h.jobs, entries_append h.calls hc⟩

theorem answers (res : Result) : (s.answers res).Tables :=
  (h.addCall (c := .returned res) trivial).congr rfl rfl rfl

theorem setRequest {r : PendingRequest} (hr : 0 ≤ r.reservedBytes) :
    (s.setRequest p r).Tables :=
  ⟨entries_set h.requests hr p, h.jobs, h.calls⟩

theorem unlock (p : RequestId) : (s.unlock p).Tables := by
  refine ⟨fun i r hi => ?_, by rw [jobs_unlock]; exact h.jobs, by rw [calls_unlock]; exact h.calls⟩
  obtain ⟨r', hr', -, -, heq⟩ := requests_unlock s p hi
  rw [heq]
  exact h.requests i r' hr'

theorem addRequest (lane : Lane) : (s.addRequest lane).Tables :=
  ⟨entries_append h.requests le_rfl, h.jobs, h.calls⟩

theorem addJob {retained : ℤ} (hn : 0 ≤ retained) : (s.addJob p retained).Tables :=
  ⟨h.requests, entries_append h.jobs hn, h.calls⟩

theorem releaseLease (hl : s.releaseLease l = some s') : s'.Tables := by
  obtain ⟨hr, hj, hc, -⟩ := releaseLease_frame hl
  exact h.congr hr hj hc

theorem returnLease {res : Result} (hl : s.releaseLease l = some s') :
    ((s'.unlock p).returns t res).Tables :=
  ((h.releaseLease hl).unlock p).returns res

end Tables

end Updates

variable {a : Action}

theorem Tables.step (h : s.Tables) (hs : s.step a = some s') : s'.Tables := by
  have hturn := step_turn hs
  generalize s.label a = label at hturn
  cases hturn with
  | answers => exact h.answers _
  | enterAtOnce => exact ((h.setLimiter _ _).addLease _).answers _
  | enterQueue => exact (h.setLimiter _ _).addCall trivial
  | acquireAtOnce | acquireQueue => exact (h.setPending _).addCall trivial
  | @reserveBytes p _ r hr hcount =>
    have hreserved : 0 ≤ r.reservedBytes := h.requests p r hr
    exact (h.setRequest (by exact hreserved)).addCall hcount
  | releaseBytes hr hopen hcount hle => exact (h.setRequest (Int.sub_nonneg_of_le hle)).addCall hcount
  | @close p _ hr => exact (h.setRequest le_rfl).addCall (h.requests p _ hr)
  | @handoffPassthrough p _ hr =>
    exact ((h.setRequest le_rfl).addJob (h.requests p _ hr)).answers _
  | @acquireUpstream p _ r hr =>
    have hreserved : 0 ≤ r.reservedBytes := h.requests p r hr
    exact (h.setRequest (by exact hreserved)).addCall trivial
  | jobReleased => exact h
  | @releaseJob j job hj =>
    have hretained : 0 ≤ job.retained := h.jobs j job hj
    exact ⟨h.requests, entries_set h.jobs (by exact hretained) j, h.calls⟩
  | releaseLease hl => exact h.releaseLease hl
  | collect => exact ((h.setLimiter _ _).addLease _).returns _
  | collectRequest => exact (h.setPending _).setCall trivial
  | @collectBytes _ _ count _ hc | @reserveAtOnce _ _ count _ hc | @reserveQueue _ _ count _ hc =>
    have hcount : 0 < count := h.calls _ _ hc
    exact (h.setPending _).setCall hcount
  | collectUpstream => exact ((h.setUpstream _).addLease _).setCall trivial
  | withdraw => exact (h.setLimiter _ _).returns _
  | withdrawRequest | finished => exact (h.setPending _).returns _
  | reserveRefused | reserveTooLarge | finishClosed => exact (h.unlock _).returns _
  | withdrawBytes | reserveReturn | releaseReturn | finishedOp =>
    exact ((h.setPending _).unlock _).returns _
  | upstreamRefused | handoffClosed => exact h.setCall trivial
  | withdrawUpstream | enterUpstream => exact (h.setUpstream _).setCall trivial
  | returnInterrupted _ hl | leaseReturned _ hl => exact h.returnLease hl
  | admitted => exact (h.addRequest _).returns _
  | @grantedClosed _ _ count hc =>
    have hcount : 0 < count := h.calls _ _ hc
    exact h.setCall hcount
  | @granted _ p count r hc hr =>
    have hcount : 0 < count := h.calls _ _ hc
    exact ((h.setRequest (Int.add_nonneg (h.requests p r hr) hcount.le)).unlock p).returns _
  | @finish _ p _ _ r hc hfinish hr | @handoff _ p _ r hc hr =>
    exact (h.setRequest le_rfl).setCall (h.requests p r hr)
  | handedOff => exact (((h.setPending _).addJob le_rfl).unlock _).returns _

/-! ### The quota -/

/-- **A step whose section moved the quota by its entries**, and let nobody wait for nothing. -/
def Books (s : State) (a : Action) (q : PendingQuota) : Prop :=
  ∃ slots bytes, s.scheduler.pending.Acts slots bytes q ∧
    slots.Sound (fun _ => 1) ∧ bytes.Sound QuotaWaiter.bytes ∧
    s.moved everyone .slot a = slots.amount (fun _ => 1) ∧
    s.moved everyone .byte a = bytes.amount QuotaWaiter.bytes

theorem Books.same (h : s.entries a = []) : s.Books a s.scheduler.pending :=
  ⟨_, _, .same _, trivial, trivial, moved_of_nil h, moved_of_nil h⟩

/-- Closing somebody's account takes no more than is in use. -/
theorem Balanced.call_returns (h : s.Balanced) (hc : s.calls[t]? = some c) :
    c.amount .byte ≤ s.scheduler.pending.bytes ∧ c.amount .slot ≤ s.scheduler.pending.requests :=
  ⟨(h.call_le hc).trans h.held_le_bytes, (h.call_le hc).trans h.held_le_requests⟩

theorem Balanced.job_returns (h : s.Balanced) {j : JobId} {job : JobLease}
    (hj : s.jobs[j]? = some job) :
    job.amount .byte ≤ s.scheduler.pending.bytes ∧
      job.amount .slot ≤ s.scheduler.pending.requests :=
  ⟨(h.job_le hj).trans h.held_le_bytes, (h.job_le hj).trans h.held_le_requests⟩

/-- The quota of what the operations return with. -/
@[simp] theorem pending_unlock_returns (s : State) (p : RequestId) (t : Ticket) (res : Result) :
    ((s.unlock p).returns t res).scheduler.pending = s.scheduler.pending := by
  simp [returns]

@[simp] theorem pending_returns (s : State) (t : Ticket) (res : Result) :
    (s.returns t res).scheduler.pending = s.scheduler.pending := by
  simp [returns]

@[simp] theorem pending_answers (s : State) (res : Result) :
    (s.answers res).scheduler.pending = s.scheduler.pending := by
  simp [answers]

theorem pending_leaseReturned (h : s.releaseLease l = some s') (p : RequestId) (t : Ticket)
    (res : Result) :
    ((s'.unlock p).returns t res).scheduler.pending = s.scheduler.pending := by
  rw [pending_unlock_returns, (releaseLease_frame h).2.2.2.1]

theorem books_acquireRequest {lane : Lane} {q : PendingQuota} {admitted : Bool}
    (h : s.scheduler.pending.acquireRequest s.calls.length = (q, admitted)) :
    s.Books (.acquirePendingRequest lane none) q := by
  refine ⟨_, _, PendingQuota.acquireRequest_acts h, ?_, trivial, ?_, ?_⟩ <;>
    cases admitted <;> simp [h, Change.Sound]

theorem Balanced.books_reserveBytes (h : s.Balanced) {count : ℤ} {q : PendingQuota} {granted : Bool}
    (hc : s.calls[t]? = some (.reserveStart p count))
    (hsmall : count ≤ s.scheduler.pending.maxBytes)
    (hq : s.scheduler.pending.reserveBytes ⟨t, count⟩ = (q, granted)) : s.Books (.proceed t) q := by
  have hcount : 0 < count := h.calls t _ hc
  refine ⟨_, _, PendingQuota.reserveBytes_acts hq, trivial, ?_, ?_, ?_⟩ <;>
    cases granted <;> simp [hc, hq, hsmall, Change.Sound, hcount]

/-- A call that brings bytes back. -/
theorem Balanced.books_releaseBytes (h : s.Balanced) {count : ℤ} (hc : s.calls[t]? = some c)
    (hcount : c.amount .byte = count) (hslots : s.moved everyone .slot (.proceed t) = 0)
    (hbytes : s.moved everyone .byte (.proceed t) = -count) :
    s.Books (.proceed t) (s.scheduler.pending.releaseBytes count) := by
  have hle := (h.call_returns hc).1
  have hnonneg := Call.amount_nonneg (h.calls t c hc) .byte
  rw [hcount] at hle hnonneg
  have hacts := PendingQuota.releaseBytes_acts s.scheduler.pending count
  rw [if_neg (Int.not_lt.mpr (Int.sub_nonneg_of_le hle))] at hacts
  exact ⟨_, _, hacts, trivial, hnonneg, hslots, hbytes⟩

/-- A slot and bytes that are brought back. -/
theorem books_releaseRequest {reserved : ℤ} (hreserved : 0 ≤ reserved)
    (hslot : 0 < s.scheduler.pending.requests) (hle : reserved ≤ s.scheduler.pending.bytes)
    (hslots : s.moved everyone .slot a = -1) (hbytes : s.moved everyone .byte a = -reserved) :
    s.Books a (s.scheduler.pending.releaseRequest reserved) := by
  have hacts := PendingQuota.releaseRequest_acts s.scheduler.pending reserved
  rw [if_neg (Int.not_lt.mpr (Int.sub_nonneg_of_le hle)), if_pos hslot] at hacts
  exact ⟨_, _, hacts, zero_le_one, hreserved, hslots, hbytes⟩

theorem Balanced.books_finishing (h : s.Balanced) {reserved : ℤ} {op : Bool} {res : Result}
    (hc : s.calls[t]? = some (.finishing p reserved op res)) :
    s.Books (.proceed t) (s.scheduler.pending.releaseRequest reserved) := by
  obtain ⟨hb, hr⟩ := h.call_returns hc
  refine books_releaseRequest (h.calls t _ hc) hr hb ?_ ?_ <;> simp [hc]

/-- **Every step moves the quota by its entries.** -/
theorem Balanced.books_step (h : s.Balanced) (hs : s.step a = some s') :
    s.Books a s'.scheduler.pending := by
  have hturn := step_turn hs
  generalize s.label a = label at hturn
  cases hturn with
  | answers ha =>
    rw [pending_answers]
    exact Books.same (entries_of_opens s ha)
  | enterAtOnce | handoffPassthrough =>
    rw [pending_answers]
    exact Books.same rfl
  | enterQueue | reserveBytes | releaseBytes | close | acquireUpstream => exact Books.same rfl
  | acquireAtOnce hq | acquireQueue hq => exact books_acquireRequest hq
  | jobReleased hj hreleased => exact Books.same (by simp [hj, hreleased])
  | @releaseJob j job hj hreleased =>
    obtain ⟨hb, hr⟩ := h.job_returns hj
    simp only [JobLease.amount, hreleased, Bool.false_eq_true, if_false] at hb hr
    refine books_releaseRequest (h.jobs j job hj) (by omega) hb ?_ ?_ <;>
      simp [hj, hreleased]
  | releaseLease hl =>
    rw [(releaseLease_frame hl).2.2.2.1]
    exact Books.same rfl
  | collect hc =>
    rw [pending_returns]
    exact Books.same (by simp [hc])
  | collectRequest hc hq =>
    refine ⟨_, _, PendingQuota.collectRequest_acts hq, trivial, trivial, ?_, ?_⟩ <;>
      simp [hc]
  | collectBytes hc hq =>
    refine ⟨_, _, PendingQuota.collectBytes_acts hq, trivial, trivial, ?_, ?_⟩ <;>
      simp [hc]
  | withdraw =>
    rw [pending_returns]
    exact Books.same rfl
  | withdrawRequest =>
    rw [pending_returns]
    exact ⟨_, _, PendingQuota.withdrawRequest_acts _ _, trivial, trivial, rfl, rfl⟩
  | withdrawBytes =>
    rw [pending_unlock_returns]
    exact ⟨_, _, PendingQuota.withdrawBytes_acts _ _, trivial, trivial, rfl, rfl⟩
  | reserveRefused =>
    rw [pending_unlock_returns]
    exact Books.same rfl
  | upstreamRefused | withdrawUpstream => exact Books.same rfl
  | returnInterrupted hc hl =>
    rw [pending_leaseReturned hl]
    exact Books.same rfl
  | leaseReturned hc hl =>
    rw [pending_leaseReturned hl]
    exact Books.same (by simp [hc])
  | admitted hc =>
    rw [pending_returns]
    refine ⟨_, _, .same _, trivial, trivial, ?_, ?_⟩ <;>
      simp [hc]
  | reserveTooLarge hc hbig =>
    rw [pending_unlock_returns]
    exact Books.same (by simp [hc, Int.not_le.mpr hbig])
  | reserveAtOnce hc hsmall hq | reserveQueue hc hsmall hq => exact h.books_reserveBytes hc hsmall hq
  | granted hc =>
    rw [pending_unlock_returns]
    exact Books.same (by simp [hc])
  | @reserveReturn _ _ count hc | @releaseReturn _ _ count hc | @handedOff _ _ count _ hc =>
    rw [pending_unlock_returns]
    exact @books_releaseBytes _ _ _ h count hc rfl (by simp [hc])
      (by simp [hc])
  | finishedOp hc =>
    rw [pending_unlock_returns]
    exact h.books_finishing hc
  | finished hc =>
    rw [pending_returns]
    exact h.books_finishing hc
  | finishClosed hc hfinish =>
    rw [pending_unlock_returns]
    exact Books.same (entries_of_finishes hc hfinish)
  | finish hc hfinish => exact Books.same (entries_of_finishes hc hfinish)
  | collectUpstream hc | grantedClosed hc | enterUpstream hc | handoffClosed hc | handoff hc =>
    exact Books.same (by simp [hc])

theorem Balanced.moved_step (h : s.Balanced) (hs : s.step a = some s') :
    s'.scheduler.pending.slotsOut = s.scheduler.pending.slotsOut + s.moved everyone .slot a ∧
      s'.scheduler.pending.bytesOut = s.scheduler.pending.bytesOut + s.moved everyone .byte a := by
  obtain ⟨slots, bytes, hacts, -, -, hslots, hbytes⟩ := h.books_step hs
  rw [hslots, hbytes]
  exact ⟨hacts.slotsOut, hacts.bytesOut⟩

/-- **Every step keeps the balance.** -/
theorem Balanced.step (h : s.Balanced) (hs : s.step a = some s') : s'.Balanced := by
  obtain ⟨slots, bytes, hacts, hslots, hbytes, -, -⟩ := h.books_step hs
  have hlimits := limits_step hs
  have hgranted : ∀ w ∈ s.scheduler.pending.grantedBytes, 0 ≤ w.bytes :=
    fun w hw => (h.waiting w (List.mem_append_right _ hw)).le
  refine ⟨h.toTables.step hs, ?_, ?_, hacts.within hslots hbytes hgranted h.within, ?_, ?_, fun w hw => ?_⟩
  · rw [hacts.maxRequests, h.maxRequests, hlimits]
  · rw [hacts.maxBytes, h.maxBytes, hlimits]
  · rw [(h.moved_step hs).1, h.slots, held_step hs]
  · rw [(h.moved_step hs).2, h.bytes, held_step hs]
  · rcases List.mem_append.mp (hacts.bytes.moves.subset hw) with hw | hw
    · cases bytes with
      | joins v => exact List.mem_singleton.mp hw ▸ hbytes
      | _ => cases hw
    · exact h.waiting w hw

theorem balanced_of_fresh (h : s.Fresh) : s.Balanced := by
  obtain ⟨hvalid, hs⟩ := h.scheduler_eq
  obtain ⟨-, -, hrequests, hjobs, -, hcalls⟩ := h
  have hpositive := Limits.validate_ok hvalid
  have hpending : s.scheduler.pending = newPendingQuota s.scheduler.limits.maxPendingRequests
      s.scheduler.limits.maxPendingBytes := by rw [hs]
  have hheld : ∀ g, s.held everyone g = 0 := by
    intro g
    simp [held, hrequests, hjobs, hcalls]
  refine ⟨⟨by simp [hrequests], by simp [hjobs], by simp [hcalls]⟩, ?_, ?_, ?_, ?_, ?_, ?_⟩
  · simp [hpending, newPendingQuota]
  · simp [hpending, newPendingQuota]
  · simp only [hpending, newPendingQuota, PendingQuota.Within]
    exact ⟨hpositive.requests.le, hpositive.bytes.le⟩
  · simp [hheld, hpending, newPendingQuota, PendingQuota.slotsOut]
  · simp [hheld, hpending, newPendingQuota, PendingQuota.bytesOut]
  · simp [hpending, newPendingQuota, PendingQuota.byteTickets]

end State

/-- **The quota is balanced in every state of every run.** -/
theorem balanced_of_runs {past : List (State × Action)} {s : State} (h : Runs past s) :
    s.Balanced :=
  h.state (fun _ => State.balanced_of_fresh) fun _ _ _ hI hstep => hI.step hstep

end Scheduling



