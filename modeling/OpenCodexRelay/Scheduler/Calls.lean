/-
  The scheduler and its clients (scheduler.go) — every operation, one critical section at a time.

  Any number of goroutines use one `Scheduler`.  What they hold are HANDLES: a `PendingRequest` owns
  a request slot and the bytes reserved for it, a `JobLease` owns a slot after the request left the
  pending stage, a `Lease` owns a permit of another boundary.  Where a goroutine stands inside an
  operation is its `Call`: between two of its critical sections everybody else may run, and what it
  carries from one section to the next (a slot it is about to give back, bytes it was just granted)
  is data of the call.

  1. `Scheduler`, the handles, `Call`: the state of the whole.
  2. `Action`: the atomic steps — starting an operation, waking from a wait because the waiter was
     granted, being cut off from it by a context or a timer, and going on to the next section.
  3. `State.step`: what each of them does.  A step that is not possible is none.

  A context may end at any moment and the goroutine that watches over a pending request may close it
  at any moment, so both are steps that are always possible.  `opMu` serializes the operations on
  one pending request; `Close` does not take it.
-/
import OpenCodexRelay.Scheduler.Limiters

namespace Scheduling

open Queueing

/-! ## The scheduler and what its clients hold -/

/-- The boundaries that are plain limiters. -/
inductive LimiterStage where
  | classification
  | transform
  | delivery
  deriving DecidableEq, Repr

def LimiterStage.stage : LimiterStage → Stage
  | .classification => .classification
  | .transform => .transform
  | .delivery => .delivery

structure Scheduler where
  limits : Limits
  /-- The fields `classification`, `transform` and `delivery`. -/
  limiter : LimiterStage → FifoLimiter
  pending : PendingQuota
  upstream : UpstreamPool
  rejections : ℕ

/-- What the limits say about a limiter. -/
def Limits.capacity (l : Limits) : LimiterStage → ℤ
  | .classification => l.maxClassifications
  | .transform => l.maxConcurrentTransforms
  | .delivery => l.maxOpenDeliveries

theorem Limits.Positive.capacity {l : Limits} (h : l.Positive) (k : LimiterStage) :
    0 < l.capacity k := by
  cases k
  exacts [h.classifications, h.transforms, h.deliveries]

/-- `New`. -/
def new (limits : Limits) : Except SchedulerError Scheduler :=
  match limits.validate with
  | .error e => .error e
  | .ok _ =>
    .ok {
      limits := limits
      limiter := fun k => newFIFOLimiter (limits.capacity k)
      pending := newPendingQuota limits.maxPendingRequests limits.maxPendingBytes
      upstream := newUpstreamPool limits.maxGeneralUpstream limits.interactiveReservedUpstream
      rejections := 0 }

abbrev RequestId := ℕ
abbrev JobId := ℕ
abbrev LeaseId := ℕ

structure PendingRequest where
  lane : Lane
  opMu : Bool
  closed : Bool
  reservedBytes : ℤ
  deriving DecidableEq, Repr

/-- A `JobLease`: what its closure retains, and whether it has run.  Whose slot it carries on is
    kept for the accounts. -/
structure JobLease where
  request : RequestId
  retained : ℤ
  released : Bool
  deriving DecidableEq, Repr

/-- What the closure of a `Lease` gives back. -/
inductive Permit where
  | limiter (k : LimiterStage)
  | upstream (lane : Lane) (kind : PermitKind)
  deriving DecidableEq, Repr

structure Lease where
  permit : Permit
  released : Bool
  deriving DecidableEq, Repr

/-- What an operation returns besides an error. -/
inductive Value where
  | nothing
  | request (p : RequestId)
  | lease (l : LeaseId)
  | job (j : JobId)
  | leaseAndJob (l : LeaseId) (j : JobId)
  deriving DecidableEq, Repr

abbrev Result := Except SchedulerError Value

/-- **Where a goroutine stands inside an operation.** -/
inductive Call where
  | returned (r : Result)
  /-- `acquire` of a limiter, waiting. -/
  | limiterWait (k : LimiterStage)
  /-- `AcquirePendingRequest`, waiting; and with a slot but without the handle yet. -/
  | requestWait (lane : Lane)
  | requestAdmitted (lane : Lane)
  /-- `ReserveBytes` before it turns to the quota, waiting there, with the bytes, and about to give
      them back because the request was closed in between. -/
  | reserveStart (p : RequestId) (count : ℤ)
  | reserveWait (p : RequestId) (count : ℤ)
  | reserveGranted (p : RequestId) (count : ℤ)
  | reserveReturn (p : RequestId) (count : ℤ)
  /-- `ReleaseBytes`, about to give the bytes back. -/
  | releaseReturn (p : RequestId) (count : ℤ)
  /-- `finish` has closed the request and is about to give back its slot and bytes; `op` says
      whether the operation around it holds `opMu`. -/
  | finishing (p : RequestId) (reserved : ℤ) (op : Bool) (r : Result)
  /-- `AcquireUpstream` or (`job`) `AcquireUpstreamJob`: before it turns to the pool, waiting there,
      with its lease, and without. -/
  | upstreamStart (p : RequestId) (job : Bool)
  | upstreamWait (p : RequestId) (job : Bool) (lane : Lane)
  | upstreamGranted (p : RequestId) (job : Bool) (l : LeaseId)
  | upstreamFailed (p : RequestId) (e : SchedulerError)
  /-- `AcquireUpstreamJob` found the request closed and is about to release its lease. -/
  | leaseReturn (p : RequestId) (l : LeaseId)
  /-- `handoff` has closed the request and is about to give back its bytes. -/
  | handingOff (p : RequestId) (reserved : ℤ) (l : LeaseId)
  deriving DecidableEq

structure State where
  scheduler : Scheduler
  requests : List PendingRequest
  jobs : List JobLease
  leases : List Lease
  calls : List Call

/-- What ends a wait: the context's two errors, or the timer. -/
inductive Interrupt where
  | canceled
  | deadlineExceeded
  | timer
  deriving DecidableEq, Repr

def Interrupt.error (stage : Stage) : Interrupt → SchedulerError
  | .canceled => .canceled
  | .deadlineExceeded => .deadlineExceeded
  | .timer => .queueTimeout stage

/-- `recordRejection`. -/
def Scheduler.recordRejection (s : Scheduler) : Result → Scheduler
  | .error (.queueTimeout _) => { s with rejections := s.rejections + 1 }
  | _ => s

/-! ## The steps -/

/-- **The atomic steps of the clients.** -/
inductive Action where
  /-- The acquiring functions; `refused` if the context or the deadline ended before they entered. -/
  | acquireLimiter (k : LimiterStage) (refused : Option Interrupt)
  | acquirePendingRequest (lane : Lane) (refused : Option Interrupt)
  | reserveBytes (p : RequestId) (count : ℤ)
  | releaseBytes (p : RequestId) (count : ℤ)
  | close (p : RequestId)
  | handoffPassthrough (p : RequestId)
  | acquireUpstream (p : RequestId) (job : Bool)
  | releaseJob (j : JobId)
  | releaseLease (l : LeaseId)
  /-- `waitUntil` returns nil. -/
  | wake (t : Ticket)
  /-- `waitUntil`, or one of the tests before it, returns an error. -/
  | interrupt (t : Ticket) (i : Interrupt)
  /-- The next critical section of a call that does not wait. -/
  | proceed (t : Ticket)
  deriving DecidableEq

namespace State

def setCall (s : State) (t : Ticket) (c : Call) : State := { s with calls := s.calls.set t c }

/-- A goroutine enters an operation. -/
def addCall (s : State) (c : Call) : State := { s with calls := s.calls ++ [c] }

def setRequest (s : State) (p : RequestId) (r : PendingRequest) : State :=
  { s with requests := s.requests.set p r }

/-- `opMu.Unlock`. -/
def unlock (s : State) (p : RequestId) : State :=
  match s.requests[p]? with
  | some r => s.setRequest p { r with opMu := false }
  | none => s

/-- An operation returns. -/
def returns (s : State) (t : Ticket) (r : Result) : State :=
  { s.setCall t (.returned r) with scheduler := s.scheduler.recordRejection r }

/-- An operation returns at once. -/
def answers (s : State) (r : Result) : State :=
  { s.addCall (.returned r) with scheduler := s.scheduler.recordRejection r }

def setPending (s : State) (q : PendingQuota) : State :=
  { s with scheduler := { s.scheduler with pending := q } }

def setUpstream (s : State) (p : UpstreamPool) : State :=
  { s with scheduler := { s.scheduler with upstream := p } }

def setLimiter (s : State) (k : LimiterStage) (l : FifoLimiter) : State :=
  { s with scheduler := { s.scheduler with limiter := Function.update s.scheduler.limiter k l } }

def addLease (s : State) (p : Permit) : State := { s with leases := s.leases ++ [⟨p, false⟩] }

def addRequest (s : State) (lane : Lane) : State :=
  { s with requests := s.requests ++ [⟨lane, false, false, 0⟩] }

def addJob (s : State) (p : RequestId) (retained : ℤ) : State :=
  { s with jobs := s.jobs ++ [⟨p, retained, false⟩] }

/-- `Lease.Release`: the once and the closure. -/
def releaseLease (s : State) (l : LeaseId) : Option State :=
  match s.leases[l]? with
  | none => none
  | some lease =>
    if lease.released then some s
    else
      let s := { s with leases := s.leases.set l { lease with released := true } }
      match lease.permit with
      | .limiter k => some (s.setLimiter k (s.scheduler.limiter k).release)
      | .upstream lane kind => some (s.setUpstream (s.scheduler.upstream.release lane kind))

/-- `JobLease.Release`: the once and the closure. -/
def releaseJob (s : State) (j : JobId) : Option State :=
  match s.jobs[j]? with
  | none => none
  | some job =>
    if job.released then some s
    else
      some ({ s with jobs := s.jobs.set j { job with released := true } }.setPending
        (s.scheduler.pending.releaseRequest job.retained))

/-- `acquire` of a limiter. -/
def acquireLimiter (s : State) (k : LimiterStage) : Option Interrupt → State
  | some i => s.answers (.error (i.error k.stage))
  | none =>
    match (s.scheduler.limiter k).enter s.calls.length with
    | (l, true) => ((s.setLimiter k l).addLease (.limiter k)).answers (.ok (.lease s.leases.length))
    | (l, false) => (s.setLimiter k l).addCall (.limiterWait k)

/-- `AcquirePendingRequest` up to its first wait. -/
def acquirePendingRequest (s : State) (lane : Lane) : Option Interrupt → State
  | some i => s.answers (.error (i.error .pendingRequest))
  | none =>
    match s.scheduler.pending.acquireRequest s.calls.length with
    | (q, true) => (s.setPending q).addCall (.requestAdmitted lane)
    | (q, false) => (s.setPending q).addCall (.requestWait lane)

/-- `openError`. -/
def openError (r : PendingRequest) : Result :=
  if r.closed then .error .pendingRequestClosed else .ok .nothing

/-- `ReserveBytes` up to the quota; it has to wait for `opMu`. -/
def reserveBytes (s : State) (p : RequestId) (count : ℤ) : Option State :=
  match s.requests[p]? with
  | none => none
  | some r =>
    if count < 0 then some (s.answers (.error .invalidByteCount))
    else if count = 0 then some (s.answers (openError r))
    else if r.opMu then none
    else if r.closed then some (s.answers (.error .pendingRequestClosed))
    else if count > s.scheduler.limits.maxPendingBytes - r.reservedBytes then
      some (s.answers (.error .pendingBytesTooLarge))
    else some ((s.setRequest p { r with opMu := true }).addCall (.reserveStart p count))

/-- `ReleaseBytes` up to the quota; it has to wait for `opMu`. -/
def releaseBytes (s : State) (p : RequestId) (count : ℤ) : Option State :=
  match s.requests[p]? with
  | none => none
  | some r =>
    if count < 0 then some (s.answers (.error .invalidByteCount))
    else if count = 0 then some (s.answers (openError r))
    else if r.opMu then none
    else if r.closed then some (s.answers (.error .pendingRequestClosed))
    else if count > r.reservedBytes then some (s.answers (.error .invalidByteCount))
    else
      some ((s.setRequest p
        { r with opMu := true, reservedBytes := r.reservedBytes - count }).addCall
          (.releaseReturn p count))

/-- `Close` up to the quota. -/
def close (s : State) (p : RequestId) : Option State :=
  match s.requests[p]? with
  | none => none
  | some r =>
    if r.closed then some (s.answers (.ok .nothing))
    else
      some ((s.setRequest p { r with closed := true, reservedBytes := 0 }).addCall
        (.finishing p r.reservedBytes false (.ok .nothing)))

/-- `HandoffPassthrough`; it has to wait for `opMu`. -/
def handoffPassthrough (s : State) (p : RequestId) : Option State :=
  match s.requests[p]? with
  | none => none
  | some r =>
    if r.opMu then none
    else if r.closed then some (s.answers (.error .pendingRequestClosed))
    else
      some (((s.setRequest p { r with closed := true, reservedBytes := 0 }).addJob p
        r.reservedBytes).answers (.ok (.job s.jobs.length)))

/-- `AcquireUpstream` and `AcquireUpstreamJob` up to the pool; they have to wait for `opMu`. -/
def acquireUpstream (s : State) (p : RequestId) (job : Bool) : Option State :=
  match s.requests[p]? with
  | none => none
  | some r =>
    if r.opMu then none
    else if r.closed then some (s.answers (.error .pendingRequestClosed))
    else some ((s.setRequest p { r with opMu := true }).addCall (.upstreamStart p job))

/-- `waitUntil` returns nil: possible once the waiter is granted. -/
def wake (s : State) (t : Ticket) : Call → Option State
  | .limiterWait k =>
    ((s.scheduler.limiter k).collect t).map fun l =>
      ((s.setLimiter k l).addLease (.limiter k)).returns t (.ok (.lease s.leases.length))
  | .requestWait lane =>
    (s.scheduler.pending.collectRequest t).map fun q =>
      (s.setPending q).setCall t (.requestAdmitted lane)
  | .reserveWait p count =>
    (s.scheduler.pending.collectBytes ⟨t, count⟩).map fun q =>
      (s.setPending q).setCall t (.reserveGranted p count)
  | .upstreamWait p job _ =>
    (s.scheduler.upstream.collect t).map fun (u, g) =>
      ((s.setUpstream u).addLease (.upstream g.lane g.permit)).setCall t
        (.upstreamGranted p job s.leases.length)
  | _ => none

/-- A wait is cut short, or the tests before it fail. -/
def interrupt (s : State) (t : Ticket) (i : Interrupt) : Call → Option State
  | .limiterWait k =>
    some ((s.setLimiter k ((s.scheduler.limiter k).withdraw t)).returns t (.error (i.error k.stage)))
  | .requestWait _ =>
    some ((s.setPending (s.scheduler.pending.withdrawRequest t)).returns t
      (.error (i.error .pendingRequest)))
  | .reserveStart p _ => some ((s.unlock p).returns t (.error (i.error .pendingBytes)))
  | .reserveWait p count =>
    some (((s.setPending (s.scheduler.pending.withdrawBytes ⟨t, count⟩)).unlock p).returns t
      (.error (i.error .pendingBytes)))
  | .upstreamStart p _ => some (s.setCall t (.upstreamFailed p (i.error .upstream)))
  | .upstreamWait p _ lane =>
    some ((s.setUpstream (s.scheduler.upstream.withdraw lane t)).setCall t
      (.upstreamFailed p (i.error .upstream)))
  | .leaseReturn p l =>
    -- The context's error is preferred to `ErrPendingRequestClosed`; there is no timer here.
    if i = .timer then none
    else (s.releaseLease l).map fun s => (s.unlock p).returns t (.error (i.error .upstream))
  | _ => none

/-- `finish` up to the quota, inside an operation that holds `opMu` and will return `r`. -/
def finish (s : State) (t : Ticket) (p : RequestId) (r : Result) : Option State :=
  match s.requests[p]? with
  | none => none
  | some request =>
    if request.closed then some ((s.unlock p).returns t r)
    else
      some ((s.setRequest p { request with closed := true, reservedBytes := 0 }).setCall t
        (.finishing p request.reservedBytes true r))

/-- The next critical section of a call. -/
def proceed (s : State) (t : Ticket) : Call → Option State
  | .requestAdmitted lane =>
    some ((s.addRequest lane).returns t (.ok (.request s.requests.length)))
  | .reserveStart p count =>
    if count > s.scheduler.pending.maxBytes then
      some ((s.unlock p).returns t (.error .pendingBytesTooLarge))
    else
      match s.scheduler.pending.reserveBytes ⟨t, count⟩ with
      | (q, true) => some ((s.setPending q).setCall t (.reserveGranted p count))
      | (q, false) => some ((s.setPending q).setCall t (.reserveWait p count))
  | .reserveGranted p count =>
    match s.requests[p]? with
    | none => none
    | some r =>
      if r.closed then some (s.setCall t (.reserveReturn p count))
      else
        some (((s.setRequest p { r with reservedBytes := r.reservedBytes + count }).unlock p).returns
          t (.ok .nothing))
  | .reserveReturn p count =>
    some (((s.setPending (s.scheduler.pending.releaseBytes count)).unlock p).returns t
      (.error .pendingRequestClosed))
  | .releaseReturn p count =>
    some (((s.setPending (s.scheduler.pending.releaseBytes count)).unlock p).returns t
      (.ok .nothing))
  | .finishing p reserved op r =>
    let s := s.setPending (s.scheduler.pending.releaseRequest reserved)
    some ((if op then s.unlock p else s).returns t r)
  | .upstreamStart p job =>
    match s.requests[p]? with
    | none => none
    | some r =>
      some ((s.setUpstream (s.scheduler.upstream.enter r.lane t)).setCall t
        (.upstreamWait p job r.lane))
  | .upstreamFailed p e => s.finish t p (.error e)
  | .upstreamGranted p false l => s.finish t p (.ok (.lease l))
  | .upstreamGranted p true l =>
    match s.requests[p]? with
    | none => none
    | some r =>
      if r.closed then some (s.setCall t (.leaseReturn p l))
      else
        some ((s.setRequest p { r with closed := true, reservedBytes := 0 }).setCall t
          (.handingOff p r.reservedBytes l))
  | .leaseReturn p l =>
    (s.releaseLease l).map fun s => (s.unlock p).returns t (.error .pendingRequestClosed)
  | .handingOff p reserved l =>
    some (((s.setPending (s.scheduler.pending.releaseBytes reserved)).addJob p 0 |>.unlock p).returns
      t (.ok (.leaseAndJob l s.jobs.length)))
  | _ => none

/-- **One atomic step.** -/
def step (s : State) : Action → Option State
  | .acquireLimiter k refused => some (s.acquireLimiter k refused)
  | .acquirePendingRequest lane refused => some (s.acquirePendingRequest lane refused)
  | .reserveBytes p count => s.reserveBytes p count
  | .releaseBytes p count => s.releaseBytes p count
  | .close p => s.close p
  | .handoffPassthrough p => s.handoffPassthrough p
  | .acquireUpstream p job => s.acquireUpstream p job
  | .releaseJob j => s.releaseJob j
  | .releaseLease l => s.releaseLease l
  | .wake t => (s.calls[t]?).bind (s.wake t)
  | .interrupt t i => (s.calls[t]?).bind (s.interrupt t i)
  | .proceed t => (s.calls[t]?).bind (s.proceed t)

end State

/-! ## What the auxiliary steps leave alone

  The setters of the state are transparent; these are the parts of it that their two conditional
  ones, `recordRejection` and `unlock`, and the release of a lease do not touch. -/

section Frame

variable (s : Scheduler) (r : Result)

@[simp] theorem Scheduler.limits_recordRejection : (s.recordRejection r).limits = s.limits := by
  unfold recordRejection; split <;> rfl

@[simp] theorem Scheduler.limiter_recordRejection : (s.recordRejection r).limiter = s.limiter := by
  unfold recordRejection; split <;> rfl

@[simp] theorem Scheduler.pending_recordRejection : (s.recordRejection r).pending = s.pending := by
  unfold recordRejection; split <;> rfl

@[simp] theorem Scheduler.upstream_recordRejection : (s.recordRejection r).upstream = s.upstream := by
  unfold recordRejection; split <;> rfl

end Frame

namespace State

section Frame

variable (s : State) (p : RequestId)

@[simp] theorem scheduler_unlock : (s.unlock p).scheduler = s.scheduler := by
  unfold unlock; split <;> rfl

@[simp] theorem jobs_unlock : (s.unlock p).jobs = s.jobs := by
  unfold unlock; split <;> rfl

@[simp] theorem leases_unlock : (s.unlock p).leases = s.leases := by
  unfold unlock; split <;> rfl

@[simp] theorem calls_unlock : (s.unlock p).calls = s.calls := by
  unfold unlock; split <;> rfl

@[simp] theorem requests_length_unlock : (s.unlock p).requests.length = s.requests.length := by
  unfold unlock; split <;> simp [setRequest]

/-- Unlocking a request changes nothing else of any request. -/
theorem requests_unlock {i : RequestId} {r : PendingRequest}
    (h : (s.unlock p).requests[i]? = some r) :
    ∃ r', s.requests[i]? = some r' ∧ r.lane = r'.lane ∧ r.closed = r'.closed ∧
      r.reservedBytes = r'.reservedBytes := by
  unfold unlock at h
  split at h
  · rename_i r' hr'
    simp only [setRequest, List.getElem?_set] at h
    split at h
    · rename_i hi
      subst hi
      split at h
      · obtain rfl := Option.some.inj h
        exact ⟨r', hr', rfl, rfl, rfl⟩
      · cases h
    · exact ⟨r, h, rfl, rfl, rfl⟩
  · exact ⟨r, h, rfl, rfl, rfl⟩

/-- Releasing a lease touches no request, no job, no call and no quota. -/
theorem releaseLease_frame {s s' : State} {l : LeaseId} (h : s.releaseLease l = some s') :
    s'.requests = s.requests ∧ s'.jobs = s.jobs ∧ s'.calls = s.calls ∧
      s'.scheduler.pending = s.scheduler.pending ∧ s'.scheduler.limits = s.scheduler.limits := by
  unfold releaseLease at h
  split at h
  · cases h
  · split at h
    · cases h
      exact ⟨rfl, rfl, rfl, rfl, rfl⟩
    · split at h <;> (cases h; exact ⟨rfl, rfl, rfl, rfl, rfl⟩)

end Frame

/-- A scheduler that nobody has used yet. -/
def Fresh (s : State) : Prop :=
  ∃ limits, new limits = .ok s.scheduler ∧ s.requests = [] ∧ s.jobs = [] ∧ s.leases = [] ∧
    s.calls = []

/-- What a fresh scheduler is. -/
theorem Fresh.scheduler_eq {s : State} (h : s.Fresh) :
    s.scheduler.limits.validate = .ok () ∧
      s.scheduler = {
        limits := s.scheduler.limits
        limiter := fun k => newFIFOLimiter (s.scheduler.limits.capacity k)
        pending := newPendingQuota s.scheduler.limits.maxPendingRequests
          s.scheduler.limits.maxPendingBytes
        upstream := newUpstreamPool s.scheduler.limits.maxGeneralUpstream
          s.scheduler.limits.interactiveReservedUpstream
        rejections := 0 } := by
  obtain ⟨limits, hnew, -⟩ := h
  unfold new at hnew
  split at hnew
  · cases hnew
  · rename_i hvalid
    obtain hs := Except.ok.inj hnew
    rw [← hs]
    exact ⟨hvalid, rfl⟩

/-- The state before the first call. -/
def init (scheduler : Scheduler) : State := ⟨scheduler, [], [], [], []⟩

theorem fresh_init {limits : Limits} {scheduler : Scheduler} (h : new limits = .ok scheduler) :
    (init scheduler).Fresh :=
  ⟨limits, h, rfl, rfl, rfl, rfl⟩

end State

/-- The runs of the clients of one scheduler. -/
abbrev Runs : List (State × Action) → State → Prop := Run State.Fresh State.step

/-- What becomes of a new scheduler if its clients take the given steps. -/
def replay (limits : Limits) (actions : List Action) : Option (List (State × Action) × State) :=
  match new limits with
  | .ok scheduler => record State.step [] (State.init scheduler) actions
  | .error _ => none

theorem runs_replay {limits : Limits} {actions : List Action} {past : List (State × Action)}
    {s : State} (h : replay limits actions = some (past, s)) : Runs past s := by
  unfold replay at h
  split at h
  · rename_i scheduler hnew
    exact run_record (.start (State.fresh_init hnew)) h
  · cases h

end Scheduling
