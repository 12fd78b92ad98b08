/-
  The capacity boundaries of the scheduler (scheduler.go) — three kinds of counters with queues.

  Every boundary is protected by one mutex, so its critical sections are atomic steps: each of them
  is a function here, under the source's name where the source has one.  An acquiring function has
  up to three of them — it ENTERS (takes a permit at once or joins the queue), and after its wait it
  either COLLECTS the permit that a dispatcher granted it, or WITHDRAWS because its context, its
  request or its timer ended the wait; a withdrawal may come after the grant, and then gives the
  permit back.

  1. `FifoLimiter`: a counter with one queue (classification, transform and delivery).
  2. `PendingQuota`: the request slots and the encoded bytes, a queue for each, one dispatcher for
     both.  A waiter for bytes asks for a number of its own, so the head of that queue may be too
     large while the waiter behind it would fit.
  3. `UpstreamPool`: two pools of permits.  An interactive request takes a reserved permit, or a
     general one that no general request waits for; a general request never takes a reserved one.

  A waiter is known by the `Ticket` of the goroutine that waits.  `waiter.granted` is set by a
  dispatcher and read by that goroutine only; the granted waiters that have not looked yet are kept
  as a list.  Counters are integers, as in the source: the tests against zero are part of the code.
-/
import OpenCodexRelay.Queueing

namespace Scheduling

open Queueing

/-- The goroutine inside an acquiring function, and thereby its waiter. -/
abbrev Ticket := ℕ

/-- The listener that admitted a request. -/
inductive Lane where
  | general
  | interactive
  deriving DecidableEq, Repr

/-- The boundary at which a wait occurred. -/
inductive Stage where
  | classification
  | pendingRequest
  | pendingBytes
  | upstream
  | transform
  | delivery
  deriving DecidableEq, Repr

/-- The errors of the scheduler, and the two of a context. -/
inductive SchedulerError where
  | invalidLimits
  | queueTimeout (stage : Stage)
  | pendingRequestClosed
  | invalidByteCount
  | pendingBytesTooLarge
  | canceled
  | deadlineExceeded
  deriving DecidableEq, Repr

/-- The limits of the boundaries.  The queue timeout is a duration; the rest are counts. -/
structure Limits where
  maxClassifications : ℤ
  maxPendingRequests : ℤ
  maxPendingBytes : ℤ
  queueTimeout : ℤ
  maxGeneralUpstream : ℤ
  interactiveReservedUpstream : ℤ
  maxConcurrentTransforms : ℤ
  maxOpenDeliveries : ℤ
  deriving DecidableEq, Repr

def Limits.validate (l : Limits) : Except SchedulerError Unit :=
  if l.maxClassifications ≤ 0 ∨ l.maxPendingRequests ≤ 0 ∨ l.maxPendingBytes ≤ 0 ∨
      l.queueTimeout ≤ 0 ∨ l.maxGeneralUpstream ≤ 0 ∨ l.interactiveReservedUpstream ≤ 0 ∨
      l.maxConcurrentTransforms ≤ 0 ∨ l.maxOpenDeliveries ≤ 0 then
    .error .invalidLimits
  else .ok ()

/-- What the check of the limits leaves. -/
structure Limits.Positive (l : Limits) : Prop where
  classifications : 0 < l.maxClassifications
  requests : 0 < l.maxPendingRequests
  bytes : 0 < l.maxPendingBytes
  general : 0 < l.maxGeneralUpstream
  reserved : 0 < l.interactiveReservedUpstream
  transforms : 0 < l.maxConcurrentTransforms
  deliveries : 0 < l.maxOpenDeliveries

theorem Limits.validate_ok {l : Limits} (h : l.validate = .ok ()) : l.Positive := by
  unfold validate at h
  split at h
  · cases h
  · rename_i hbad
    constructor <;> omega

/-- `DefaultLimits`; the timeout is in milliseconds. -/
def defaultLimits : Limits where
  maxClassifications := 8
  maxPendingRequests := 24
  maxPendingBytes := 512 * 1024 * 1024
  queueTimeout := 60000
  maxGeneralUpstream := 4
  interactiveReservedUpstream := 1
  maxConcurrentTransforms := 2
  maxOpenDeliveries := 16

/-! ## A counter with one queue -/

structure FifoLimiter where
  capacity : ℤ
  active : ℤ
  waiters : List Ticket
  /-- Waiters whose `granted` is set and that have not looked yet. -/
  granted : List Ticket
  deriving DecidableEq, Repr

def newFIFOLimiter (capacity : ℤ) : FifoLimiter := ⟨capacity, 0, [], []⟩

namespace FifoLimiter

def dispatchLocked (l : FifoLimiter) : FifoLimiter :=
  let served := serveBelow l.capacity l.active l.waiters
  { l with active := served.used, waiters := served.left, granted := l.granted ++ served.granted }

/-- The first section of `acquire`: whether it has its permit at once. -/
def enter (l : FifoLimiter) (t : Ticket) : FifoLimiter × Bool :=
  if l.active < l.capacity ∧ l.waiters = [] then
    ({ l with active := l.active + 1 }, true)
  else ({ l with waiters := l.waiters ++ [t] }, false)

/-- `acquire` after its wait was cut short. -/
def withdraw (l : FifoLimiter) (t : Ticket) : FifoLimiter :=
  if t ∈ l.granted then
    dispatchLocked { l with active := l.active - 1, granted := l.granted.erase t }
  else { l with waiters := l.waiters.erase t }

/-- `acquire` after its waiter's channel was closed. -/
def collect (l : FifoLimiter) (t : Ticket) : Option FifoLimiter :=
  if t ∈ l.granted then some { l with granted := l.granted.erase t } else none

def release (l : FifoLimiter) : FifoLimiter :=
  dispatchLocked { l with active := if 0 < l.active then l.active - 1 else l.active }

end FifoLimiter

/-! ## Request slots and encoded bytes -/

@[ext] structure QuotaWaiter where
  ticket : Ticket
  bytes : ℤ
  deriving DecidableEq, Repr

structure PendingQuota where
  maxRequests : ℤ
  maxBytes : ℤ
  requests : ℤ
  bytes : ℤ
  requestWaiters : List Ticket
  byteWaiters : List QuotaWaiter
  /-- Granted waiters that have not looked yet. -/
  grantedRequests : List Ticket
  grantedBytes : List QuotaWaiter
  deriving DecidableEq, Repr

def newPendingQuota (maxRequests maxBytes : ℤ) : PendingQuota :=
  ⟨maxRequests, maxBytes, 0, 0, [], [], [], []⟩

namespace PendingQuota

/-- The two loops, one after the other. -/
def dispatchLocked (q : PendingQuota) : PendingQuota :=
  let slots := serveBelow q.maxRequests q.requests q.requestWaiters
  let bytes := serve (fun used w => !decide (w.bytes > q.maxBytes - used)) QuotaWaiter.bytes q.bytes
    q.byteWaiters
  { q with
    requests := slots.used
    bytes := bytes.used
    requestWaiters := slots.left
    byteWaiters := bytes.left
    grantedRequests := q.grantedRequests ++ slots.granted
    grantedBytes := q.grantedBytes ++ bytes.granted }

/-- The first section of `acquireRequest`: whether it has its slot at once. -/
def acquireRequest (q : PendingQuota) (t : Ticket) : PendingQuota × Bool :=
  if q.requests < q.maxRequests ∧ q.requestWaiters = [] then
    ({ q with requests := q.requests + 1 }, true)
  else ({ q with requestWaiters := q.requestWaiters ++ [t] }, false)

/-- `acquireRequest` after its wait was cut short. -/
def withdrawRequest (q : PendingQuota) (t : Ticket) : PendingQuota :=
  if t ∈ q.grantedRequests then
    dispatchLocked
      { q with requests := q.requests - 1, grantedRequests := q.grantedRequests.erase t }
  else { q with requestWaiters := q.requestWaiters.erase t }

/-- `acquireRequest` after its waiter's channel was closed. -/
def collectRequest (q : PendingQuota) (t : Ticket) : Option PendingQuota :=
  if t ∈ q.grantedRequests then
    some { q with grantedRequests := q.grantedRequests.erase t }
  else none

/-- The first section of `reserveBytes`: whether it has its bytes at once. -/
def reserveBytes (q : PendingQuota) (w : QuotaWaiter) : PendingQuota × Bool :=
  if w.bytes ≤ q.maxBytes - q.bytes ∧ q.byteWaiters = [] then
    ({ q with bytes := q.bytes + w.bytes }, true)
  else ({ q with byteWaiters := q.byteWaiters ++ [w] }, false)

/-- `reserveBytes` after its wait was cut short: a waiter that still queues is removed, and NOBODY
    is dispatched. -/
def withdrawBytes (q : PendingQuota) (w : QuotaWaiter) : PendingQuota :=
  if w ∈ q.grantedBytes then
    dispatchLocked
      { q with bytes := q.bytes - w.bytes, grantedBytes := q.grantedBytes.erase w }
  else { q with byteWaiters := q.byteWaiters.erase w }

/-- `reserveBytes` after its waiter's channel was closed. -/
def collectBytes (q : PendingQuota) (w : QuotaWaiter) : Option PendingQuota :=
  if w ∈ q.grantedBytes then some { q with grantedBytes := q.grantedBytes.erase w } else none

def releaseBytes (q : PendingQuota) (count : ℤ) : PendingQuota :=
  let bytes := q.bytes - count
  dispatchLocked { q with bytes := if bytes < 0 then 0 else bytes }

def releaseRequest (q : PendingQuota) (reservedBytes : ℤ) : PendingQuota :=
  let bytes := q.bytes - reservedBytes
  dispatchLocked
    { q with
      requests := if 0 < q.requests then q.requests - 1 else q.requests
      bytes := if bytes < 0 then 0 else bytes }

end PendingQuota

/-! ## Upstream permits -/

inductive PermitKind where
  | general
  | reserved
  deriving DecidableEq, Repr

/-- A granted `upstreamWaiter`. -/
structure Grant where
  ticket : Ticket
  lane : Lane
  permit : PermitKind
  deriving DecidableEq, Repr

structure UpstreamPool where
  maxGeneral : ℤ
  maxReserved : ℤ
  usedGeneral : ℤ
  usedReserve : ℤ
  activeGeneralLane : ℤ
  activeInteractiveLane : ℤ
  borrowedInteractive : ℤ
  generalWaiters : List Ticket
  interactiveWaiters : List Ticket
  /-- Granted waiters that have not looked yet. -/
  granted : List Grant
  deriving DecidableEq, Repr

def newUpstreamPool (maxGeneral maxReserved : ℤ) : UpstreamPool :=
  ⟨maxGeneral, maxReserved, 0, 0, 0, 0, 0, [], [], []⟩

namespace UpstreamPool

/-- `dispatchLocked` with what `grantLocked` does to the counters.  The second loop of the source
    turns to the interactive queue only when the general one is empty: a general queue that is not
    served to its end has used up the general permits, and then the third line serves nobody. -/
def dispatchLocked (p : UpstreamPool) : UpstreamPool :=
  let reserved := serveBelow p.maxReserved p.usedReserve p.interactiveWaiters
  let general := serveBelow p.maxGeneral p.usedGeneral p.generalWaiters
  let borrowed := serveBelow p.maxGeneral general.used reserved.left
  { p with
    usedReserve := reserved.used
    usedGeneral := borrowed.used
    activeGeneralLane := p.activeGeneralLane + general.granted.length
    activeInteractiveLane :=
      p.activeInteractiveLane + reserved.granted.length + borrowed.granted.length
    borrowedInteractive := p.borrowedInteractive + borrowed.granted.length
    generalWaiters := general.left
    interactiveWaiters := borrowed.left
    granted := p.granted ++ (reserved.granted.map (⟨·, .interactive, .reserved⟩) ++
      (general.granted.map (⟨·, .general, .general⟩) ++
        borrowed.granted.map (⟨·, .interactive, .general⟩))) }

def releaseGrantLocked (p : UpstreamPool) (lane : Lane) (permit : PermitKind) :
    UpstreamPool :=
  let p := match permit with
    | .reserved =>
      { p with usedReserve := if 0 < p.usedReserve then p.usedReserve - 1 else p.usedReserve }
    | .general =>
      { p with
        usedGeneral := if 0 < p.usedGeneral then p.usedGeneral - 1 else p.usedGeneral
        borrowedInteractive :=
          if lane = Lane.interactive ∧ 0 < p.borrowedInteractive then p.borrowedInteractive - 1
          else p.borrowedInteractive }
  match lane with
  | .general =>
    { p with
      activeGeneralLane :=
        if 0 < p.activeGeneralLane then p.activeGeneralLane - 1 else p.activeGeneralLane }
  | .interactive =>
    { p with
      activeInteractiveLane :=
        if 0 < p.activeInteractiveLane then p.activeInteractiveLane - 1
        else p.activeInteractiveLane }

def release (p : UpstreamPool) (lane : Lane) (permit : PermitKind) : UpstreamPool :=
  (p.releaseGrantLocked lane permit).dispatchLocked

/-- The first section of `acquire`: it always joins its queue, and dispatches. -/
def enter (p : UpstreamPool) (lane : Lane) (t : Ticket) : UpstreamPool :=
  match lane with
  | .general =>
    dispatchLocked { p with generalWaiters := p.generalWaiters ++ [t] }
  | .interactive =>
    dispatchLocked { p with interactiveWaiters := p.interactiveWaiters ++ [t] }

/-- The grant of a waiter, if it has one. -/
def grantOf (p : UpstreamPool) (t : Ticket) : Option Grant :=
  p.granted.find? fun g => g.ticket == t

/-- `acquire` after its wait was cut short. -/
def withdraw (p : UpstreamPool) (lane : Lane) (t : Ticket) : UpstreamPool :=
  match p.grantOf t with
  | some g =>
    release { p with granted := p.granted.erase g } g.lane g.permit
  | none =>
    match lane with
    | .general =>
      dispatchLocked { p with generalWaiters := p.generalWaiters.erase t }
    | .interactive =>
      dispatchLocked { p with interactiveWaiters := p.interactiveWaiters.erase t }

/-- `acquire` after its waiter's channel was closed. -/
def collect (p : UpstreamPool) (t : Ticket) : Option (UpstreamPool × Grant) :=
  (p.grantOf t).map fun g => ({ p with granted := p.granted.erase g }, g)

end UpstreamPool

end Scheduling







