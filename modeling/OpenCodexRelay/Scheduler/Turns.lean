/-
  What one step can do to the boundaries — said once.

  A step of a client runs AT MOST ONE critical section of one boundary.  `Section` lists them all: it
  relates the boundaries (and the table of leases, whose closures give permits back) before and
  after.  Its label says whose waiter joined a queue or left it, because that is the one thing that
  the queues and the calls of the clients have to agree on.

  1. `Place`, `Label`, `State.label`: what a step does to the waiters.
  2. `Turn`: the outcomes of all operations side by side, with their labels, and `step_turn`: there
     are no others.
  3. `Boundaries`, `Section`, `step_section`: every step runs the section its label announces.
  4. `Waits`, `step_follows`: the calls that wait change as the label announces.

  The invariants of the boundaries are case distinctions over `Section`, those of the clients over
  `Turn`; none of them looks at the text of the operations again.
-/
import OpenCodexRelay.Scheduler.Calls
import OpenCodexRelay.Scheduler.Sections

namespace Scheduling

open Queueing

/-! ## The labels -/

/-- The queues of the scheduler; a waiter for bytes is known by their number as well, one for an
    upstream permit by its lane. -/
inductive Place where
  | limiter (k : LimiterStage)
  | slots
  | bytes (count : ℤ)
  | upstream (lane : Lane)
  deriving DecidableEq

/-- What a step does to the waiters; `collects` tells a waiter that was granted and looked from one
    that withdrew. -/
inductive Label where
  | neither
  | takes (t : Ticket) (x : Place)
  | joins (t : Ticket) (x : Place)
  | leaves (t : Ticket) (x : Place) (collects : Bool)
  deriving DecidableEq

/-- Where a call waits. -/
def Call.place : Call → Option Place
  | .limiterWait k => some (.limiter k)
  | .requestWait _ => some .slots
  | .reserveWait _ count => some (.bytes count)
  | .upstreamWait _ _ lane => some (.upstream lane)
  | _ => none

namespace State

/-- A call leaves its queue, if it is in one. -/
def leaving (s : State) (t : Ticket) (collects : Bool) : Label :=
  match (s.calls[t]?).bind Call.place with
  | some x => .leaves t x collects
  | none => .neither

/-- **What a step does to the waiters.** -/
def label (s : State) : Action → Label
  | .acquireLimiter k none =>
    if ((s.scheduler.limiter k).enter s.calls.length).2 then .takes s.calls.length (.limiter k)
    else .joins s.calls.length (.limiter k)
  | .acquirePendingRequest _ none =>
    if (s.scheduler.pending.acquireRequest s.calls.length).2 then .takes s.calls.length .slots
    else .joins s.calls.length .slots
  | .wake t => s.leaving t true
  | .interrupt t _ => s.leaving t false
  | .proceed t =>
    match s.calls[t]? with
    | some (.reserveStart _ count) =>
      if count > s.scheduler.pending.maxBytes then .neither
      else if (s.scheduler.pending.reserveBytes ⟨t, count⟩).2 then .takes t (.bytes count)
      else .joins t (.bytes count)
    | some (.upstreamStart p _) =>
      match s.requests[p]? with
      | some r => .joins t (.upstream r.lane)
      | none => .neither
    | _ => .neither
  | _ => .neither

theorem leaving_eq {s : State} {t : Ticket} {c : Call} (hc : s.calls[t]? = some c) (collects : Bool) :
    s.leaving t collects =
      match c.place with
      | some x => .leaves t x collects
      | none => .neither := by
  rw [leaving, hc, Option.bind_some]

end State

/-! ## The outcomes of a step -/

/-- An operation starts that may answer at once. -/
def Action.Opens : Action → Prop
  | .acquireLimiter _ refused => refused.isSome = true
  | .acquirePendingRequest _ refused => refused.isSome = true
  | .reserveBytes _ _ | .releaseBytes _ _ | .close _ | .handoffPassthrough _ | .acquireUpstream _ _ => True
  | _ => False

/-- An operation is about to `finish` a request and to return. -/
inductive Call.Finishes (p : RequestId) : Call → Result → Prop where
  | granted {l} : Finishes p (.upstreamGranted p false l) (.ok (.lease l))
  | failed {e} : Finishes p (.upstreamFailed p e) (.error e)

/-- **What a step can do.** -/
inductive State.Turn (s : State) : Action → Label → State → Prop where
  -- operations that start
  | answers {a r} (ha : a.Opens) : Turn s a .neither (s.answers r)
  | enterAtOnce {k l} (h : (s.scheduler.limiter k).enter s.calls.length = (l, true)) :
    Turn s (.acquireLimiter k none) (.takes s.calls.length (.limiter k))
      (((s.setLimiter k l).addLease (.limiter k)).answers (.ok (.lease s.leases.length)))
  | enterQueue {k l} (h : (s.scheduler.limiter k).enter s.calls.length = (l, false)) :
    Turn s (.acquireLimiter k none) (.joins s.calls.length (.limiter k))
      ((s.setLimiter k l).addCall (.limiterWait k))
  | acquireAtOnce {lane q} (h : s.scheduler.pending.acquireRequest s.calls.length = (q, true)) :
    Turn s (.acquirePendingRequest lane none) (.takes s.calls.length .slots)
      ((s.setPending q).addCall (.requestAdmitted lane))
  | acquireQueue {lane q} (h : s.scheduler.pending.acquireRequest s.calls.length = (q, false)) :
    Turn s (.acquirePendingRequest lane none) (.joins s.calls.length .slots)
      ((s.setPending q).addCall (.requestWait lane))
  | reserveBytes {p count r} (hr : s.requests[p]? = some r) (hcount : 0 < count) :
    Turn s (.reserveBytes p count) .neither
      ((s.setRequest p { r with opMu := true }).addCall (.reserveStart p count))
  | releaseBytes {p count r} (hr : s.requests[p]? = some r) (hopen : r.closed = false)
      (hcount : 0 < count) (hle : count ≤ r.reservedBytes) :
    Turn s (.releaseBytes p count) .neither
      ((s.setRequest p { r with opMu := true, reservedBytes := r.reservedBytes - count }).addCall
        (.releaseReturn p count))
  | close {p r} (hr : s.requests[p]? = some r) (hopen : r.closed = false) :
    Turn s (.close p) .neither ((s.setRequest p { r with closed := true, reservedBytes := 0 }).addCall
      (.finishing p r.reservedBytes false (.ok .nothing)))
  | handoffPassthrough {p r} (hr : s.requests[p]? = some r) (hopen : r.closed = false) :
    Turn s (.handoffPassthrough p) .neither
      (((s.setRequest p { r with closed := true, reservedBytes := 0 }).addJob p
        r.reservedBytes).answers (.ok (.job s.jobs.length)))
  | acquireUpstream {p job r} (hr : s.requests[p]? = some r) :
    Turn s (.acquireUpstream p job) .neither
      ((s.setRequest p { r with opMu := true }).addCall (.upstreamStart p job))
  | jobReleased {j job} (hj : s.jobs[j]? = some job) (hreleased : job.released = true) :
    Turn s (.releaseJob j) .neither s
  | releaseJob {j job} (hj : s.jobs[j]? = some job) (hreleased : job.released = false) :
    Turn s (.releaseJob j) .neither
      ({ s with jobs := s.jobs.set j { job with released := true } }.setPending
        (s.scheduler.pending.releaseRequest job.retained))
  | releaseLease {l s'} (h : s.releaseLease l = some s') : Turn s (.releaseLease l) .neither s'
  -- waits that end
  | collect {t k l} (hc : s.calls[t]? = some (.limiterWait k))
      (h : (s.scheduler.limiter k).collect t = some l) :
    Turn s (.wake t) (.leaves t (.limiter k) true)
      (((s.setLimiter k l).addLease (.limiter k)).returns t (.ok (.lease s.leases.length)))
  | collectRequest {t lane q} (hc : s.calls[t]? = some (.requestWait lane))
      (h : s.scheduler.pending.collectRequest t = some q) :
    Turn s (.wake t) (.leaves t .slots true) ((s.setPending q).setCall t (.requestAdmitted lane))
  | collectBytes {t p count q} (hc : s.calls[t]? = some (.reserveWait p count))
      (h : s.scheduler.pending.collectBytes ⟨t, count⟩ = some q) :
    Turn s (.wake t) (.leaves t (.bytes count) true)
      ((s.setPending q).setCall t (.reserveGranted p count))
  | collectUpstream {t p job lane u g} (hc : s.calls[t]? = some (.upstreamWait p job lane))
      (h : s.scheduler.upstream.collect t = some (u, g)) :
    Turn s (.wake t) (.leaves t (.upstream lane) true)
      (((s.setUpstream u).addLease (.upstream g.lane g.permit)).setCall t
        (.upstreamGranted p job s.leases.length))
  -- waits that are cut short
  | withdraw {t k i} (hc : s.calls[t]? = some (.limiterWait k)) :
    Turn s (.interrupt t i) (.leaves t (.limiter k) false)
      ((s.setLimiter k ((s.scheduler.limiter k).withdraw t)).returns t
        (.error (i.error k.stage)))
  | withdrawRequest {t lane i} (hc : s.calls[t]? = some (.requestWait lane)) :
    Turn s (.interrupt t i) (.leaves t .slots false)
      ((s.setPending (s.scheduler.pending.withdrawRequest t)).returns t
        (.error (i.error .pendingRequest)))
  | reserveRefused {t p count i} (hc : s.calls[t]? = some (.reserveStart p count)) :
    Turn s (.interrupt t i) .neither ((s.unlock p).returns t (.error (i.error .pendingBytes)))
  | withdrawBytes {t p count i} (hc : s.calls[t]? = some (.reserveWait p count)) :
    Turn s (.interrupt t i) (.leaves t (.bytes count) false)
      (((s.setPending (s.scheduler.pending.withdrawBytes ⟨t, count⟩)).unlock p).returns t
        (.error (i.error .pendingBytes)))
  | upstreamRefused {t p job i} (hc : s.calls[t]? = some (.upstreamStart p job)) :
    Turn s (.interrupt t i) .neither (s.setCall t (.upstreamFailed p (i.error .upstream)))
  | withdrawUpstream {t p job lane i} (hc : s.calls[t]? = some (.upstreamWait p job lane)) :
    Turn s (.interrupt t i) (.leaves t (.upstream lane) false)
      ((s.setUpstream (s.scheduler.upstream.withdraw lane t)).setCall t
        (.upstreamFailed p (i.error .upstream)))
  | returnInterrupted {t p l i s₁} (hc : s.calls[t]? = some (.leaseReturn p l))
      (h : s.releaseLease l = some s₁) :
    Turn s (.interrupt t i) .neither ((s₁.unlock p).returns t (.error (i.error .upstream)))
  -- the next section of a call
  | admitted {t lane} (hc : s.calls[t]? = some (.requestAdmitted lane)) :
    Turn s (.proceed t) .neither ((s.addRequest lane).returns t (.ok (.request s.requests.length)))
  | reserveTooLarge {t p count} (hc : s.calls[t]? = some (.reserveStart p count))
      (hbig : s.scheduler.pending.maxBytes < count) :
    Turn s (.proceed t) .neither ((s.unlock p).returns t (.error .pendingBytesTooLarge))
  | reserveAtOnce {t p count q} (hc : s.calls[t]? = some (.reserveStart p count))
      (hsmall : count ≤ s.scheduler.pending.maxBytes)
      (h : s.scheduler.pending.reserveBytes ⟨t, count⟩ = (q, true)) :
    Turn s (.proceed t) (.takes t (.bytes count)) ((s.setPending q).setCall t (.reserveGranted p count))
  | reserveQueue {t p count q} (hc : s.calls[t]? = some (.reserveStart p count))
      (hsmall : count ≤ s.scheduler.pending.maxBytes)
      (h : s.scheduler.pending.reserveBytes ⟨t, count⟩ = (q, false)) :
    Turn s (.proceed t) (.joins t (.bytes count)) ((s.setPending q).setCall t (.reserveWait p count))
  | grantedClosed {t p count} (hc : s.calls[t]? = some (.reserveGranted p count)) :
    Turn s (.proceed t) .neither (s.setCall t (.reserveReturn p count))
  | granted {t p count r} (hc : s.calls[t]? = some (.reserveGranted p count))
      (hr : s.requests[p]? = some r) (hopen : r.closed = false) :
    Turn s (.proceed t) .neither
      (((s.setRequest p { r with reservedBytes := r.reservedBytes + count }).unlock p).returns t
        (.ok .nothing))
  | reserveReturn {t p count} (hc : s.calls[t]? = some (.reserveReturn p count)) :
    Turn s (.proceed t) .neither
      (((s.setPending (s.scheduler.pending.releaseBytes count)).unlock p).returns t
        (.error .pendingRequestClosed))
  | releaseReturn {t p count} (hc : s.calls[t]? = some (.releaseReturn p count)) :
    Turn s (.proceed t) .neither
      (((s.setPending (s.scheduler.pending.releaseBytes count)).unlock p).returns t
        (.ok .nothing))
  | finishedOp {t p reserved r} (hc : s.calls[t]? = some (.finishing p reserved true r)) :
    Turn s (.proceed t) .neither
      (((s.setPending (s.scheduler.pending.releaseRequest reserved)).unlock p).returns t r)
  | finished {t p reserved r} (hc : s.calls[t]? = some (.finishing p reserved false r)) :
    Turn s (.proceed t) .neither
      ((s.setPending (s.scheduler.pending.releaseRequest reserved)).returns t r)
  | enterUpstream {t p job r} (hc : s.calls[t]? = some (.upstreamStart p job))
      (hr : s.requests[p]? = some r) :
    Turn s (.proceed t) (.joins t (.upstream r.lane))
      ((s.setUpstream (s.scheduler.upstream.enter r.lane t)).setCall t
        (.upstreamWait p job r.lane))
  | finishClosed {t p c res} (hc : s.calls[t]? = some c) (hfinish : c.Finishes p res) :
    Turn s (.proceed t) .neither ((s.unlock p).returns t res)
  | finish {t p c res r} (hc : s.calls[t]? = some c) (hfinish : c.Finishes p res)
      (hr : s.requests[p]? = some r) (hopen : r.closed = false) :
    Turn s (.proceed t) .neither
      ((s.setRequest p { r with closed := true, reservedBytes := 0 }).setCall t
        (.finishing p r.reservedBytes true res))
  | handoffClosed {t p l} (hc : s.calls[t]? = some (.upstreamGranted p true l)) :
    Turn s (.proceed t) .neither (s.setCall t (.leaseReturn p l))
  | handoff {t p l r} (hc : s.calls[t]? = some (.upstreamGranted p true l))
      (hr : s.requests[p]? = some r) (hopen : r.closed = false) :
    Turn s (.proceed t) .neither
      ((s.setRequest p { r with closed := true, reservedBytes := 0 }).setCall t
        (.handingOff p r.reservedBytes l))
  | leaseReturned {t p l s₁} (hc : s.calls[t]? = some (.leaseReturn p l))
      (h : s.releaseLease l = some s₁) :
    Turn s (.proceed t) .neither ((s₁.unlock p).returns t (.error .pendingRequestClosed))
  | handedOff {t p reserved l} (hc : s.calls[t]? = some (.handingOff p reserved l)) :
    Turn s (.proceed t) .neither
      (((s.setPending (s.scheduler.pending.releaseBytes reserved)).addJob p 0 |>.unlock p).returns t
        (.ok (.leaseAndJob l s.jobs.length)))

namespace State

variable {s s' : State} {t : Ticket} {c : Call}

theorem wake_turn (hc : s.calls[t]? = some c) (h : s.wake t c = some s') :
    s.Turn (.wake t) (s.leaving t true) s' := by
  rw [leaving_eq hc]
  cases c with
  | limiterWait k =>
    obtain ⟨l, hl, rfl⟩ := Option.map_eq_some_iff.mp h
    exact .collect hc hl
  | requestWait lane =>
    obtain ⟨q, hq, rfl⟩ := Option.map_eq_some_iff.mp h
    exact .collectRequest hc hq
  | reserveWait p count =>
    obtain ⟨q, hq, rfl⟩ := Option.map_eq_some_iff.mp h
    exact .collectBytes hc hq
  | upstreamWait p job lane =>
    obtain ⟨⟨u, g⟩, hu, rfl⟩ := Option.map_eq_some_iff.mp h
    exact .collectUpstream hc hu
  | _ => cases h

theorem interrupt_turn {i : Interrupt} (hc : s.calls[t]? = some c) (h : s.interrupt t i c = some s') :
    s.Turn (.interrupt t i) (s.leaving t false) s' := by
  rw [leaving_eq hc]
  cases c with
  | limiterWait k => cases h; exact .withdraw hc
  | requestWait lane => cases h; exact .withdrawRequest hc
  | reserveStart p count => cases h; exact .reserveRefused hc
  | reserveWait p count => cases h; exact .withdrawBytes hc
  | upstreamStart p job => cases h; exact .upstreamRefused hc
  | upstreamWait p job lane => cases h; exact .withdrawUpstream hc
  | leaseReturn p l =>
    simp only [interrupt] at h
    split at h
    · cases h
    · obtain ⟨s1, hs1, rfl⟩ := Option.map_eq_some_iff.mp h
      exact .returnInterrupted hc hs1
  | _ => cases h

theorem finish_turn {p : RequestId} {res : Result} (hc : s.calls[t]? = some c)
    (hfinish : c.Finishes p res) (h : s.finish t p res = some s') : s.Turn (.proceed t) .neither s' := by
  unfold finish at h
  split at h
  · cases h
  · rename_i r hr
    split_ifs at h with hclosed <;> cases h
    · exact .finishClosed hc hfinish
    · exact .finish hc hfinish hr (Bool.of_not_eq_true hclosed)

theorem proceed_turn (hc : s.calls[t]? = some c) (h : s.proceed t c = some s') :
    s.Turn (.proceed t) (s.label (.proceed t)) s' := by
  simp only [label, hc]
  cases c with
  | requestAdmitted lane => cases h; exact .admitted hc
  | reserveStart p count =>
    simp only [proceed] at h
    split at h
    · rename_i hbig
      cases h
      simp only [if_pos hbig]
      exact .reserveTooLarge hc hbig
    · rename_i hsmall
      simp only [if_neg hsmall]
      split at h <;> rename_i q heq <;> cases h <;> simp only [heq]
      · exact .reserveAtOnce hc (Int.not_lt.mp hsmall) heq
      · exact .reserveQueue hc (Int.not_lt.mp hsmall) heq
  | reserveGranted p count =>
    simp only [proceed] at h
    split at h
    · cases h
    · rename_i r hr
      split_ifs at h with hclosed <;> cases h
      · exact .grantedClosed hc
      · exact .granted hc hr (Bool.of_not_eq_true hclosed)
  | reserveReturn p count => cases h; exact .reserveReturn hc
  | releaseReturn p count => cases h; exact .releaseReturn hc
  | finishing p reserved op r =>
    cases h
    cases op with
    | true => exact .finishedOp hc
    | false => exact .finished hc
  | upstreamStart p job =>
    simp only [proceed] at h
    split at h <;> cases h
    rename_i r hr
    simp only [hr]
    exact .enterUpstream hc hr
  | upstreamGranted p job l =>
    cases job with
    | false => exact finish_turn hc .granted h
    | true =>
      simp only [proceed] at h
      split at h
      · cases h
      · rename_i r hr
        split_ifs at h with hclosed <;> cases h
        · exact .handoffClosed hc
        · exact .handoff hc hr (Bool.of_not_eq_true hclosed)
  | upstreamFailed p e => exact finish_turn hc .failed h
  | leaseReturn p l =>
    obtain ⟨s1, hs1, rfl⟩ := Option.map_eq_some_iff.mp h
    exact .leaseReturned hc hs1
  | handingOff p reserved l => cases h; exact .handedOff hc
  | _ => cases h

/-- **There are no other outcomes.** -/
theorem step_turn {a : Action} (h : s.step a = some s') : s.Turn a (s.label a) s' := by
  cases a with
  | acquireLimiter k refused =>
    cases h
    cases refused with
    | some i => exact .answers rfl
    | none =>
      rcases heq : (s.scheduler.limiter k).enter s.calls.length with ⟨l, _ | _⟩ <;>
        simp only [acquireLimiter, label, heq]
      · exact .enterQueue heq
      · exact .enterAtOnce heq
  | acquirePendingRequest lane refused =>
    cases h
    cases refused with
    | some i => exact .answers rfl
    | none =>
      rcases heq : s.scheduler.pending.acquireRequest s.calls.length with ⟨q, _ | _⟩ <;>
        simp only [acquirePendingRequest, label, heq]
      · exact .acquireQueue heq
      · exact .acquireAtOnce heq
  | reserveBytes p count =>
    simp only [step, reserveBytes] at h
    split at h
    · cases h
    · rename_i r hr
      split_ifs at h <;> cases h <;> try exact .answers trivial
      exact .reserveBytes hr (by omega)
  | releaseBytes p count =>
    simp only [step, releaseBytes] at h
    split at h
    · cases h
    · rename_i r hr
      split_ifs at h with h1 h2 h3 hclosed hle <;> cases h <;> try exact .answers trivial
      exact .releaseBytes hr (Bool.of_not_eq_true hclosed) (by omega) (by omega)
  | close p =>
    simp only [step, close] at h
    split at h
    · cases h
    · rename_i r hr
      split_ifs at h with hclosed <;> cases h
      · exact .answers trivial
      · exact .close hr (Bool.of_not_eq_true hclosed)
  | handoffPassthrough p =>
    simp only [step, handoffPassthrough] at h
    split at h
    · cases h
    · rename_i r hr
      split_ifs at h with hop hclosed <;> cases h
      · exact .answers trivial
      · exact .handoffPassthrough hr (Bool.of_not_eq_true hclosed)
  | acquireUpstream p job =>
    simp only [step, acquireUpstream] at h
    split at h
    · cases h
    · rename_i r hr
      split_ifs at h <;> cases h
      · exact .answers trivial
      · exact .acquireUpstream hr
  | releaseJob j =>
    simp only [step, releaseJob] at h
    split at h
    · cases h
    · rename_i job hj
      split_ifs at h with hreleased <;> cases h
      · exact .jobReleased hj hreleased
      · exact .releaseJob hj (Bool.of_not_eq_true hreleased)
  | releaseLease l => exact .releaseLease h
  | wake t =>
    obtain ⟨c, hc, h⟩ := Option.bind_eq_some_iff.mp h
    exact wake_turn hc h
  | interrupt t i =>
    obtain ⟨c, hc, h⟩ := Option.bind_eq_some_iff.mp h
    exact interrupt_turn hc h
  | proceed t =>
    obtain ⟨c, hc, h⟩ := Option.bind_eq_some_iff.mp h
    exact proceed_turn hc h

end State

/-! ## The boundaries -/

/-- What is shared by everybody. -/
structure Boundaries where
  limits : Limits
  limiter : LimiterStage → FifoLimiter
  pending : PendingQuota
  upstream : UpstreamPool
  leases : List Lease

def State.boundaries (s : State) : Boundaries where
  limits := s.scheduler.limits
  limiter := s.scheduler.limiter
  pending := s.scheduler.pending
  upstream := s.scheduler.upstream
  leases := s.leases

/-- **The critical sections.** -/
inductive Section : Label → Boundaries → Boundaries → Prop where
  | idle {b} : Section .neither b b
  | enterAtOnce {b k t l} (h : (b.limiter k).enter t = (l, true)) :
    Section (.takes t (.limiter k)) b
      { b with
        limiter := Function.update b.limiter k l
        leases := b.leases ++ [⟨.limiter k, false⟩] }
  | enterQueue {b k t l} (h : (b.limiter k).enter t = (l, false)) :
    Section (.joins t (.limiter k)) b { b with limiter := Function.update b.limiter k l }
  | collect {b k t l} (h : (b.limiter k).collect t = some l) :
    Section (.leaves t (.limiter k) true) b
      { b with
        limiter := Function.update b.limiter k l
        leases := b.leases ++ [⟨.limiter k, false⟩] }
  | withdraw {b k t} :
    Section (.leaves t (.limiter k) false) b
      { b with limiter := Function.update b.limiter k ((b.limiter k).withdraw t) }
  | release {b k i} (h : b.leases[i]? = some ⟨.limiter k, false⟩) :
    Section .neither b
      { b with
        limiter := Function.update b.limiter k (b.limiter k).release
        leases := b.leases.set i ⟨.limiter k, true⟩ }
  | upstreamEnter {b t lane} :
    Section (.joins t (.upstream lane)) b { b with upstream := b.upstream.enter lane t }
  | upstreamCollect {b t lane u g} (h : b.upstream.collect t = some (u, g)) :
    Section (.leaves t (.upstream lane) true) b
      { b with upstream := u, leases := b.leases ++ [⟨.upstream g.lane g.permit, false⟩] }
  | upstreamWithdraw {b t lane} :
    Section (.leaves t (.upstream lane) false) b
      { b with upstream := b.upstream.withdraw lane t }
  | upstreamRelease {b i lane kind} (h : b.leases[i]? = some ⟨.upstream lane kind, false⟩) :
    Section .neither b
      { b with
        upstream := b.upstream.release lane kind
        leases := b.leases.set i ⟨.upstream lane kind, true⟩ }
  | acquireAtOnce {b t q} (h : b.pending.acquireRequest t = (q, true)) :
    Section (.takes t .slots) b { b with pending := q }
  | acquireQueue {b t q} (h : b.pending.acquireRequest t = (q, false)) :
    Section (.joins t .slots) b { b with pending := q }
  | collectRequest {b t q} (h : b.pending.collectRequest t = some q) :
    Section (.leaves t .slots true) b { b with pending := q }
  | withdrawRequest {b t} :
    Section (.leaves t .slots false) b { b with pending := b.pending.withdrawRequest t }
  | reserveAtOnce {b w q} (h : b.pending.reserveBytes w = (q, true)) :
    Section (.takes w.ticket (.bytes w.bytes)) b { b with pending := q }
  | reserveQueue {b w q} (h : b.pending.reserveBytes w = (q, false)) :
    Section (.joins w.ticket (.bytes w.bytes)) b { b with pending := q }
  | collectBytes {b w q} (h : b.pending.collectBytes w = some q) :
    Section (.leaves w.ticket (.bytes w.bytes) true) b { b with pending := q }
  | withdrawBytes {b w} :
    Section (.leaves w.ticket (.bytes w.bytes) false) b
      { b with pending := b.pending.withdrawBytes w }
  | releaseBytes {b count} : Section .neither b { b with pending := b.pending.releaseBytes count }
  | releaseRequest {b reserved} :
    Section .neither b { b with pending := b.pending.releaseRequest reserved }

/-- No section changes the limits. -/
theorem section_limits {label : Label} {b b' : Boundaries} (h : Section label b b') :
    b'.limits = b.limits := by
  cases h <;> rfl

namespace State

variable {a : Action} {x : Place}

variable {s s' : State} {label : Label} {t : Ticket} {c : Call}

/-! ## Every step runs the section its label announces -/

@[simp] theorem boundaries_unlock (s : State) (p : RequestId) :
    (s.unlock p).boundaries = s.boundaries := by
  simp [boundaries]

@[simp] theorem boundaries_returns (s : State) (t : Ticket) (r : Result) :
    (s.returns t r).boundaries = s.boundaries := by
  simp [boundaries, returns, setCall]

@[simp] theorem boundaries_answers (s : State) (r : Result) :
    (s.answers r).boundaries = s.boundaries := by
  simp [boundaries, answers, addCall]

theorem section_releaseLease {l : LeaseId} (h : s.releaseLease l = some s') :
    Section .neither s.boundaries s'.boundaries := by
  unfold releaseLease at h
  split at h
  · cases h
  · rename_i lease hlease
    obtain ⟨permit, released⟩ := lease
    split at h
    · cases h
      exact .idle
    · rename_i hreleased
      obtain rfl : released = false := by simpa using hreleased
      cases permit with
      | limiter k =>
        cases h
        exact .release hlease
      | upstream lane kind =>
        cases h
        exact .upstreamRelease hlease

theorem Turn.runs (h : s.Turn a label s') : Section label s.boundaries s'.boundaries := by
  cases h with
  | answers | handoffPassthrough =>
    rw [boundaries_answers]
    exact .idle
  | enterAtOnce h =>
    rw [boundaries_answers]
    exact .enterAtOnce h
  | enterQueue h => exact .enterQueue h
  | acquireAtOnce h => exact .acquireAtOnce h
  | acquireQueue h => exact .acquireQueue h
  | releaseJob => exact .releaseRequest
  | releaseLease h => exact section_releaseLease h
  | collect hc h =>
    rw [boundaries_returns]
    exact .collect h
  | collectRequest hc h => exact .collectRequest h
  | @collectBytes t p count q hc h => exact .collectBytes (w := ⟨t, count⟩) h
  | collectUpstream hc h => exact .upstreamCollect h
  | withdraw =>
    rw [boundaries_returns]
    exact .withdraw
  | withdrawRequest =>
    rw [boundaries_returns]
    exact .withdrawRequest
  | @withdrawBytes t p count =>
    rw [boundaries_returns, boundaries_unlock]
    exact .withdrawBytes (w := ⟨t, count⟩)
  | withdrawUpstream => exact .upstreamWithdraw
  | @reserveAtOnce t p count q hc hsmall h => exact .reserveAtOnce (w := ⟨t, count⟩) h
  | @reserveQueue t p count q hc hsmall h => exact .reserveQueue (w := ⟨t, count⟩) h
  | reserveReturn | releaseReturn | handedOff =>
    rw [boundaries_returns, boundaries_unlock]
    exact .releaseBytes
  | finishedOp =>
    rw [boundaries_returns, boundaries_unlock]
    exact .releaseRequest
  | finished =>
    rw [boundaries_returns]
    exact .releaseRequest
  | enterUpstream => exact .upstreamEnter
  | returnInterrupted hc h | leaseReturned hc h =>
    rw [boundaries_returns, boundaries_unlock]
    exact section_releaseLease h
  | reserveRefused | reserveTooLarge | finishClosed | granted =>
    rw [boundaries_returns, boundaries_unlock]
    exact .idle
  | admitted =>
    rw [boundaries_returns]
    exact .idle
  | reserveBytes | releaseBytes | close | acquireUpstream | jobReleased | upstreamRefused | grantedClosed
  | finish | handoffClosed | handoff => exact .idle

/-- **Every step runs at most one critical section, the one its label announces.** -/
theorem step_section (hs : s.step a = some s') :
    Section (s.label a) s.boundaries s'.boundaries :=
  (step_turn hs).runs

theorem limits_step (h : s.step a = some s') :
    s'.scheduler.limits = s.scheduler.limits :=
  section_limits (step_section h)

/-! ## The calls that wait change as the label announces -/

/-- A goroutine waits in a queue. -/
def Waits (s : State) (t : Ticket) (x : Place) : Prop := ∃ c, s.calls[t]? = some c ∧ c.place = some x

/-- The waiting calls after a step with a label. -/
def Follows (s s' : State) : Label → Prop
  | .neither | .takes _ _ => ∀ u y, s'.Waits u y ↔ s.Waits u y
  | .joins t x => (∀ y, ¬ s.Waits t y) ∧ ∀ u y, s'.Waits u y ↔ u = t ∧ y = x ∨ s.Waits u y
  | .leaves t x _ => s.Waits t x ∧ ∀ u y, s'.Waits u y ↔ u ≠ t ∧ s.Waits u y

theorem waits_at (hc : s.calls[t]? = some c) (y : Place) : s.Waits t y ↔ c.place = some y := by
  simp [Waits, hc]

variable {c' : Call}

/-- One call moves on. -/
theorem waits_set (hc : s.calls[t]? = some c) (hcalls : s'.calls = s.calls.set t c') (u : Ticket)
    (y : Place) : s'.Waits u y ↔ (u = t ∧ c'.place = some y) ∨ (u ≠ t ∧ s.Waits u y) := by
  obtain ⟨ht, -⟩ := List.getElem?_eq_some_iff.mp hc
  unfold Waits
  rw [hcalls]
  by_cases hu : u = t
  · subst hu
    simp [ht]
  · have hne : ¬ t = u := fun h => hu h.symm
    simp [hne, hu]

/-- One goroutine enters an operation. -/
theorem waits_append (hcalls : s'.calls = s.calls ++ [c']) (u : Ticket) (y : Place) :
    s'.Waits u y ↔ (u = s.calls.length ∧ c'.place = some y) ∨ s.Waits u y := by
  unfold Waits
  rw [hcalls]
  constructor
  · rintro ⟨c, hc, hy⟩
    rw [List.getElem?_append] at hc
    split at hc
    · exact .inr ⟨c, hc, hy⟩
    · rename_i hge
      obtain ⟨hlt, rfl⟩ := List.getElem?_eq_some_iff.mp hc
      have hle : u ≤ s.calls.length := Nat.sub_eq_zero_iff_le.mp (Nat.lt_one_iff.mp hlt)
      refine .inl ⟨Nat.le_antisymm hle (Nat.not_lt.mp hge), ?_⟩
      simpa using hy
  · rintro (⟨rfl, hy⟩ | ⟨c, hc, hy⟩)
    · exact ⟨c', by simp, hy⟩
    · obtain ⟨hu, rfl⟩ := List.getElem?_eq_some_iff.mp hc
      exact ⟨_, by rw [List.getElem?_append_left hu]; exact hc, hy⟩

theorem not_waits_new (s : State) (y : Place) : ¬ s.Waits s.calls.length y := by
  rintro ⟨c, hc, -⟩
  simp at hc

/-- A call that does not wait goes on without waiting. -/
theorem follows_on (hc : s.calls[t]? = some c) (hcalls : s'.calls = s.calls.set t c')
    (hplace : c.place = none) (hplace' : c'.place = none) : s.Follows s' .neither := by
  intro u y
  rw [waits_set hc hcalls, hplace']
  constructor
  · rintro (⟨-, h⟩ | ⟨-, h⟩)
    · cases h
    · exact h
  · intro h
    refine .inr ⟨?_, h⟩
    rintro rfl
    rw [waits_at hc, hplace] at h
    cases h

theorem follows_join (hc : s.calls[t]? = some c) (hcalls : s'.calls = s.calls.set t c')
    (hplace : c.place = none) (hplace' : c'.place = some x) : s.Follows s' (.joins t x) := by
  have hnot : ∀ y, ¬ s.Waits t y := by
    intro y h
    rw [waits_at hc, hplace] at h
    cases h
  refine ⟨hnot, fun u y => ?_⟩
  rw [waits_set hc hcalls, hplace']
  constructor
  · rintro (⟨hu, hy⟩ | ⟨-, h⟩)
    · exact .inl ⟨hu, (Option.some.inj hy).symm⟩
    · exact .inr h
  · rintro (⟨hu, rfl⟩ | h)
    · exact .inl ⟨hu, rfl⟩
    · refine .inr ⟨?_, h⟩
      rintro rfl
      exact hnot y h

theorem follows_leave {collects : Bool} (hc : s.calls[t]? = some c)
    (hcalls : s'.calls = s.calls.set t c') (hplace : c.place = some x) (hplace' : c'.place = none) :
    s.Follows s' (.leaves t x collects) := by
  refine ⟨(waits_at hc x).mpr hplace, fun u y => ?_⟩
  rw [waits_set hc hcalls, hplace']
  simp

/-- A goroutine that enters and returns at once, or goes on without waiting. -/
theorem follows_enter (hcalls : s'.calls = s.calls ++ [c']) (hplace : c'.place = none) :
    s.Follows s' .neither := by
  intro u y
  rw [waits_append hcalls, hplace]
  simp

theorem follows_queue (hcalls : s'.calls = s.calls ++ [c']) (hplace : c'.place = some x) :
    s.Follows s' (.joins s.calls.length x) := by
  refine ⟨not_waits_new s, fun u y => ?_⟩
  rw [waits_append hcalls, hplace]
  simp [eq_comm]

theorem follows_same (hcalls : s'.calls = s.calls) : s.Follows s' .neither := by
  intro u y
  unfold Waits
  rw [hcalls]

theorem calls_unlock_returns (s : State) (p : RequestId) (t : Ticket) (r : Result) :
    ((s.unlock p).returns t r).calls = s.calls.set t (.returned r) := by
  simp [returns, setCall]

theorem calls_leaseReturn {l : LeaseId} (h : s.releaseLease l = some s') (p : RequestId) (t : Ticket)
    (r : Result) : ((s'.unlock p).returns t r).calls = s.calls.set t (.returned r) := by
  rw [calls_unlock_returns, (releaseLease_frame h).2.2.1]

theorem Turn.follows (h : s.Turn a label s') : s.Follows s' label := by
  cases h with
  | answers | enterAtOnce | acquireAtOnce | reserveBytes | releaseBytes | close | handoffPassthrough
  | acquireUpstream => exact follows_enter rfl rfl
  | enterQueue | acquireQueue => exact follows_queue rfl rfl
  | jobReleased | releaseJob => exact follows_same rfl
  | releaseLease h => exact follows_same (releaseLease_frame h).2.2.1
  | collect hc | collectRequest hc | collectBytes hc | collectUpstream hc | withdraw hc
  | withdrawRequest hc | withdrawUpstream hc => exact follows_leave hc rfl rfl rfl
  | withdrawBytes hc => exact follows_leave hc (calls_unlock_returns _ _ _ _) rfl rfl
  | reserveQueue hc | enterUpstream hc => exact follows_join hc rfl rfl rfl
  | returnInterrupted hc h | leaseReturned hc h => exact follows_on hc (calls_leaseReturn h _ _ _) rfl rfl
  | finishClosed hc hfinish => cases hfinish <;> exact follows_on hc (calls_unlock_returns _ _ _ _) rfl rfl
  | finish hc hfinish => cases hfinish <;> exact follows_on hc rfl rfl rfl
  | reserveRefused hc | reserveTooLarge hc | granted hc | reserveReturn hc | releaseReturn hc
  | finishedOp hc | handedOff hc => exact follows_on hc (calls_unlock_returns _ _ _ _) rfl rfl
  | upstreamRefused hc | reserveAtOnce hc | admitted hc | grantedClosed hc | finished hc
  | handoffClosed hc | handoff hc => exact follows_on hc rfl rfl rfl

/-- **The calls that wait change as the label announces.** -/
theorem step_follows (hs : s.step a = some s') : s.Follows s' (s.label a) :=
  (step_turn hs).follows

end State

end Scheduling
