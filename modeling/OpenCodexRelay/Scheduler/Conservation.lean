/-
  Conservation of the pending quota — every slot and every byte is given back exactly once.

  The balance of the accounts (`Balanced`) says what the two counters are in every state.  What is
  left is to read it in the words of the handles, and to follow one request through a whole run.

  1. `openAmount`, `jobAmount`, `undelivered`: the counters split by who holds what.  A request is
     open until its slot has been given back: one whose `Close` has set the flag and is on its way to
     the quota still holds all it had.
  2. `Clamps`: the tests against zero in the releasing sections.  None of them ever holds anything
     back.
  3. `taken`, `returned`: what a run has taken from the quota and given back on behalf of one
     request.  It has taken ONE slot, and returned it at most once, however often the request is
     closed and its job released.
  4. `snapshot_of_idle`: with every handle closed or released all counters are zero.
  5. `quota_conservation` puts this together.
-/
import OpenCodexRelay.Scheduler.Accounts
import OpenCodexRelay.Scheduler.Permits
import OpenCodexRelay.Scheduler.Waiters

namespace Scheduling

open Queueing

/-! ## Who holds what -/

/-- What a call was granted and has not delivered to a request yet. -/
def Call.granted : Call → Good → ℤ
  | .requestAdmitted _, .slot => 1
  | .reserveGranted _ count, .byte => count
  | .reserveReturn _ count, .byte => count
  | _, _ => 0

/-- What a call took out of its request and has not brought back to the quota, or made out to a job,
    yet. -/
def Call.returning : Call → Good → ℤ
  | .releaseReturn _ count, .byte => count
  | .finishing _ _ _ _, .slot => 1
  | .finishing _ reserved _ _, .byte => reserved
  | .handingOff _ _ _, .slot => 1
  | .handingOff _ reserved _, .byte => reserved
  | _, _ => 0

theorem Call.amount_eq (c : Call) (g : Good) : c.amount g = c.granted g + c.returning g := by
  cases c <;> cases g <;> simp [amount, granted, returning]

namespace State

/-- What the open pending requests hold, with those whose closing is under way. -/
def openAmount (s : State) (g : Good) : ℤ :=
  (s.requests.map fun r => r.amount g).sum + (s.calls.map fun c => c.returning g).sum

/-- What the unreleased jobs hold. -/
def jobAmount (s : State) (g : Good) : ℤ := (s.jobs.map fun j => j.amount g).sum

/-- What was granted and has not been delivered: to a waiter that has not looked, or to a call that
    has not got further. -/
def undelivered (s : State) : Good → ℤ
  | .slot => s.scheduler.pending.grantedRequests.length + (s.calls.map fun c => c.granted .slot).sum
  | .byte => (s.scheduler.pending.grantedBytes.map QuotaWaiter.bytes).sum +
      (s.calls.map fun c => c.granted .byte).sum

theorem held_everyone (s : State) (g : Good) :
    s.held everyone g
      = s.openAmount g + s.jobAmount g + (s.calls.map fun c => c.granted g).sum := by
  simp only [held, share_everyone, openAmount, jobAmount, ← tableSum_map, Call.amount_eq,
    tableSum_add]
  omega

/-- **The counters, by who holds what.** -/
theorem Balanced.counters {s : State} (h : s.Balanced) :
    s.scheduler.pending.requests
        = s.openAmount .slot + s.jobAmount .slot + s.undelivered .slot ∧
      s.scheduler.pending.bytes
        = s.openAmount .byte + s.jobAmount .byte + s.undelivered .byte := by
  have hslots := h.slots
  have hbytes := h.bytes
  rw [held_everyone] at hslots hbytes
  simp only [PendingQuota.slotsOut, PendingQuota.bytesOut] at hslots hbytes
  simp only [undelivered]
  omega

theorem Balanced.counters_nonneg {s : State} (h : s.Balanced) :
    0 ≤ s.scheduler.pending.requests ∧ 0 ≤ s.scheduler.pending.bytes :=
  ⟨h.held_nonneg.trans h.held_le_requests, h.held_nonneg.trans h.held_le_bytes⟩

end State

/-! ## No test against zero holds anything back -/

/-- One of the counters that `releaseGrantLocked` decrements is not positive. -/
def UpstreamPool.Clamps (p : UpstreamPool) (lane : Lane) (kind : PermitKind) : Prop :=
  (match kind with
    | .reserved => p.usedReserve ≤ 0
    | .general => p.usedGeneral ≤ 0 ∨ lane = .interactive ∧ p.borrowedInteractive ≤ 0) ∨
  match lane with
    | .general => p.activeGeneralLane ≤ 0
    | .interactive => p.activeInteractiveLane ≤ 0

theorem UpstreamPool.Tally.not_clamps {p : UpstreamPool} {n : Lane → PermitKind → ℤ}
    (h : p.Tally n) (hn : ∀ lane kind, 0 ≤ n lane kind) {lane : Lane} {kind : PermitKind}
    (hpos : 0 < n lane kind) : ¬ p.Clamps lane kind := by
  obtain ⟨hg, hr, hgl, hil, hb, hu⟩ := h
  have h1 := hn .interactive .general
  have h2 := hn .interactive .reserved
  have h3 := hn .general .general
  cases lane <;> cases kind <;> simp only [Clamps, true_and, reduceCtorEq, false_and, or_false] <;>
    omega

namespace State

/-- The closure of a lease finds a counter that it decrements not positive. -/
def LeaseClamps (s : State) (l : LeaseId) : Prop :=
  match s.leases[l]? with
  | some ⟨.limiter k, false⟩ => (s.scheduler.limiter k).active ≤ 0
  | some ⟨.upstream lane kind, false⟩ => s.scheduler.upstream.Clamps lane kind
  | _ => False

/-- **A step meets a counter that is too small for what it gives back.** -/
def Clamps (s : State) : Action → Prop
  | .releaseJob j =>
    match s.jobs[j]? with
    | some ⟨_, retained, false⟩ =>
      s.scheduler.pending.requests ≤ 0 ∨ s.scheduler.pending.bytes < retained
    | _ => False
  | .releaseLease l => s.LeaseClamps l
  | .interrupt t _ =>
    match s.calls[t]? with
    | some (.upstreamWait _ _ _) =>
      ∃ g ∈ s.scheduler.upstream.grantOf t, s.scheduler.upstream.Clamps g.lane g.permit
    | some (.leaseReturn _ l) => s.LeaseClamps l
    | _ => False
  | .proceed t =>
    match s.calls[t]? with
    | some (.reserveReturn _ count) => s.scheduler.pending.bytes < count
    | some (.releaseReturn _ count) => s.scheduler.pending.bytes < count
    | some (.finishing _ reserved _ _) =>
      s.scheduler.pending.requests ≤ 0 ∨ s.scheduler.pending.bytes < reserved
    | some (.handingOff _ reserved _) => s.scheduler.pending.bytes < reserved
    | some (.leaseReturn _ l) => s.LeaseClamps l
    | _ => False
  | _ => False

variable {s s' : State}

theorem not_leaseClamps (hp : s.boundaries.Permitted) (l : LeaseId) : ¬ s.LeaseClamps l := by
  unfold LeaseClamps
  split
  · rename_i k hlease
    have hpos : 0 < s.boundaries.out (.limiter k) := Boundaries.out_pos hlease
    have hout : (s.scheduler.limiter k).out = s.boundaries.out (.limiter k) := hp.limiter k
    unfold FifoLimiter.out at hout
    omega
  · rename_i lane kind hlease
    have hpos : 0 < s.boundaries.out (.upstream lane kind) := Boundaries.out_pos hlease
    exact hp.books.2.not_clamps
      (fun l k => Int.add_nonneg (hp.books.1 l k) (UpstreamPool.undelivered_nonneg _ l k))
      (Int.add_pos_of_pos_of_nonneg hpos (UpstreamPool.undelivered_nonneg _ lane kind))
  · exact id

/-- Giving back a grant that nobody collected. -/
theorem not_grantClamps (hp : s.boundaries.Permitted) {t : Ticket} {g : Grant}
    (hg : s.scheduler.upstream.grantOf t = some g) : ¬ s.scheduler.upstream.Clamps g.lane g.permit := by
  have hmem := (UpstreamPool.grantOf_some hg).1
  have hpos : 0 < s.scheduler.upstream.undelivered g.lane g.permit :=
    Int.natCast_pos.mpr (List.countP_pos_iff.mpr ⟨g, hmem, by simp⟩)
  exact hp.books.2.not_clamps
    (fun l k => Int.add_nonneg (hp.books.1 l k) (UpstreamPool.undelivered_nonneg _ l k))
    (Int.add_pos_of_nonneg_of_pos (hp.books.1 g.lane g.permit) hpos)

/-- **No step is held back.** -/
theorem not_clamps (h : s.Balanced) (hp : s.boundaries.Permitted) (a : Action) : ¬ s.Clamps a := by
  cases a with
  | releaseJob j =>
    simp only [Clamps]
    split
    · rename_i owner retained hjob
      obtain ⟨hbytes, hslots⟩ := h.job_returns hjob
      simp only [JobLease.amount, Bool.false_eq_true, if_false] at hbytes hslots
      omega
    · exact id
  | releaseLease l => exact not_leaseClamps hp l
  | interrupt t i =>
    simp only [Clamps]
    split
    · rintro ⟨g, hg, hclamps⟩
      exact not_grantClamps hp hg hclamps
    · exact not_leaseClamps hp _
    · exact id
  | proceed t =>
    simp only [Clamps]
    split
    · rename_i hc
      exact Int.not_lt.mpr (h.call_returns hc).1
    · rename_i hc
      exact Int.not_lt.mpr (h.call_returns hc).1
    · rename_i hc
      obtain ⟨hbytes, hslots⟩ := h.call_returns hc
      simp only [Call.amount] at hbytes hslots
      omega
    · rename_i hc
      exact Int.not_lt.mpr (h.call_returns hc).1
    · exact not_leaseClamps hp _
    · exact id
  | _ => exact id

/-! ## One request through a whole run -/

variable {t : Ticket} {c : Call}

@[simp] theorem requests_length_unlock_returns (s : State) (p : RequestId) (t : Ticket) (res : Result) :
    ((s.unlock p).returns t res).requests.length = s.requests.length := by
  simp [returns, setCall]

theorem requests_length_leaseReturned {l : LeaseId} (h : s.releaseLease l = some s') (p : RequestId)
    (t : Ticket) (res : Result) :
    ((s'.unlock p).returns t res).requests.length = s.requests.length := by
  rw [requests_length_unlock_returns, (releaseLease_frame h).1]

/-- A step creates a request, and writes down that its slot is now the request's; or it creates none
    and takes no slot on behalf of one. -/
theorem created_step {a : Action} (hs : s.step a = some s') :
    (s'.requests.length = s.requests.length ∧ ∀ e ∈ s.entries a, e.owner = none ∨ e.slots ≤ 0) ∨
      (s'.requests.length = s.requests.length + 1 ∧
        s.entries a = [⟨none, -1, 0⟩, ⟨some s.requests.length, 1, 0⟩]) := by
  have hturn := step_turn hs
  generalize s.label a = label at hturn
  cases hturn with
  -- only a call that has its slot and not its handle creates a request
  | admitted hc => exact .inr ⟨by simp [returns, setCall, addRequest], by simp [entries, hc]⟩
  | answers ha => exact .inl ⟨rfl, by simp [entries_of_opens s ha]⟩
  | acquireAtOnce h | acquireQueue h => exact .inl ⟨rfl, by simp [entries, h]⟩
  | enterAtOnce | enterQueue | withdraw | withdrawRequest | upstreamRefused | withdrawUpstream =>
    exact .inl ⟨rfl, by simp [entries]⟩
  | reserveBytes | releaseBytes | close | handoffPassthrough | acquireUpstream =>
    exact .inl ⟨by simp [addCall, addJob, answers, setRequest], by simp [entries]⟩
  | jobReleased hj hreleased | releaseJob hj hreleased =>
    exact .inl ⟨rfl, by simp [entries, hj, hreleased]⟩
  | releaseLease h => exact .inl ⟨congrArg List.length (releaseLease_frame h).1, by simp [entries]⟩
  | collect hc | collectRequest hc | collectBytes hc | collectUpstream hc | grantedClosed hc
  | finished hc | enterUpstream hc | handoffClosed hc => exact .inl ⟨rfl, by simp [entries, hc]⟩
  | reserveRefused hc | withdrawBytes hc | reserveReturn hc | releaseReturn hc | finishedOp hc =>
    exact .inl ⟨by simp [setPending], by simp [entries, hc]⟩
  | returnInterrupted hc h | leaseReturned hc h =>
    exact .inl ⟨requests_length_leaseReturned h _ _ _, by simp [entries, hc]⟩
  | reserveTooLarge hc hbig =>
    exact .inl ⟨by simp, by simp [entries, hc, Int.not_le.mpr hbig]⟩
  | reserveAtOnce hc hsmall h | reserveQueue hc hsmall h =>
    exact .inl ⟨rfl, by simp [entries, hc, hsmall, h]⟩
  | granted hc | handedOff hc | handoff hc =>
    exact .inl ⟨by simp [setRequest, setCall, addJob, setPending], by simp [entries, hc]⟩
  | finishClosed hc hfinish => exact .inl ⟨by simp, by simp [entries_of_finishes hc hfinish]⟩
  | finish hc hfinish =>
    exact .inl ⟨by simp [setRequest, setCall], by simp [entries_of_finishes hc hfinish]⟩

end State

def Entry.taken (e : Entry) (g : Good) : ℤ := max (e.amount g) 0

def Entry.returned (e : Entry) (g : Good) : ℤ := max (-e.amount g) 0

theorem Entry.taken_sub_returned (e : Entry) (g : Good) :
    e.amount g = e.taken g - e.returned g := by
  unfold taken returned
  omega

/-- What one step takes on behalf of a request. -/
def State.takenFor (p : RequestId) (g : Good) (x : State × Action) : ℤ :=
  ((x.1.entries x.2).map fun e => share (only p) e.owner (e.taken g)).sum

/-- What one step returns on behalf of a request. -/
def State.returnedFor (p : RequestId) (g : Good) (x : State × Action) : ℤ :=
  ((x.1.entries x.2).map fun e => share (only p) e.owner (e.returned g)).sum

/-- **What a run has taken from the quota on behalf of a request.** -/
def taken (p : RequestId) (g : Good) (past : List (State × Action)) : ℤ :=
  (past.map (State.takenFor p g)).sum

/-- **What a run has returned to the quota on behalf of a request.** -/
def returned (p : RequestId) (g : Good) (past : List (State × Action)) : ℤ :=
  (past.map (State.returnedFor p g)).sum

variable {past : List (State × Action)} {s s' : State} {p : RequestId} {g : Good}

theorem moved_only (s : State) (a : Action) :
    s.moved (only p) g a = State.takenFor p g (s, a) - State.returnedFor p g (s, a) := by
  unfold State.moved State.takenFor State.returnedFor
  induction s.entries a with
  | nil => rfl
  | cons e es ih =>
    simp only [List.map_cons, List.sum_cons]
    rw [ih, Entry.taken_sub_returned, share_sub]
    omega

/-- **What was taken for a request was returned, or the request has it.** -/
theorem taken_eq (h : Runs past s) : taken p g past = returned p g past + s.held (only p) g := by
  refine h.invariant (I := fun past s => taken p g past = returned p g past + s.held (only p) g)
    (fun s hs => ?_) fun past s a s' _ hI hstep => ?_
  · obtain ⟨-, -, hrequests, hjobs, -, hcalls⟩ := hs
    simp [taken, returned, State.held, hrequests, hjobs, hcalls]
  · have hmoved := moved_only (p := p) (g := g) s a
    rw [State.held_step hstep]
    simp only [taken, returned, List.map_cons, List.sum_cons] at hI ⊢
    omega

/-- **One slot is taken for a request**, when it is created. -/
theorem taken_slot (h : Runs past s) :
    taken p .slot past = if p < s.requests.length then 1 else 0 := by
  refine h.invariant (I := fun past s => taken p .slot past = if p < s.requests.length then 1 else 0)
    (fun s hs => ?_) fun past s a s' _ hI hstep => ?_
  · obtain ⟨-, -, hrequests, -⟩ := hs
    simp [taken, hrequests]
  · simp only [taken, List.map_cons, List.sum_cons] at hI ⊢
    rw [hI]
    rcases State.created_step hstep with ⟨hlength, hentries⟩ | ⟨hlength, hentries⟩
    · have hzero : State.takenFor p .slot (s, a) = 0 := by
        refine List.sum_eq_zero fun n hn => ?_
        obtain ⟨e, he, rfl⟩ := List.mem_map.mp hn
        rcases hentries e he with howner | hslots
        · simp [share, only, howner]
        · have : e.taken .slot = 0 := max_eq_right hslots
          rw [this, share_zero]
      rw [hlength, hzero, zero_add]
    · have hone : State.takenFor p .slot (s, a) = if s.requests.length = p then 1 else 0 := by
        simp [State.takenFor, hentries, share, only, Entry.taken, Entry.amount]
      rw [hlength, hone]
      rcases Nat.lt_trichotomy p s.requests.length with hlt | rfl | hgt
      · rw [if_neg hlt.ne', if_pos hlt, if_pos (Nat.lt_succ_of_lt hlt), zero_add]
      · simp
      · rw [if_neg hgt.ne, if_neg hgt.asymm, if_neg (Nat.not_lt.mpr hgt), zero_add]

/-! ## Nothing is left -/

/-- `Snapshot`. -/
structure Snapshot where
  activeClassifications : ℤ
  waitingClassifications : ℤ
  pendingRequests : ℤ
  pendingBytes : ℤ
  waitingPendingRequests : ℤ
  waitingPendingByteRequests : ℤ
  waitingPendingBytes : ℤ
  activeGeneralUpstream : ℤ
  activeInteractiveUpstream : ℤ
  activeReservedUpstream : ℤ
  activeBorrowedInteractive : ℤ
  waitingGeneralUpstream : ℤ
  waitingInteractiveUpstream : ℤ
  activeTransforms : ℤ
  waitingTransforms : ℤ
  activeDeliveries : ℤ
  waitingDeliveries : ℤ
  capacityRejections : ℕ
  deriving DecidableEq, Repr

def Scheduler.snapshot (s : Scheduler) : Snapshot where
  activeClassifications := (s.limiter .classification).active
  waitingClassifications := (s.limiter .classification).waiters.length
  pendingRequests := s.pending.requests
  pendingBytes := s.pending.bytes
  waitingPendingRequests := s.pending.requestWaiters.length
  waitingPendingByteRequests := s.pending.byteWaiters.length
  waitingPendingBytes := (s.pending.byteWaiters.map QuotaWaiter.bytes).sum
  activeGeneralUpstream := s.upstream.activeGeneralLane
  activeInteractiveUpstream := s.upstream.activeInteractiveLane
  activeReservedUpstream := s.upstream.usedReserve
  activeBorrowedInteractive := s.upstream.borrowedInteractive
  waitingGeneralUpstream := s.upstream.generalWaiters.length
  waitingInteractiveUpstream := s.upstream.interactiveWaiters.length
  activeTransforms := (s.limiter .transform).active
  waitingTransforms := (s.limiter .transform).waiters.length
  activeDeliveries := (s.limiter .delivery).active
  waitingDeliveries := (s.limiter .delivery).waiters.length
  capacityRejections := s.rejections

/-- Every handle is closed or released, and no operation is under way. -/
structure State.Idle (s : State) : Prop where
  requests : ∀ r ∈ s.requests, r.closed = true
  jobs : ∀ j ∈ s.jobs, j.released = true
  leases : ∀ l ∈ s.leases, l.released = true
  calls : ∀ c ∈ s.calls, ∃ r, c = .returned r

namespace State.Idle

theorem held (h : s.Idle) (S : Option RequestId → Bool) (g : Good) : s.held S g = 0 := by
  unfold State.held
  rw [tableSum_eq_zero fun p r hr => ?_, tableSum_eq_zero fun i j hj => ?_,
    tableSum_eq_zero fun t c hc => ?_]
  · rfl
  · obtain ⟨r, rfl⟩ := h.calls c (List.mem_of_getElem? hc)
    simp
  · have hreleased := h.jobs j (List.mem_of_getElem? hj)
    cases g <;> simp [JobLease.amount, hreleased]
  · have hclosed := h.requests r (List.mem_of_getElem? hr)
    cases g <;> simp [PendingRequest.amount, hclosed]

theorem out (h : s.Idle) (permit : Permit) : s.boundaries.out permit = 0 := by
  refine tableSum_eq_zero fun i l hl => ?_
  have hreleased := h.leases l (List.mem_of_getElem? hl)
  simp [Lease.has, hreleased]

theorem not_waits (h : s.Idle) (u : Ticket) (y : Place) : ¬ s.Waits u y := by
  rintro ⟨c, hc, hplace⟩
  obtain ⟨r, rfl⟩ := h.calls c (List.mem_of_getElem? hc)
  cases hplace

end State.Idle

/-- **All counters are zero when every handle has been closed or released**; only the number of
    rejections is kept. -/
theorem snapshot_of_idle (h : Runs past s) (hidle : s.Idle) :
    s.scheduler.snapshot
      = ⟨0, 0, 0, 0, 0, 0, 0, 0, 0, 0, 0, 0, 0, 0, 0, 0, 0, s.scheduler.rejections⟩ ∧
      s.scheduler.upstream.usedGeneral = 0 := by
  have hbalanced := balanced_of_runs h
  have hp := permitted_of_runs h
  have hlines : ∀ x, (s.boundaries.line x).waiters = [] ∧ (s.boundaries.line x).granted = [] :=
    (linked_of_runs h).idle hidle.not_waits
  have hactive : ∀ k, (s.scheduler.limiter k).waiters = [] ∧ (s.scheduler.limiter k).active = 0 := by
    intro k
    have hgranted := List.map_eq_nil_iff.mp (hlines (.limiter k)).2
    have hout : (s.scheduler.limiter k).out = 0 := (hp.limiter k).trans (hidle.out _)
    refine ⟨List.map_eq_nil_iff.mp (hlines (.limiter k)).1, ?_⟩
    unfold FifoLimiter.out at hout
    rw [show (s.scheduler.limiter k).granted = [] from hgranted] at hout
    simpa using hout
  have hrequestWaiters : s.scheduler.pending.requestWaiters = [] :=
    List.map_eq_nil_iff.mp (hlines .slots).1
  have hgrantedRequests : s.scheduler.pending.grantedRequests = [] :=
    List.map_eq_nil_iff.mp (hlines .slots).2
  have hbyteWaiters : s.scheduler.pending.byteWaiters = [] := List.map_eq_nil_iff.mp (hlines .bytes).1
  have hgrantedBytes : s.scheduler.pending.grantedBytes = [] := List.map_eq_nil_iff.mp (hlines .bytes).2
  have hrequests : s.scheduler.pending.requests = 0 := by
    simpa [PendingQuota.slotsOut, hgrantedRequests, hidle.held] using hbalanced.slots
  have hpendingBytes : s.scheduler.pending.bytes = 0 := by
    simpa [PendingQuota.bytesOut, hgrantedBytes, hidle.held] using hbalanced.bytes
  have hgeneral : s.scheduler.upstream.generalWaiters = [] :=
    List.map_eq_nil_iff.mp (hlines (.upstream .general)).1
  have hinteractive : s.scheduler.upstream.interactiveWaiters = [] :=
    List.map_eq_nil_iff.mp (hlines (.upstream .interactive)).1
  have hgranted : s.scheduler.upstream.granted = [] := by
    refine List.eq_nil_iff_forall_not_mem.mpr fun g hg => ?_
    have hnil : (s.scheduler.upstream.granted.filter (·.lane = g.lane)).map (·.ticket) = [] :=
      List.map_eq_nil_iff.mp (hlines (.upstream g.lane)).2
    exact List.filter_eq_nil_iff.mp (List.map_eq_nil_iff.mp hnil) g hg (decide_eq_true rfl)
  have hundelivered : ∀ lane kind, s.boundaries.upstream.undelivered lane kind = 0 := by
    intro lane kind
    simp [State.boundaries, UpstreamPool.undelivered, hgranted]
  obtain ⟨-, htally⟩ := hp.books
  simp only [hidle.out, hundelivered, add_zero] at htally
  obtain ⟨hg, hr, hgl, hil, hb, -⟩ := htally
  simp only [State.boundaries] at hg hr hgl hil hb
  refine ⟨?_, hg⟩
  simp [Scheduler.snapshot, hactive, hrequestWaiters, hbyteWaiters, hrequests, hpendingBytes,
    hgeneral, hinteractive, hr, hgl, hil, hb]

/-- **Conservation of the pending quota.**  In every state of every run: the two counters are what
    the open requests hold, what the unreleased jobs hold and what was granted and has not been
    delivered; they are within their limits; no step is held back by a test against zero, and each
    moves the quota by its entries; one slot was taken for every request, and what was taken for it
    — slot or bytes — was returned once or is still held; and with every handle closed or released
    everything has been returned and all counters are zero. -/
theorem quota_conservation (h : Runs past s) :
    (s.scheduler.pending.requests = s.openAmount .slot + s.jobAmount .slot + s.undelivered .slot ∧
      s.scheduler.pending.bytes = s.openAmount .byte + s.jobAmount .byte + s.undelivered .byte) ∧
    (0 ≤ s.scheduler.pending.requests ∧
      s.scheduler.pending.requests ≤ s.scheduler.limits.maxPendingRequests ∧
      0 ≤ s.scheduler.pending.bytes ∧
      s.scheduler.pending.bytes ≤ s.scheduler.limits.maxPendingBytes) ∧
    (∀ a, ¬ s.Clamps a) ∧
    (∀ a s', s.step a = some s' →
      s'.scheduler.pending.slotsOut = s.scheduler.pending.slotsOut + s.moved everyone .slot a ∧
        s'.scheduler.pending.bytesOut = s.scheduler.pending.bytesOut + s.moved everyone .byte a) ∧
    (∀ p < s.requests.length, returned p .slot past + s.held (only p) .slot = 1 ∧
      returned p .byte past + s.held (only p) .byte = taken p .byte past ∧
      0 ≤ s.held (only p) .slot ∧ 0 ≤ s.held (only p) .byte) ∧
    (s.Idle →
      (∀ p < s.requests.length, returned p .slot past = 1 ∧
        returned p .byte past = taken p .byte past) ∧
      s.scheduler.snapshot
        = ⟨0, 0, 0, 0, 0, 0, 0, 0, 0, 0, 0, 0, 0, 0, 0, 0, 0, s.scheduler.rejections⟩) := by
  have hbalanced := balanced_of_runs h
  have hslot : ∀ p < s.requests.length, returned p .slot past + s.held (only p) .slot = 1 := by
    intro p hp
    rw [← taken_eq h, taken_slot h, if_pos hp]
  refine ⟨hbalanced.counters,
    ⟨hbalanced.counters_nonneg.1, hbalanced.within.1.trans_eq hbalanced.maxRequests,
      hbalanced.counters_nonneg.2, hbalanced.within.2.trans_eq hbalanced.maxBytes⟩,
    State.not_clamps hbalanced (permitted_of_runs h),
    fun a s' hs => hbalanced.moved_step hs,
    fun p hp => ⟨hslot p hp, (taken_eq h).symm, hbalanced.held_nonneg, hbalanced.held_nonneg⟩,
    fun hidle => ⟨fun p hp => ⟨?_, ?_⟩, (snapshot_of_idle h hidle).1⟩⟩
  · have hone := hslot p hp
    rwa [hidle.held, add_zero] at hone
  · rw [taken_eq h, hidle.held, add_zero]

/-- A passthrough whose job is released twice, and a request that gives up waiting for bytes and is
    closed twice. -/
def twoClients : List Action :=
  [.acquirePendingRequest .general none, .proceed 0,
    .reserveBytes 0 6, .proceed 1, .proceed 1,
    .acquirePendingRequest .interactive none, .proceed 2,
    .reserveBytes 1 8, .proceed 3, .interrupt 3 .canceled,
    .handoffPassthrough 0, .close 1, .close 1, .proceed 5, .releaseJob 0, .releaseJob 0]

theorem quota_conservation_twoClients :
    ∃ past s, replay narrowLimits twoClients = some (past, s) ∧ s.Idle ∧ s.requests.length = 2 ∧
      (∀ p < s.requests.length, returned p .slot past = 1 ∧
        returned p .byte past = taken p .byte past) ∧
      s.scheduler.pending.requests = 0 := by
  have hends : (replay narrowLimits twoClients).map (fun x =>
      (x.2.requests, x.2.jobs, x.2.leases, x.2.calls)) =
      some ([⟨.general, false, true, 0⟩, ⟨.interactive, false, true, 0⟩], [⟨0, 6, true⟩], [],
        [.returned (.ok (.request 0)), .returned (.ok .nothing), .returned (.ok (.request 1)),
          .returned (.error .canceled), .returned (.ok (.job 0)), .returned (.ok .nothing),
          .returned (.ok .nothing)]) := by decide
  obtain ⟨⟨past, s⟩, hrun, hs⟩ := Option.map_eq_some_iff.mp hends
  obtain ⟨hrequests, hjobs, hleases, hcalls⟩ := Prod.mk.inj hs |>.imp_right Prod.mk.inj
    |>.imp_right (And.imp_right Prod.mk.inj)
  have hidle : s.Idle := by
    constructor <;> simp_all
  obtain ⟨-, -, -, -, -, hzero⟩ := quota_conservation (runs_replay hrun)
  obtain ⟨hreturned, hsnapshot⟩ := hzero hidle
  exact ⟨past, s, hrun, hidle, by simp_all, hreturned, congrArg Snapshot.pendingRequests hsnapshot⟩

end Scheduling
