/-
  Upstream, transform, delivery and classification permits — who has one.

  A permit that a boundary counts as used belongs to a `Lease` that has not been released or to a
  granted waiter that has not looked yet.  The upstream pool counts its permits twice, by the pool
  they come from and by the lane that has them, and lends general permits to the interactive lane;
  its five counters are functions of ONE table, the permits by lane and kind (`UpstreamPool.Tally`),
  and in that table no general request has a reserved permit.

  1. `Boundaries.out`: the permits in the hands of lease holders.
  2. `Permitted`: the counters of the limiters and of the upstream pool are what is out and what has
     not been collected, they stay within the limits, and nobody waits in front of a free permit.
  3. `section_permitted`: every critical section keeps that; a release finds every counter that it
     decrements positive.
  4. `permitted_of_runs`, `reserved_capacity`: what holds in every state of every run.
-/
import OpenCodexRelay.Scheduler.Turns

namespace Scheduling

open Queueing

/-- What a lease has of a permit. -/
def Lease.has (permit : Permit) (l : Lease) : ℤ := if !l.released ∧ l.permit = permit then 1 else 0

namespace Boundaries

/-- The leases of a permit that have not been released. -/
def out (b : Boundaries) (permit : Permit) : ℤ := tableSum (fun _ l => l.has permit) b.leases

/-- **The counters are what is out and what has not been collected**, and nobody waits in front of
    a free permit. -/
structure Permitted (b : Boundaries) : Prop where
  limiter : ∀ k, (b.limiter k).out = b.out (.limiter k)
  capacity : ∀ k, (b.limiter k).capacity = b.limits.capacity k
  active : ∀ k, (b.limiter k).active ≤ (b.limiter k).capacity
  limiterServed : ∀ k, (b.limiter k).Served
  maxGeneral : b.upstream.maxGeneral = b.limits.maxGeneralUpstream
  maxReserved : b.upstream.maxReserved = b.limits.interactiveReservedUpstream
  books : b.upstream.Books fun lane kind => b.out (.upstream lane kind)
  within : b.upstream.Within
  served : b.upstream.Served

theorem has_nonneg (permit : Permit) (l : Lease) : 0 ≤ l.has permit := by
  unfold Lease.has
  split <;> decide

theorem has_live (permit permit' : Permit) :
    Lease.has permit' ⟨permit, false⟩ = if permit' = permit then 1 else 0 := by
  by_cases h : permit' = permit
  · simp [Lease.has, h]
  · simp [Lease.has, h, Ne.symm h]

theorem has_released (permit permit' : Permit) : Lease.has permit' ⟨permit, true⟩ = 0 := by
  simp [Lease.has]

variable {permit : Permit}

variable {b b' : Boundaries}

/-- A lease that has not been released is out. -/
theorem out_pos {i : LeaseId} (h : b.leases[i]? = some ⟨permit, false⟩) :
    0 < b.out permit := by
  have hle := le_tableSum (f := fun _ l => l.has permit) (fun _ l _ => has_nonneg permit l) h
  rw [has_live, if_pos rfl] at hle
  unfold out
  omega

/-- A new lease is out. -/
theorem out_append (h : b'.leases = b.leases ++ [⟨permit, false⟩]) (permit' : Permit) :
    b'.out permit' = b.out permit' + if permit' = permit then 1 else 0 := by
  unfold out
  rw [h, tableSum_append, has_live]

/-- A lease that is released is not. -/
theorem out_set {i : LeaseId} (hlease : b.leases[i]? = some ⟨permit, false⟩)
    (h : b'.leases = b.leases.set i ⟨permit, true⟩) (permit' : Permit) :
    b'.out permit' = b.out permit' - if permit' = permit then 1 else 0 := by
  unfold out
  rw [h, tableSum_set hlease, has_live, has_released]
  omega

/-- Where neither the upstream pool nor its leases moved. -/
theorem Permitted.limiters (h : b.Permitted) (hlimits : b'.limits = b.limits)
    (hupstream : b'.upstream = b.upstream)
    (hout : ∀ lane kind, b'.out (.upstream lane kind) = b.out (.upstream lane kind))
    {k : LimiterStage} {l : FifoLimiter} {c : Change Ticket} (hacts : (b.limiter k).Acts c l)
    (hsound : c.Sound fun _ => 1) (hl : b'.limiter = Function.update b.limiter k l)
    (hpermits : ∀ k', b'.out (.limiter k')
      = b.out (.limiter k') + if k' = k then c.amount fun _ => 1 else 0) : b'.Permitted := by
  have hlimiter : ∀ k', b'.limiter k' = if k' = k then l else b.limiter k' := by
    intro k'
    rw [hl, Function.update_apply]
  refine ⟨fun k' => ?_, fun k' => ?_, fun k' => ?_, fun k' => ?_, ?_, ?_, ?_, ?_, ?_⟩
  · rw [hlimiter, hpermits]
    split
    · rename_i hk
      subst hk
      rw [hacts.out, h.limiter]
    · rw [h.limiter, add_zero]
  · rw [hlimiter, hlimits]
    split
    · rename_i hk
      subst hk
      rw [hacts.capacity, h.capacity]
    · exact h.capacity k'
  · rw [hlimiter]
    split
    · rw [hacts.capacity]
      exact hacts.le hsound (h.active k)
    · exact h.active k'
  · rw [hlimiter]
    split
    · exact hacts.served (h.limiterServed k)
    · exact h.limiterServed k'
  · rw [hupstream, hlimits]
    exact h.maxGeneral
  · rw [hupstream, hlimits]
    exact h.maxReserved
  · rw [hupstream]
    simp only [hout]
    exact h.books
  · rw [hupstream]
    exact h.within
  · rw [hupstream]
    exact h.served

/-- Where no limiter and none of their leases moved. -/
theorem Permitted.pool (h : b.Permitted) (hlimits : b'.limits = b.limits)
    (hlimiter : b'.limiter = b.limiter) (hout : ∀ k, b'.out (.limiter k) = b.out (.limiter k))
    (hmax : b'.upstream.maxGeneral = b.upstream.maxGeneral ∧
      b'.upstream.maxReserved = b.upstream.maxReserved)
    (hbooks : b'.upstream.Books fun lane kind => b'.out (.upstream lane kind))
    (hwithin : b'.upstream.Within) (hserved : b'.upstream.Served) : b'.Permitted := by
  refine ⟨fun k => ?_, fun k => ?_, fun k => ?_, fun k => ?_, ?_, ?_, hbooks, hwithin, hserved⟩
  · rw [hlimiter, hout]
    exact h.limiter k
  · rw [hlimiter, hlimits]
    exact h.capacity k
  · rw [hlimiter]
    exact h.active k
  · rw [hlimiter]
    exact h.limiterServed k
  · rw [hmax.1, hlimits]
    exact h.maxGeneral
  · rw [hmax.2, hlimits]
    exact h.maxReserved

/-- **Every critical section keeps the permits in order.** -/
theorem section_permitted {label : Label} (hsec : Section label b b') (h : b.Permitted) :
    b'.Permitted := by
  cases hsec with
  | idle => exact h
  | enterAtOnce heq =>
    refine h.limiters rfl rfl (fun lane kind => ?_) (FifoLimiter.enter_acts heq) trivial rfl fun k' => ?_
      <;> rw [out_append rfl] <;> simp [Change.amount]
  | enterQueue heq =>
    exact h.limiters rfl rfl (fun _ _ => rfl) (FifoLimiter.enter_acts heq) zero_lt_one rfl fun _ => by
      simp [out, Change.amount]
  | collect hl =>
    refine h.limiters rfl rfl (fun lane kind => ?_) (FifoLimiter.collect_acts hl) trivial rfl fun k' => ?_
      <;> rw [out_append rfl] <;> simp [Change.amount]
  | withdraw =>
    exact h.limiters rfl rfl (fun _ _ => rfl) (FifoLimiter.withdraw_acts _ _) trivial rfl fun _ => by
      simp [out, Change.amount]
  | @release _ k i hlease =>
    have hactive : 0 < (b.limiter k).active := by
      have hpos := out_pos hlease
      have hout := h.limiter k
      unfold FifoLimiter.out at hout
      omega
    have hacts := FifoLimiter.release_acts (b.limiter k)
    rw [if_pos hactive] at hacts
    refine h.limiters rfl rfl (fun lane kind => ?_) hacts zero_le_one rfl fun k' => ?_
    · rw [out_set hlease rfl]
      simp
    · rw [out_set hlease rfl]
      simp only [Permit.limiter.injEq, Change.amount]
      split <;> omega
  | upstreamEnter =>
    exact h.pool rfl rfl (fun _ => rfl) (UpstreamPool.enter_max _ _ _)
      (UpstreamPool.enter_books h.books) (UpstreamPool.enter_within h.within)
      (UpstreamPool.enter_served _ _ _)
  | @upstreamCollect _ t lane u g hu =>
    obtain ⟨hg, rfl⟩ := UpstreamPool.collect_some hu
    refine h.pool rfl rfl (fun k => ?_) ⟨rfl, rfl⟩ ?_ h.within h.served
    · rw [out_append rfl]
      simp
    · convert UpstreamPool.without_books h.books (UpstreamPool.grantOf_some hg).1 using 1
      funext lane kind
      rw [out_append rfl]
      simp only [UpstreamPool.collected, Permit.upstream.injEq]
      split
      · rfl
      · rw [add_zero]
  | upstreamWithdraw =>
    exact h.pool rfl rfl (fun _ => rfl) (UpstreamPool.withdraw_max _ _ _)
      (UpstreamPool.withdraw_books h.books) (UpstreamPool.withdraw_within h.within)
      (UpstreamPool.withdraw_served _ _ _)
  | @upstreamRelease _ i lane kind hlease =>
    refine h.pool rfl rfl (fun k => ?_) (UpstreamPool.release_max _ _ _) ?_
      (UpstreamPool.release_within h.within) (UpstreamPool.release_served _ _ _)
    · rw [out_set hlease rfl]
      simp
    · convert UpstreamPool.release_books h.books (out_pos hlease) using 1
      funext lane' kind'
      rw [out_set hlease rfl]
      simp only [UpstreamPool.returned, Permit.upstream.injEq]
      split
      · rfl
      · rw [sub_zero]
  | acquireAtOnce | acquireQueue | collectRequest | withdrawRequest | reserveAtOnce | reserveQueue
  | collectBytes | withdrawBytes | releaseBytes | releaseRequest =>
    exact h.pool rfl rfl (fun _ => rfl) ⟨rfl, rfl⟩ h.books h.within h.served

end Boundaries

/-! ## Every state of every run -/

variable {past : List (State × Action)} {s : State}

theorem permitted_of_fresh (h : s.Fresh) : s.boundaries.Permitted := by
  obtain ⟨hvalid, hs⟩ := h.scheduler_eq
  obtain ⟨-, -, -, -, hleases, -⟩ := h
  have hpositive := Limits.validate_ok hvalid
  have hlimiter : ∀ k, s.scheduler.limiter k = newFIFOLimiter (s.scheduler.limits.capacity k) :=
    fun k => by rw [hs]
  have hupstream : s.scheduler.upstream = newUpstreamPool s.scheduler.limits.maxGeneralUpstream
      s.scheduler.limits.interactiveReservedUpstream := by rw [hs]
  have hout : ∀ permit, s.boundaries.out permit = 0 := by
    intro permit
    simp [Boundaries.out, State.boundaries, hleases]
  constructor
  · intro k
    rw [hout]
    simp [State.boundaries, hlimiter, newFIFOLimiter, FifoLimiter.out]
  · intro k
    simp [State.boundaries, hlimiter, newFIFOLimiter]
  · intro k
    simp only [State.boundaries, hlimiter, newFIFOLimiter]
    exact (hpositive.capacity k).le
  · intro k
    simp [State.boundaries, hlimiter, newFIFOLimiter, FifoLimiter.Served]
  · simp [State.boundaries, hupstream, newUpstreamPool]
  · simp [State.boundaries, hupstream, newUpstreamPool]
  · simp only [hout]
    refine ⟨fun _ _ => le_rfl, ?_⟩
    constructor <;> simp [State.boundaries, hupstream, newUpstreamPool, UpstreamPool.undelivered]
  · simp only [State.boundaries, hupstream, newUpstreamPool, UpstreamPool.Within]
    exact ⟨hpositive.general.le, hpositive.reserved.le⟩
  · simp [State.boundaries, hupstream, newUpstreamPool, UpstreamPool.Served]

/-- **The permits are in order in every state of every run.** -/
theorem permitted_of_runs (h : Runs past s) : s.boundaries.Permitted :=
  h.state (fun _ => permitted_of_fresh)
    fun _ _ _ hI hstep => Boundaries.section_permitted (State.step_section hstep) hI

/-- The upstream permits of a lane and a kind that are active: those of the leases that have not
    been released, and those granted to a waiter that has not looked yet. -/
def State.activeUpstream (s : State) (lane : Lane) (kind : PermitKind) : ℤ :=
  s.boundaries.out (.upstream lane kind) + s.scheduler.upstream.undelivered lane kind

/-- **Reserved interactive capacity.**  In every state of every run both pools are within their
    limits, the general permits in use are those of the general lane and those that the interactive
    lane borrowed, the interactive lane has the reserved ones and those it borrowed, no general
    request has a reserved permit — and so an interactive request queues only while interactive
    requests have at least as many permits as are reserved for them. -/
theorem reserved_capacity (h : Runs past s) :
    s.scheduler.upstream.usedGeneral ≤ s.scheduler.limits.maxGeneralUpstream ∧
      s.scheduler.upstream.usedReserve ≤ s.scheduler.limits.interactiveReservedUpstream ∧
      s.scheduler.upstream.usedGeneral
        = s.activeUpstream .general .general + s.activeUpstream .interactive .general ∧
      s.activeUpstream .interactive .reserved + s.activeUpstream .interactive .general
        = s.scheduler.upstream.usedReserve + s.activeUpstream .interactive .general ∧
      s.scheduler.upstream.activeGeneralLane = s.activeUpstream .general .general ∧
      s.scheduler.upstream.activeInteractiveLane
        = s.activeUpstream .interactive .reserved + s.activeUpstream .interactive .general ∧
      s.scheduler.upstream.borrowedInteractive = s.activeUpstream .interactive .general ∧
      (∀ l ∈ s.leases, l.permit = .upstream .general .reserved → l.released = true) ∧
      (∀ g ∈ s.scheduler.upstream.granted, g.lane = .general → g.permit = .general) ∧
      (s.scheduler.upstream.interactiveWaiters ≠ [] →
        s.scheduler.limits.interactiveReservedUpstream
          ≤ s.activeUpstream .interactive .reserved + s.activeUpstream .interactive .general) := by
  have hp := permitted_of_runs h
  obtain ⟨hout, hgeneral, hreserve, hgeneralLane, hinteractiveLane, hborrowed, hunreserved⟩ := hp.books
  have hmaxG : s.scheduler.upstream.maxGeneral = s.scheduler.limits.maxGeneralUpstream :=
    hp.maxGeneral
  have hmaxR : s.scheduler.upstream.maxReserved = s.scheduler.limits.interactiveReservedUpstream :=
    hp.maxReserved
  have hres : s.scheduler.upstream.usedReserve = s.activeUpstream .interactive .reserved := hreserve
  obtain ⟨hwithinG, hwithinR⟩ := hp.within
  -- Neither a lease nor a grant gives a reserved permit to the general lane.
  have hnone : s.boundaries.out (.upstream .general .reserved)
      + s.scheduler.upstream.undelivered .general .reserved = 0 := hunreserved
  have hleases : 0 ≤ s.boundaries.out (.upstream .general .reserved) := hout _ _
  have hgrants := UpstreamPool.undelivered_nonneg s.scheduler.upstream .general .reserved
  have hnolease : s.boundaries.out (.upstream .general .reserved) = 0 := by omega
  have hnogrant : s.scheduler.upstream.undelivered .general .reserved = 0 := by omega
  refine ⟨hwithinG.trans_eq hmaxG, hwithinR.trans_eq hmaxR, hgeneral, ?_, hgeneralLane,
    hinteractiveLane, hborrowed, fun l hl hpermit => ?_, fun g hg hlane => ?_, fun hne => ?_⟩
  · rw [hres]
  · by_contra hreleased
    obtain ⟨permit, released⟩ := l
    obtain rfl : permit = .upstream .general .reserved := hpermit
    obtain rfl : released = false := by simpa using hreleased
    obtain ⟨i, hi⟩ := List.mem_iff_getElem?.mp hl
    have hpos := Boundaries.out_pos (b := s.boundaries) hi
    omega
  · by_contra hkind
    have hreserved : g.permit = .reserved := by
      cases hk : g.permit
      · exact absurd hk hkind
      · rfl
    have hcount := List.countP_eq_zero.mp (Int.natCast_eq_zero.mp hnogrant) g hg
    simp [hlane, hreserved] at hcount
  · obtain ⟨hfull, -⟩ := hp.served.2 hne
    have hborrows : 0 ≤ s.activeUpstream .interactive .general :=
      Int.add_nonneg (hout _ _) (UpstreamPool.undelivered_nonneg _ _ _)
    have hfull' : s.scheduler.upstream.maxReserved ≤ s.scheduler.upstream.usedReserve := hfull
    omega

/-- A scheduler with one general and one reserved permit, and room for ten bytes. -/
def narrowLimits : Limits :=
  { defaultLimits with
    maxPendingRequests := 3
    maxPendingBytes := 10
    maxGeneralUpstream := 1 }

/-- Three interactive requests: the first has the reserved permit, the second the borrowed one, the
    third has to wait. -/
def threeInteractive : List Action :=
  [.acquirePendingRequest .interactive none, .proceed 0,
    .acquirePendingRequest .interactive none, .proceed 1,
    .acquirePendingRequest .interactive none, .proceed 2,
    .acquireUpstream 0 false, .proceed 3, .wake 3,
    .acquireUpstream 1 true, .proceed 4, .wake 4,
    .acquireUpstream 2 true, .proceed 5]

theorem reserved_capacity_threeInteractive :
    ∃ past s, replay narrowLimits threeInteractive = some (past, s) ∧
      s.scheduler.upstream.interactiveWaiters = [5] ∧
      s.scheduler.limits.interactiveReservedUpstream
        ≤ s.activeUpstream .interactive .reserved + s.activeUpstream .interactive .general := by
  have hwaits : (replay narrowLimits threeInteractive).map
      (fun x => x.2.scheduler.upstream.interactiveWaiters) = some [5] := by decide
  obtain ⟨⟨past, s⟩, hrun, hs⟩ := Option.map_eq_some_iff.mp hwaits
  exact ⟨past, s, hrun, hs,
    (reserved_capacity (runs_replay hrun)).2.2.2.2.2.2.2.2.2 fun hnil => by cases hs.symm.trans hnil⟩

end Scheduling
