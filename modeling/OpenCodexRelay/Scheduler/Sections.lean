/-
  What the critical sections do to the accounts — the laws of the three boundaries.

  A limiter is a `Station` of the queueing library, the pending quota is two of them with one dispatcher,
  and each of their critical sections ACTS on a station in one of the ways listed there.  Nothing else
  is used of the text of a section afterwards: what it hands to its caller, who stands in its line and
  that nobody waits in front of free capacity are laws of stations.

  1. `FifoLimiter.Acts`, `PendingQuota.Acts`: one lemma for each section.
  2. `withdrawBytes_served`: the one section that may leave a waiter in front of what is free is the
     withdrawal of a waiter for bytes.
  3. The upstream pool has two lines and shares its permits between them.  Its counters are functions
     of one table (`Books`), and each lane is a line (`UpstreamPool.line`).
-/
import OpenCodexRelay.Scheduler.Limiters
import Mathlib.Data.List.Perm.Basic

namespace Scheduling

open Queueing

/-- A queue whose head does not fit, where everybody asks for the same. -/
theorem stuck_below {s : Station Ticket} {bound : ℤ} :
    s.Stuck (below bound) ↔ (s.waiters ≠ [] → bound ≤ s.used) := by
  unfold Station.Stuck
  cases s.waiters with
  | nil => simp
  | cons w ws => simp [below]

theorem below_le {bound used : ℤ} {t : Ticket} (h : below bound used t = true) : used + 1 ≤ bound :=
  Int.add_one_le_of_lt (of_decide_eq_true h)

/-! ## A counter with one queue -/

namespace FifoLimiter

/-- What is in the hands of the callers. -/
def out (l : FifoLimiter) : ℤ := l.active - l.granted.length

/-- Nobody waits below the capacity. -/
def Served (l : FifoLimiter) : Prop := l.waiters ≠ [] → l.capacity ≤ l.active

def station (l : FifoLimiter) : Station Ticket := ⟨⟨l.waiters, l.granted⟩, l.active⟩

/-- A section of a limiter. -/
structure Acts (l : FifoLimiter) (c : Change Ticket) (l' : FifoLimiter) : Prop where
  capacity : l'.capacity = l.capacity
  station : Station.Acts (below l.capacity) (fun _ => 1) c l.station l'.station

variable {l l' : FifoLimiter} {t : Ticket} {c : Change Ticket}

theorem enter_acts {admitted : Bool} (h : l.enter t = (l', admitted)) :
    l.Acts (if admitted then .takes t else .joins t) l' := by
  unfold enter at h
  split at h <;> rename_i hfast <;> cases h
  · exact ⟨rfl, .takes (decide_eq_true hfast.1) hfast.2⟩
  · exact ⟨rfl, .queues fun h => hfast ⟨of_decide_eq_true h.1, h.2⟩⟩

theorem withdraw_acts (l : FifoLimiter) (t : Ticket) : l.Acts (.leaves t false) (l.withdraw t) := by
  unfold withdraw
  split
  · exact ⟨rfl, .returns ‹_›⟩
  · exact ⟨rfl, .withdraws ‹_›⟩

theorem collect_acts (h : l.collect t = some l') : l.Acts (.leaves t true) l' := by
  unfold collect at h
  split at h <;> cases h
  exact ⟨rfl, .collects ‹_›⟩

theorem release_acts (l : FifoLimiter) : l.Acts (.gives (if 0 < l.active then 1 else 0)) l.release := by
  have hactive : (if 0 < l.active then l.active - 1 else l.active) =
      l.active - if 0 < l.active then 1 else 0 := by
    split <;> omega
  unfold release
  rw [hactive]
  exact ⟨rfl, .gives⟩

theorem Acts.out (h : l.Acts c l') : l'.out = l.out + c.amount fun _ => 1 := by
  simpa [Station.out, FifoLimiter.station, FifoLimiter.out] using h.station.out

theorem Acts.le (h : l.Acts c l') (hsound : c.Sound fun _ => 1) (hl : l.active ≤ l.capacity) :
    l'.active ≤ l.capacity :=
  h.station.le (fun _ _ => below_le) (fun _ _ => zero_le_one) hsound hl

theorem Acts.served (h : l.Acts c l') (hl : l.Served) : l'.Served := by
  rw [Served, h.capacity]
  exact stuck_below.mp (h.station.stuck (stuck_below.mpr hl) (.inl fun _ _ => rfl))

end FifoLimiter

/-! ## Request slots and encoded bytes -/

namespace PendingQuota

/-- The slots in the hands of the callers. -/
def slotsOut (q : PendingQuota) : ℤ := q.requests - q.grantedRequests.length

/-- The bytes in the hands of the callers. -/
def bytesOut (q : PendingQuota) : ℤ := q.bytes - (q.grantedBytes.map QuotaWaiter.bytes).sum

def byteTickets (q : PendingQuota) : List QuotaWaiter := q.byteWaiters ++ q.grantedBytes

/-- Nobody waits for a slot below the limit. -/
def RequestsServed (q : PendingQuota) : Prop := q.requestWaiters ≠ [] → q.maxRequests ≤ q.requests

/-- The head of the byte queue does not fit. -/
def BytesServed (q : PendingQuota) : Prop :=
  ∀ w ∈ q.byteWaiters.head?, w.bytes > q.maxBytes - q.bytes

/-- The counters are within their limits. -/
def Within (q : PendingQuota) : Prop := q.requests ≤ q.maxRequests ∧ q.bytes ≤ q.maxBytes

def slots (q : PendingQuota) : Station Ticket := ⟨⟨q.requestWaiters, q.grantedRequests⟩, q.requests⟩

def encoded (q : PendingQuota) : Station QuotaWaiter := ⟨⟨q.byteWaiters, q.grantedBytes⟩, q.bytes⟩

def fitting (maxBytes : ℤ) : ℤ → QuotaWaiter → Bool := fun used w => !decide (w.bytes > maxBytes - used)

/-- A section of the quota: what it does to the one station and to the other. -/
structure Acts (q : PendingQuota) (slots : Change Ticket) (bytes : Change QuotaWaiter)
    (q' : PendingQuota) : Prop where
  maxRequests : q'.maxRequests = q.maxRequests
  maxBytes : q'.maxBytes = q.maxBytes
  slots : Station.Acts (below q.maxRequests) (fun _ => 1) slots q.slots q'.slots
  bytes : Station.Acts (fitting q.maxBytes) QuotaWaiter.bytes bytes q.encoded q'.encoded

variable {q q' : PendingQuota} {t : Ticket} {w : QuotaWaiter} {cs : Change Ticket}
  {cb : Change QuotaWaiter}

theorem fitting_iff {used : ℤ} : fitting q.maxBytes used w = true ↔ w.bytes ≤ q.maxBytes - used := by
  simp [fitting]

theorem Acts.same (q : PendingQuota) : q.Acts .idle .idle q := ⟨rfl, rfl, .idle, .idle⟩

theorem acquireRequest_acts {admitted : Bool} (h : q.acquireRequest t = (q', admitted)) :
    q.Acts (if admitted then .takes t else .joins t) .idle q' := by
  unfold acquireRequest at h
  split at h <;> rename_i hfast <;> cases h
  · exact ⟨rfl, rfl, .takes (decide_eq_true hfast.1) hfast.2, .idle⟩
  · exact ⟨rfl, rfl, .queues fun h => hfast ⟨of_decide_eq_true h.1, h.2⟩, .idle⟩

theorem withdrawRequest_acts (q : PendingQuota) (t : Ticket) :
    q.Acts (.leaves t false) .idle (q.withdrawRequest t) := by
  unfold withdrawRequest
  split
  · exact ⟨rfl, rfl, .returns ‹_›, .serves⟩
  · exact ⟨rfl, rfl, .withdraws ‹_›, .idle⟩

theorem collectRequest_acts (h : q.collectRequest t = some q') : q.Acts (.leaves t true) .idle q' := by
  unfold collectRequest at h
  split at h <;> cases h
  exact ⟨rfl, rfl, .collects ‹_›, .idle⟩

theorem reserveBytes_acts {admitted : Bool} (h : q.reserveBytes w = (q', admitted)) :
    q.Acts .idle (if admitted then .takes w else .joins w) q' := by
  unfold reserveBytes at h
  split at h <;> rename_i hfast <;> cases h
  · exact ⟨rfl, rfl, .idle, .takes (fitting_iff.mpr hfast.1) hfast.2⟩
  · exact ⟨rfl, rfl, .idle, .queues fun h => hfast ⟨fitting_iff.mp h.1, h.2⟩⟩

theorem withdrawBytes_acts (q : PendingQuota) (w : QuotaWaiter) :
    q.Acts .idle (.leaves w false) (q.withdrawBytes w) := by
  unfold withdrawBytes
  split
  · exact ⟨rfl, rfl, .serves, .returns ‹_›⟩
  · exact ⟨rfl, rfl, .idle, .withdraws ‹_›⟩

theorem collectBytes_acts (h : q.collectBytes w = some q') : q.Acts .idle (.leaves w true) q' := by
  unfold collectBytes at h
  split at h <;> cases h
  exact ⟨rfl, rfl, .idle, .collects ‹_›⟩

/-- What a release takes from a counter that it does not let fall below zero. -/
theorem sub_clamped (n count : ℤ) :
    (if n - count < 0 then 0 else n - count) = n - if n - count < 0 then n else count := by
  split <;> omega

theorem releaseBytes_acts (q : PendingQuota) (count : ℤ) :
    q.Acts .idle (.gives (if q.bytes - count < 0 then q.bytes else count)) (q.releaseBytes count) := by
  simp only [releaseBytes, sub_clamped]
  exact ⟨rfl, rfl, .serves, .gives⟩

theorem releaseRequest_acts (q : PendingQuota) (reserved : ℤ) :
    q.Acts (.gives (if 0 < q.requests then 1 else 0))
      (.gives (if q.bytes - reserved < 0 then q.bytes else reserved)) (q.releaseRequest reserved) := by
  have hrequests : (if 0 < q.requests then q.requests - 1 else q.requests) =
      q.requests - if 0 < q.requests then 1 else 0 := by
    split <;> omega
  simp only [releaseRequest, sub_clamped, hrequests]
  exact ⟨rfl, rfl, .gives, .gives⟩

theorem Acts.slotsOut (h : q.Acts cs cb q') : q'.slotsOut = q.slotsOut + cs.amount fun _ => 1 := by
  simpa [Station.out, PendingQuota.slots, PendingQuota.slotsOut] using h.slots.out

theorem Acts.bytesOut (h : q.Acts cs cb q') : q'.bytesOut = q.bytesOut + cb.amount QuotaWaiter.bytes :=
  h.bytes.out

theorem Acts.within (h : q.Acts cs cb q') (hslots : cs.Sound fun _ => 1)
    (hbytes : cb.Sound QuotaWaiter.bytes) (hgranted : ∀ w ∈ q.grantedBytes, 0 ≤ w.bytes)
    (hq : q.Within) : q'.Within := by
  rw [Within, h.maxRequests, h.maxBytes]
  refine ⟨h.slots.le (fun _ _ => below_le) (fun _ _ => zero_le_one) hslots hq.1,
    h.bytes.le (fun used w hw => ?_) hgranted hbytes hq.2⟩
  have := fitting_iff.mp hw
  omega

theorem Acts.requestsServed (h : q.Acts cs cb q') (hq : q.RequestsServed) : q'.RequestsServed := by
  rw [RequestsServed, h.maxRequests]
  exact stuck_below.mp (h.slots.stuck (stuck_below.mpr hq) (.inl fun _ _ => rfl))

theorem stuck_fitting : q.encoded.Stuck (fitting q.maxBytes) ↔ q.BytesServed := by
  simp [Station.Stuck, fitting, encoded, BytesServed]

theorem Acts.bytesServed (h : q.Acts cs cb q') (hkeeps : ∀ w, cb ≠ .leaves w false)
    (hq : q.BytesServed) : q'.BytesServed := by
  rw [← stuck_fitting, h.maxBytes]
  exact h.bytes.stuck (stuck_fitting.mpr hq) (.inr fun w hw => absurd hw (hkeeps w))

/-- The waiter that withdraws is the head of the byte queue, and the one behind it fits. -/
def Uncovers (q : PendingQuota) (w : QuotaWaiter) : Prop :=
  w ∉ q.grantedBytes ∧ ∃ next rest, q.byteWaiters = w :: next :: rest ∧
    next.bytes ≤ q.maxBytes - q.bytes

/-- **Withdrawing keeps the queue served unless it uncovers a head that fits.** -/
theorem withdrawBytes_served (h : q.BytesServed) :
    (q.withdrawBytes w).BytesServed ↔ ¬ q.Uncovers w := by
  unfold withdrawBytes
  split
  · rename_i hgranted
    refine ⟨fun _ hu => hu.1 hgranted, fun _ => ?_⟩
    exact stuck_fitting.mp (serve_stuck _ _)
  · rename_i hgranted
    cases hqueue : q.byteWaiters with
    | nil =>
      refine ⟨fun _ hu => ?_, fun _ v hv => by simp at hv⟩
      obtain ⟨-, _, _, heq, -⟩ := hu
      rw [hqueue] at heq
      cases heq
    | cons head rest =>
      by_cases hw : head = w
      · subst hw
        -- The queue goes on with whoever stood behind the head.
        cases rest with
        | nil =>
          refine ⟨fun _ hu => ?_, fun _ v hv => by simp at hv⟩
          obtain ⟨-, _, _, heq, -⟩ := hu
          rw [hqueue] at heq
          cases heq
        | cons next rest =>
          constructor
          · rintro hserved ⟨-, next', rest', heq, hfits⟩
            rw [hqueue] at heq
            obtain ⟨rfl, rfl⟩ := by simpa using heq
            have := hserved next (by simp)
            simp only at this
            omega
          · intro hu v hv
            obtain rfl : next = v := by simpa using hv
            exact Int.not_le.mp fun hle => hu ⟨hgranted, next, rest, hqueue, hle⟩
      · -- The head stays.
        have herase : (head :: rest).erase w = head :: rest.erase w := by
          rw [List.erase_cons_tail (by simpa using hw)]
        constructor
        · rintro - ⟨-, _, _, heq, -⟩
          rw [hqueue] at heq
          exact hw (List.cons.inj heq).1
        · intro _ v hv
          rw [herase] at hv
          obtain rfl : head = v := by simpa using hv
          exact h head (by simp [hqueue])

end PendingQuota

/-! ## Upstream permits -/

namespace UpstreamPool

/-- The granted waiters of a lane and a kind that have not looked yet. -/
def undelivered (p : UpstreamPool) (lane : Lane) (kind : PermitKind) : ℤ :=
  p.granted.countP fun g => decide (g.lane = lane ∧ g.permit = kind)

/-- Nobody waits in front of a permit that could be granted. -/
def Served (p : UpstreamPool) : Prop :=
  (p.generalWaiters ≠ [] → p.maxGeneral ≤ p.usedGeneral) ∧
    (p.interactiveWaiters ≠ [] → p.maxReserved ≤ p.usedReserve ∧ p.maxGeneral ≤ p.usedGeneral)

def Within (p : UpstreamPool) : Prop :=
  p.usedGeneral ≤ p.maxGeneral ∧ p.usedReserve ≤ p.maxReserved

/-- The counters, if `n` permits of each lane and kind have been granted and not been given back: no
    general request has a reserved one. -/
structure Tally (p : UpstreamPool) (n : Lane → PermitKind → ℤ) : Prop where
  general : p.usedGeneral = n .general .general + n .interactive .general
  reserve : p.usedReserve = n .interactive .reserved
  generalLane : p.activeGeneralLane = n .general .general
  interactiveLane : p.activeInteractiveLane = n .interactive .reserved + n .interactive .general
  borrowed : p.borrowedInteractive = n .interactive .general
  unreserved : n .general .reserved = 0

/-- **The books**: what has been granted is what the callers have out and what they have not
    collected. -/
def Books (p : UpstreamPool) (out : Lane → PermitKind → ℤ) : Prop :=
  (∀ lane kind, 0 ≤ out lane kind) ∧ p.Tally fun lane kind => out lane kind + p.undelivered lane kind

variable {p p' : UpstreamPool} {t : Ticket} {lane : Lane} {kind : PermitKind}
  {out : Lane → PermitKind → ℤ}

theorem undelivered_nonneg (p : UpstreamPool) (lane : Lane) (kind : PermitKind) :
    0 ≤ p.undelivered lane kind :=
  Int.natCast_nonneg _

/-- What a dispatch adds to the uncollected grants of a lane and a kind. -/
theorem undelivered_dispatch (p : UpstreamPool) (lane : Lane) (kind : PermitKind) :
    p.dispatchLocked.undelivered lane kind = p.undelivered lane kind +
      match lane, kind with
      | .interactive, .reserved =>
        ((serveBelow p.maxReserved p.usedReserve p.interactiveWaiters).granted.length : ℤ)
      | .general, .general =>
        ((serveBelow p.maxGeneral p.usedGeneral p.generalWaiters).granted.length : ℤ)
      | .interactive, .general =>
        ((serveBelow p.maxGeneral (serveBelow p.maxGeneral p.usedGeneral p.generalWaiters).used
          (serveBelow p.maxReserved p.usedReserve p.interactiveWaiters).left).granted.length : ℤ)
      | .general, .reserved => 0 := by
  cases lane <;> cases kind <;>
    simp [dispatchLocked, undelivered, List.countP_map, Function.comp_def]

theorem dispatch_books (h : p.Books out) : p.dispatchLocked.Books out := by
  obtain ⟨hn, hg, hr, hgl, hil, hb, hu⟩ := h
  refine ⟨hn, ?_, ?_, ?_, ?_, ?_, (congrArg _ (undelivered_dispatch p _ _)).trans (by simpa using hu)⟩
    <;> simp only [undelivered_dispatch] <;>
    simp only [dispatchLocked, serveBelow_used] <;> omega

theorem dispatch_within (h : p.Within) : p.dispatchLocked.Within :=
  ⟨serveBelow_le _ _ _ (serveBelow_le _ _ _ h.1), serveBelow_le _ _ _ h.2⟩

theorem dispatch_served (p : UpstreamPool) : p.dispatchLocked.Served := by
  refine ⟨fun hne => ?_, fun hne => ⟨?_, ?_⟩⟩
  · -- The loop over the interactive queue only adds to the general permits in use.
    have hgeneral := serveBelow_stuck _ _ _ hne
    simp only [dispatchLocked]
    rw [serveBelow_used]
    omega
  · refine serveBelow_stuck p.maxReserved _ _ fun hnil => hne ?_
    simp only [dispatchLocked, hnil]
    rfl
  · exact serveBelow_stuck _ _ _ hne

theorem enter_books (h : p.Books out) : (p.enter lane t).Books out := by
  cases lane <;> exact dispatch_books ⟨h.1, h.2.1, h.2.2, h.2.3, h.2.4, h.2.5, h.2.6⟩

theorem enter_within (h : p.Within) : (p.enter lane t).Within := by
  cases lane <;> exact dispatch_within h

theorem enter_served (p : UpstreamPool) (lane : Lane) (t : Ticket) : (p.enter lane t).Served := by
  cases lane <;> exact dispatch_served _

/-- What is out after a caller gave one permit back. -/
def returned (out : Lane → PermitKind → ℤ) (lane : Lane) (kind : PermitKind) :
    Lane → PermitKind → ℤ :=
  fun l k => if l = lane ∧ k = kind then out l k - 1 else out l k

theorem releaseGrant_undelivered (p : UpstreamPool) (lane : Lane) (kind : PermitKind) (l : Lane)
    (k : PermitKind) : (p.releaseGrantLocked lane kind).undelivered l k = p.undelivered l k := by
  cases lane <;> cases kind <;> rfl

/-- Giving back what was granted: every counter it touches is positive, so none of the tests against
    zero holds anything back. -/
theorem releaseGrant_tally {n : Lane → PermitKind → ℤ} (h : p.Tally n)
    (hn : ∀ lane kind, 0 ≤ n lane kind) (hpos : 0 < n lane kind) :
    (p.releaseGrantLocked lane kind).Tally (returned n lane kind) := by
  obtain ⟨hg, hr, hgl, hil, hb, hu⟩ := h
  have h1 := hn .interactive .general
  have h2 := hn .interactive .reserved
  have h3 := hn .general .general
  cases lane <;> cases kind
  case general.reserved => omega
  all_goals
    refine ⟨?_, ?_, ?_, ?_, ?_, ?_⟩ <;> simp [releaseGrantLocked, returned] <;> omega

theorem release_books (h : p.Books out) (hpos : 0 < out lane kind) :
    (p.release lane kind).Books (returned out lane kind) := by
  refine dispatch_books ⟨fun l k => ?_, ?_⟩
  · have hn := h.1 l k
    unfold returned
    split
    · rename_i heq
      obtain ⟨rfl, rfl⟩ := heq
      omega
    · exact hn
  · have htally := @releaseGrant_tally p lane kind _ h.2
      (fun l k => Int.add_nonneg (h.1 l k) (undelivered_nonneg p l k))
      (Int.add_pos_of_pos_of_nonneg hpos (undelivered_nonneg p lane kind))
    have heq : (fun l k => returned out lane kind l k + (p.releaseGrantLocked lane kind).undelivered
        l k) = returned (fun l k => out l k + p.undelivered l k) lane kind := by
      funext l k
      rw [releaseGrant_undelivered]
      simp only [returned]
      split <;> omega
    rw [heq]
    exact htally

theorem releaseGrant_within (h : p.Within) : (p.releaseGrantLocked lane kind).Within := by
  obtain ⟨hg, hr⟩ := h
  have hg' : (if 0 < p.usedGeneral then p.usedGeneral - 1 else p.usedGeneral) ≤ p.maxGeneral := by
    split <;> omega
  have hr' : (if 0 < p.usedReserve then p.usedReserve - 1 else p.usedReserve) ≤ p.maxReserved := by
    split <;> omega
  cases lane <;> cases kind
  exacts [⟨hg', hr⟩, ⟨hg, hr'⟩, ⟨hg', hr⟩, ⟨hg, hr'⟩]

theorem release_within (h : p.Within) : (p.release lane kind).Within :=
  dispatch_within (releaseGrant_within h)

theorem release_served (p : UpstreamPool) (lane : Lane) (kind : PermitKind) :
    (p.release lane kind).Served :=
  dispatch_served _

/-- What is out after a caller collected its grant. -/
def collected (out : Lane → PermitKind → ℤ) (g : Grant) : Lane → PermitKind → ℤ :=
  fun l k => if l = g.lane ∧ k = g.permit then out l k + 1 else out l k

/-- The pool without a grant that somebody collected. -/
def without (p : UpstreamPool) (g : Grant) : UpstreamPool := { p with granted := p.granted.erase g }

variable {g : Grant}

theorem without_books (h : p.Books out) (hmem : g ∈ p.granted) :
    (p.without g).Books (collected out g) := by
  have heq : (fun l k => collected out g l k + (p.without g).undelivered l k)
      = fun l k => out l k + p.undelivered l k := by
    funext l k
    unfold undelivered without collected
    rw [(List.perm_cons_erase hmem).countP_eq, List.countP_cons]
    simp only [decide_eq_true_eq, eq_comm (a := g.lane), eq_comm (a := g.permit)]
    split <;> push_cast <;> omega
  refine ⟨fun l k => ?_, ?_⟩
  · have hn := h.1 l k
    unfold collected
    split <;> omega
  · rw [heq]
    exact ⟨h.2.1, h.2.2, h.2.3, h.2.4, h.2.5, h.2.6⟩

theorem grantOf_some (h : p.grantOf t = some g) : g ∈ p.granted ∧ g.ticket = t :=
  ⟨List.mem_of_find?_eq_some h, by simpa using List.find?_some h⟩

theorem withdraw_books (h : p.Books out) : (p.withdraw lane t).Books out := by
  unfold withdraw
  split
  · rename_i g hg
    have hbooks := without_books h (grantOf_some hg).1
    have hpos : 0 < collected out g g.lane g.permit := by
      have hn := h.1 g.lane g.permit
      simp only [collected, and_self, if_true]
      omega
    have heq : returned (collected out g) g.lane g.permit = out := by
      funext l k
      unfold returned collected
      split <;> omega
    have hreleased := release_books hbooks hpos
    rw [heq] at hreleased
    exact hreleased
  · cases lane <;> exact dispatch_books ⟨h.1, h.2.1, h.2.2, h.2.3, h.2.4, h.2.5, h.2.6⟩

theorem withdraw_within (h : p.Within) : (p.withdraw lane t).Within := by
  unfold withdraw
  split
  · exact release_within h
  · cases lane <;> exact dispatch_within h

theorem withdraw_served (p : UpstreamPool) (lane : Lane) (t : Ticket) :
    (p.withdraw lane t).Served := by
  unfold withdraw
  split
  · exact release_served _ _ _
  · cases lane <;> exact dispatch_served _

/-- The sizes of the two pools do not change. -/
theorem enter_max (p : UpstreamPool) (lane : Lane) (t : Ticket) :
    (p.enter lane t).maxGeneral = p.maxGeneral ∧ (p.enter lane t).maxReserved = p.maxReserved := by
  cases lane <;> exact ⟨rfl, rfl⟩

theorem release_max (p : UpstreamPool) (lane : Lane) (kind : PermitKind) :
    (p.release lane kind).maxGeneral = p.maxGeneral ∧
      (p.release lane kind).maxReserved = p.maxReserved := by
  cases lane <;> cases kind <;> exact ⟨rfl, rfl⟩

theorem withdraw_max (p : UpstreamPool) (lane : Lane) (t : Ticket) :
    (p.withdraw lane t).maxGeneral = p.maxGeneral ∧
      (p.withdraw lane t).maxReserved = p.maxReserved := by
  unfold withdraw
  split
  · exact release_max _ _ _
  · cases lane <;> exact ⟨rfl, rfl⟩

theorem collect_some (h : p.collect t = some (p', g)) :
    p.grantOf t = some g ∧ p' = p.without g := by
  obtain ⟨g', hg, heq⟩ := Option.map_eq_some_iff.mp h
  obtain ⟨rfl, rfl⟩ := Prod.mk.inj heq
  exact ⟨hg, rfl⟩

/-! ### The two lines -/

/-- The line of a lane. -/
def line (p : UpstreamPool) (lane : Lane) : Line Ticket where
  waiters := match lane with
    | .general => p.generalWaiters
    | .interactive => p.interactiveWaiters
  granted := (p.granted.filter (·.lane = lane)).map (·.ticket)

theorem dispatch_line (p : UpstreamPool) (lane : Lane) :
    ∃ served, (p.line lane).Serves served (p.dispatchLocked.line lane) := by
  have hr := serveBelow_split p.maxReserved p.usedReserve p.interactiveWaiters
  have hb := serveBelow_split p.maxGeneral
    (serveBelow p.maxGeneral p.usedGeneral p.generalWaiters).used
    (serveBelow p.maxReserved p.usedReserve p.interactiveWaiters).left
  cases lane with
  | general =>
    refine ⟨_, serveBelow_split p.maxGeneral p.usedGeneral p.generalWaiters, ?_⟩
    simp [line, dispatchLocked, List.filter_map, Function.comp_def]
  | interactive =>
    refine ⟨(serveBelow p.maxReserved p.usedReserve p.interactiveWaiters).granted ++
      (serveBelow p.maxGeneral (serveBelow p.maxGeneral p.usedGeneral p.generalWaiters).used
        (serveBelow p.maxReserved p.usedReserve p.interactiveWaiters).left).granted, ?_, ?_⟩
    · simp only [line, dispatchLocked]
      rw [List.append_assoc, hb, hr]
    · simp [line, dispatchLocked, List.filter_map, Function.comp_def]

/-- A section that ends in a dispatch. -/
theorem moves_dispatch {c : Change Ticket} {lane : Lane} (htakes : ∀ w, c ≠ .takes w)
    (hcollects : ∀ w, c ≠ .leaves w true) (h : p'.line lane = (p.line lane).after c) :
    (p.line lane).Moves c (p'.dispatchLocked.line lane) := by
  obtain ⟨served, hserves⟩ := dispatch_line p' lane
  exact ⟨fun w hw => absurd hw (htakes w), fun w hw => absurd hw (hcollects w), served, h ▸ hserves⟩

theorem enter_line (p : UpstreamPool) (lane : Lane) (t : Ticket) (lane' : Lane) :
    (p.line lane').Moves (if lane' = lane then .joins t else .idle) ((p.enter lane t).line lane') := by
  cases lane <;> cases lane' <;> exact moves_dispatch nofun nofun rfl

theorem releaseGrant_line (p : UpstreamPool) (lane : Lane) (kind : PermitKind) (lane' : Lane) :
    (p.releaseGrantLocked lane kind).line lane' = p.line lane' := by
  cases lane <;> cases kind <;> rfl

theorem release_line (p : UpstreamPool) (lane : Lane) (kind : PermitKind) (lane' : Lane) :
    (p.line lane').Moves .idle ((p.release lane kind).line lane') :=
  moves_dispatch nofun nofun (releaseGrant_line p lane kind lane')

/-- The grant of a ticket is the first that bears it. -/
theorem erase_grantOf {grants : List Grant} (h : grants.find? (fun g => g.ticket == t) = some g) :
    ((grants.erase g).filter (·.lane = g.lane)).map (·.ticket) =
        ((grants.filter (·.lane = g.lane)).map (·.ticket)).erase t := by
  induction grants with
  | nil => cases h
  | cons x rest ih =>
    rw [List.find?_cons] at h
    split at h
    · rename_i hx
      obtain rfl := Option.some.inj h
      simp [beq_iff_eq.mp hx]
    · rename_i hx
      have hne : ¬ x = g := by
        rintro rfl
        have := List.find?_some h
        rw [hx] at this
        cases this
      rw [List.erase_cons_tail (by simpa using hne), List.filter_cons, List.filter_cons]
      split
      · rw [List.map_cons, List.map_cons, List.erase_cons_tail (by simpa using hx), ih h]
      · exact ih h

theorem granted_line (h : p.grantOf t = some g) : t ∈ (p.line g.lane).granted := by
  obtain ⟨hmem, rfl⟩ := grantOf_some h
  exact List.mem_map_of_mem (List.mem_filter.mpr ⟨hmem, decide_eq_true rfl⟩)

/-- Without a grant its ticket is in the line of its lane no longer. -/
theorem without_line (h : p.grantOf t = some g) (lane : Lane) (collects : Bool) :
    (p.without g).line lane =
      (p.line lane).after (if lane = g.lane then .leaves t collects else .idle) := by
  split
  · rename_i heq
    subst heq
    rw [Line.after, if_pos (granted_line h)]
    exact congrArg _ (erase_grantOf h)
  · rename_i hne
    have hfilter : (p.granted.erase g).filter (·.lane = lane) = p.granted.filter (·.lane = lane) := by
      rw [← List.erase_filter, List.erase_of_not_mem]
      intro hg
      exact hne (of_decide_eq_true (List.mem_filter.mp hg).2).symm
    simp [line, without, Line.after, hfilter]

theorem collect_line (h : p.collect t = some (p', g)) (lane : Lane) :
    (p.line lane).Moves (if lane = g.lane then .leaves t true else .idle) (p'.line lane) := by
  obtain ⟨hg, rfl⟩ := collect_some h
  refine ⟨fun w hw => ?_, fun w hw => ?_, [], ?_⟩
  · split at hw <;> cases hw
  · split at hw <;> cases hw
    rename_i heq
    exact heq ▸ granted_line hg
  · rw [← without_line hg]
    exact ⟨rfl, (List.append_nil _).symm⟩

/-- The lane of the caller is that of its grant. -/
theorem withdraw_line (hlane : ∀ g, p.grantOf t = some g → g.lane = lane) (lane' : Lane) :
    (p.line lane').Moves (if lane' = lane then .leaves t false else .idle)
      ((p.withdraw lane t).line lane') := by
  unfold withdraw
  cases hg : p.grantOf t with
  | some g =>
    obtain rfl := hlane g hg
    refine moves_dispatch (fun w => by split <;> nofun) (fun w => by split <;> nofun) ?_
    rw [releaseGrant_line]
    exact without_line hg lane' false
  | none =>
    have hungranted : t ∉ (p.line lane).granted := by
      intro h
      obtain ⟨g, hmem, rfl⟩ := List.mem_map.mp h
      have := List.find?_eq_none.mp hg g (List.mem_filter.mp hmem).1
      simp at this
    have hafter : (p.line lane).after (.leaves t false) =
        { p.line lane with waiters := (p.line lane).waiters.erase t } := if_neg hungranted
    cases lane <;> cases lane'
    · exact moves_dispatch nofun nofun hafter.symm
    · exact moves_dispatch nofun nofun rfl
    · exact moves_dispatch nofun nofun rfl
    · exact moves_dispatch nofun nofun hafter.symm

end UpstreamPool

end Scheduling
