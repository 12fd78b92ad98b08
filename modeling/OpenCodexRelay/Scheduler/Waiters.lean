/-
  The waiters of the boundaries are the goroutines that wait.

  A boundary knows a waiter from the section in which it joins a queue to the section in which its
  goroutine collects the grant or withdraws — granted or not.  In between, the goroutine stands in
  the call that waits there.  Nobody else removes it and nobody joins twice, so the number of times
  that a boundary knows a ticket is one where the call waits, and none elsewhere.

  1. `Boundaries.line`: the line at each queue; `known`: how often a ticket is known at a place.
  2. `section_lines`: a section changes each line as its label announces, and so does every step
     (`Linked.lines`).
  3. `linked_of_runs`: in every state of every run the waiters are the calls that wait.  Where no
     call waits, every queue is empty and no grant is left behind (`Linked.idle`).
-/
import OpenCodexRelay.Scheduler.Turns

namespace Scheduling

open Queueing

/-- The queues; a place is a queue and what is asked for there. -/
inductive Queue where
  | limiter (k : LimiterStage)
  | slots
  | bytes
  | upstream (lane : Lane)
  deriving DecidableEq

def Place.queue : Place → Queue
  | .limiter k => .limiter k
  | .slots => .slots
  | .bytes _ => .bytes
  | .upstream lane => .upstream lane

namespace Label

/-- What a label says about a queue. -/
def change (label : Label) (x : Queue) : Change (Ticket × Place) :=
  match label with
  | .neither => .idle
  | .takes t y => if y.queue = x then .takes (t, y) else .idle
  | .joins t y => if y.queue = x then .joins (t, y) else .idle
  | .leaves t y collects => if y.queue = x then .leaves (t, y) collects else .idle

/-- What a label adds to the waiters of a place. -/
def joined (label : Label) (u : Ticket) (y : Place) : ℕ :=
  (label.change y.queue).joining.count (u, y)

/-- What a label takes from the waiters of a place. -/
def left (label : Label) (u : Ticket) (y : Place) : ℕ :=
  (label.change y.queue).leaving.count (u, y)

theorem joined_joins (t u : Ticket) (x y : Place) :
    (joins t x).joined u y = if t = u ∧ x = y then 1 else 0 := by
  simp only [joined, change]
  by_cases hxy : x = y
  · simp [hxy, Change.joining, List.count_singleton]
  · split <;> simp [hxy, Change.joining]

theorem left_leaves (t u : Ticket) (x y : Place) (collects : Bool) :
    (leaves t x collects).left u y = if t = u ∧ x = y then 1 else 0 := by
  simp only [left, change]
  by_cases hxy : x = y
  · simp [hxy, Change.leaving, List.count_singleton]
  · split <;> simp [hxy, Change.leaving]

theorem left_joins (t u : Ticket) (x y : Place) : (joins t x).left u y = 0 := by
  simp only [left, change]
  split <;> rfl

theorem joined_leaves (t u : Ticket) (x y : Place) (collects : Bool) :
    (leaves t x collects).joined u y = 0 := by
  simp only [joined, change]
  split <;> rfl

theorem moved_takes (t u : Ticket) (x y : Place) :
    (takes t x).left u y = 0 ∧ (takes t x).joined u y = 0 := by
  simp only [left, joined, change]
  split <;> exact ⟨rfl, rfl⟩

end Label

namespace Boundaries

/-- **The line at each queue.** -/
def line (b : Boundaries) : Queue → Line (Ticket × Place)
  | .limiter k => (b.limiter k).station.toLine.map (·, .limiter k)
  | .slots => b.pending.slots.toLine.map (·, .slots)
  | .bytes => b.pending.encoded.toLine.map fun w => (w.ticket, .bytes w.bytes)
  | .upstream lane => (b.upstream.line lane).map (·, .upstream lane)

/-- **How often a ticket is known at a place.** -/
def known (b : Boundaries) (u : Ticket) (y : Place) : ℕ := (b.line y.queue).tickets.count (u, y)

variable {b b' : Boundaries} {label : Label}

theorem queue_of_mem {x : Queue} {w : Ticket × Place} (h : w ∈ (b.line x).tickets) :
    w.2.queue = x := by
  rw [Line.tickets, List.mem_append] at h
  cases x <;> obtain h | h := h <;> obtain ⟨_, -, rfl⟩ := List.mem_map.mp h <;> rfl

theorem ticket_injective (y : Place) : Function.Injective fun t : Ticket => (t, y) :=
  fun _ _ h => (Prod.mk.inj h).1

theorem waiter_injective : Function.Injective fun w : QuotaWaiter => (w.ticket, Place.bytes w.bytes) :=
  fun _ _ h => QuotaWaiter.ext (Prod.mk.inj h).1 (Place.bytes.inj (Prod.mk.inj h).2)

/-- A section of a limiter. -/
theorem lines_limiter {k : LimiterStage} {l : FifoLimiter} {c : Change Ticket}
    (h : (b.limiter k).Acts c l) (hl : b'.limiter = Function.update b.limiter k l)
    (hq : b'.pending = b.pending) (hu : b'.upstream = b.upstream)
    (hchange : ∀ x, label.change x = if .limiter k = x then c.map (·, .limiter k) else .idle) :
    ∀ x, (b.line x).Moves (label.change x) (b'.line x) := by
  intro x
  rw [hchange]
  split
  · rename_i heq
    subst heq
    simp only [line, hl, Function.update_self]
    exact h.station.moves.map (ticket_injective _)
  · rename_i hne
    have hsame : b'.line x = b.line x := by
      cases x with
      | limiter k' => simp only [line, hl, Function.update_of_ne fun heq => hne (congrArg _ heq.symm)]
      | _ => simp only [line, hq, hu]
    rw [hsame]
    exact Line.moves_idle _

/-- A section of the pending quota. -/
theorem lines_pending {q : PendingQuota} {cs : Change Ticket} {cb : Change QuotaWaiter}
    (h : b.pending.Acts cs cb q) (hslots : label.change .slots = cs.map (·, .slots))
    (hbytes : label.change .bytes = cb.map fun w => (w.ticket, .bytes w.bytes))
    (hlimiter : ∀ k, label.change (.limiter k) = .idle)
    (hupstream : ∀ lane, label.change (.upstream lane) = .idle) :
    ∀ x, (b.line x).Moves (label.change x) ({ b with pending := q }.line x) := by
  intro x
  cases x with
  | slots =>
    rw [hslots]
    exact h.slots.moves.map (ticket_injective _)
  | bytes =>
    rw [hbytes]
    exact h.bytes.moves.map waiter_injective
  | limiter k =>
    rw [hlimiter]
    exact Line.moves_idle _
  | upstream lane =>
    rw [hupstream]
    exact Line.moves_idle _

/-- A section of the upstream pool. -/
theorem lines_upstream {u : UpstreamPool} {lane : Lane} {c : Change Ticket} {leases : List Lease}
    (h : ∀ lane', (b.upstream.line lane').Moves (if lane' = lane then c else .idle) (u.line lane'))
    (hchange : ∀ x, label.change x = if .upstream lane = x then c.map (·, .upstream lane) else .idle) :
    ∀ x, (b.line x).Moves (label.change x) ({ b with upstream := u, leases := leases }.line x) := by
  intro x
  rw [hchange]
  cases x with
  | upstream lane' =>
    have hmoves := (h lane').map (ticket_injective (.upstream lane'))
    by_cases heq : lane' = lane
    · subst heq
      rw [if_pos rfl] at hmoves ⊢
      exact hmoves
    · rw [if_neg heq] at hmoves
      rw [if_neg fun he => heq (Queue.upstream.inj he).symm]
      exact hmoves
  | _ => exact Line.moves_idle _

/-- **A section changes each line as its label says**, provided that whoever leaves a lane has its
    grant in that lane. -/
theorem section_lines (hsec : Section label b b')
    (hlane : ∀ t lane collects, label = .leaves t (.upstream lane) collects →
      ∀ g, b.upstream.grantOf t = some g → g.lane = lane) :
    ∀ x, (b.line x).Moves (label.change x) (b'.line x) := by
  cases hsec with
  | idle => exact fun _ => Line.moves_idle _
  | enterAtOnce h | enterQueue h =>
    exact lines_limiter (FifoLimiter.enter_acts h) rfl rfl rfl fun _ => rfl
  | collect h => exact lines_limiter (FifoLimiter.collect_acts h) rfl rfl rfl fun _ => rfl
  | withdraw => exact lines_limiter (FifoLimiter.withdraw_acts _ _) rfl rfl rfl fun _ => rfl
  | release => exact lines_limiter (FifoLimiter.release_acts _) rfl rfl rfl fun _ => (ite_self _).symm
  | upstreamEnter => exact lines_upstream (UpstreamPool.enter_line _ _ _) fun _ => rfl
  | @upstreamCollect _ t lane u g h =>
    obtain rfl := hlane _ _ _ rfl g (UpstreamPool.collect_some h).1
    exact lines_upstream (UpstreamPool.collect_line h) fun _ => rfl
  | upstreamWithdraw =>
    exact lines_upstream (UpstreamPool.withdraw_line (hlane _ _ _ rfl)) fun _ => rfl
  | @upstreamRelease _ i lane kind =>
    have hidle : ∀ lane', (b.upstream.line lane').Moves (if lane' = lane then .idle else .idle)
        ((b.upstream.release lane kind).line lane') := fun lane' => by
      rw [ite_self]
      exact UpstreamPool.release_line _ _ _ _
    exact lines_upstream hidle fun x => by cases x <;> simp [Label.change, Change.map]
  | acquireAtOnce h | acquireQueue h =>
    exact lines_pending (PendingQuota.acquireRequest_acts h) rfl rfl (fun _ => rfl) fun _ => rfl
  | collectRequest h =>
    exact lines_pending (PendingQuota.collectRequest_acts h) rfl rfl (fun _ => rfl) fun _ => rfl
  | withdrawRequest =>
    exact lines_pending (PendingQuota.withdrawRequest_acts _ _) rfl rfl (fun _ => rfl) fun _ => rfl
  | reserveAtOnce h | reserveQueue h =>
    exact lines_pending (PendingQuota.reserveBytes_acts h) rfl rfl (fun _ => rfl) fun _ => rfl
  | collectBytes h =>
    exact lines_pending (PendingQuota.collectBytes_acts h) rfl rfl (fun _ => rfl) fun _ => rfl
  | withdrawBytes =>
    exact lines_pending (PendingQuota.withdrawBytes_acts _ _) rfl rfl (fun _ => rfl) fun _ => rfl
  | releaseBytes =>
    exact lines_pending (PendingQuota.releaseBytes_acts _ _) rfl rfl (fun _ => rfl) fun _ => rfl
  | releaseRequest =>
    exact lines_pending (PendingQuota.releaseRequest_acts _ _) rfl rfl (fun _ => rfl) fun _ => rfl

/-- Who is known changes by what the label announces, provided that whoever leaves is known. -/
theorem known_of_lines (hlines : ∀ x, (b.line x).Moves (label.change x) (b'.line x))
    (hleaves : ∀ x, (label.change x).leaving ⊆ (b.line x).tickets) (u : Ticket) (y : Place) :
    b'.known u y + label.left u y = b.known u y + label.joined u y := by
  have hcount := ((hlines y.queue).perm (hleaves y.queue)).count_eq (u, y)
  rw [List.count_append, List.count_append] at hcount
  unfold known Label.left Label.joined
  omega

end Boundaries

/-! ## Waiters and calls -/

namespace State

/-- **The waiters are the calls that wait.** -/
structure Linked (s : State) : Prop where
  once : ∀ u y, s.Waits u y → s.boundaries.known u y = 1
  never : ∀ u y, ¬ s.Waits u y → s.boundaries.known u y = 0

variable {s s' : State} {a : Action}

theorem waits_unique {t : Ticket} {x y : Place} (hx : s.Waits t x) (hy : s.Waits t y) : x = y := by
  obtain ⟨c, hc, hx⟩ := hx
  obtain ⟨c', hc', hy⟩ := hy
  obtain rfl := Option.some.inj (hc.symm.trans hc')
  exact Option.some.inj (hx.symm.trans hy)

namespace Linked

theorem waits_of_mem (h : s.Linked) {u : Ticket} {y : Place}
    (hmem : (u, y) ∈ (s.boundaries.line y.queue).tickets) : s.Waits u y := by
  by_contra hno
  exact List.count_eq_zero.mp (h.never u y hno) hmem

theorem mem_of_waits (h : s.Linked) {u : Ticket} {y : Place} (hw : s.Waits u y) :
    (u, y) ∈ (s.boundaries.line y.queue).tickets :=
  List.count_pos_iff.mp (Nat.lt_of_lt_of_eq Nat.one_pos (h.once u y hw).symm)

/-- A call has its grant in the lane it waits in. -/
theorem lane_eq (h : s.Linked) {t : Ticket} {lane : Lane} (hw : s.Waits t (.upstream lane)) {g : Grant}
    (hg : s.scheduler.upstream.grantOf t = some g) : g.lane = lane := by
  have hgranted : (t, .upstream g.lane) ∈ (s.boundaries.line (.upstream g.lane)).tickets :=
    List.mem_append_right _ (List.mem_map_of_mem (UpstreamPool.granted_line hg))
  exact Place.upstream.inj (waits_unique (h.waits_of_mem (y := .upstream g.lane) hgranted) hw)

/-- **Every step changes each line as its label says.** -/
theorem lines (h : s.Linked) (hs : s.step a = some s') (x : Queue) :
    (s.boundaries.line x).Moves ((s.label a).change x) (s'.boundaries.line x) := by
  refine Boundaries.section_lines (step_section hs) (fun t lane collects hlabel g hg => ?_) x
  have hfollows := step_follows hs
  rw [hlabel] at hfollows
  exact h.lane_eq hfollows.1 hg

/-- Whoever leaves a line is in it. -/
theorem leaving_subset (h : s.Linked) (hs : s.step a = some s') (x : Queue) :
    ((s.label a).change x).leaving ⊆ (s.boundaries.line x).tickets := by
  have hfollows := step_follows hs
  generalize s.label a = label at hfollows
  cases label with
  | leaves t y collects =>
    simp only [Label.change]
    split
    · rename_i heq
      subst heq
      exact List.cons_subset.mpr ⟨h.mem_of_waits hfollows.1, List.nil_subset _⟩
    · exact List.nil_subset _
  | neither => exact List.nil_subset _
  | takes t y | joins t y =>
    simp only [Label.change]
    split <;> exact List.nil_subset _

/-- **Every step keeps the waiters and the calls together.** -/
theorem step (h : s.Linked) (hs : s.step a = some s') : s'.Linked := by
  have hfollows := step_follows hs
  have hknown := Boundaries.known_of_lines (h.lines hs) (h.leaving_subset hs)
  generalize s.label a = label at hfollows hknown
  cases label with
  | neither =>
    refine ⟨fun u y hw => ?_, fun u y hw => ?_⟩
    · exact (hknown u y).trans (h.once u y ((hfollows u y).mp hw))
    · exact (hknown u y).trans (h.never u y fun hw' => hw ((hfollows u y).mpr hw'))
  | takes t x =>
    simp only [Label.moved_takes, add_zero] at hknown
    refine ⟨fun u y hw => ?_, fun u y hw => ?_⟩
    · exact (hknown u y).trans (h.once u y ((hfollows u y).mp hw))
    · exact (hknown u y).trans (h.never u y fun hw' => hw ((hfollows u y).mpr hw'))
  | joins t x =>
    obtain ⟨hnew, hwaits⟩ := hfollows
    simp only [Label.left_joins, Label.joined_joins, add_zero] at hknown
    refine ⟨fun u y hw => ?_, fun u y hw => ?_⟩
    · rw [hknown u y]
      rcases (hwaits u y).mp hw with ⟨rfl, rfl⟩ | hw
      · rw [h.never u y (hnew y), if_pos ⟨rfl, rfl⟩]
      · rw [h.once u y hw, if_neg]
        rintro ⟨rfl, rfl⟩
        exact hnew x hw
    · rw [hwaits u y] at hw
      rw [hknown u y, h.never u y fun hw' => hw (.inr hw'), if_neg]
      rintro ⟨rfl, rfl⟩
      exact hw (.inl ⟨rfl, rfl⟩)
  | leaves t x collects =>
    obtain ⟨hwas, hwaits⟩ := hfollows
    simp only [Label.left_leaves, Label.joined_leaves, add_zero] at hknown
    refine ⟨fun u y hw => ?_, fun u y hw => ?_⟩
    · obtain ⟨hne, hw⟩ := (hwaits u y).mp hw
      have hu := hknown u y
      rw [if_neg fun heq => hne heq.1.symm, h.once u y hw] at hu
      exact hu
    · have hu := hknown u y
      rw [hwaits u y] at hw
      by_cases heq : t = u
      · subst heq
        by_cases hxy : x = y
        · subst hxy
          rw [if_pos ⟨rfl, rfl⟩, h.once t x hwas] at hu
          omega
        · rw [h.never t y fun hw' => hxy (waits_unique hwas hw')] at hu
          omega
      · rw [h.never u y fun hw' => hw ⟨fun he => heq he.symm, hw'⟩] at hu
        omega

end Linked

theorem Fresh.line (h : s.Fresh) (x : Queue) : s.boundaries.line x = ⟨[], []⟩ := by
  obtain ⟨-, hs⟩ := h.scheduler_eq
  unfold boundaries
  rw [hs]
  cases x with
  | upstream lane => cases lane <;> rfl
  | _ => rfl

theorem linked_of_fresh (h : s.Fresh) : s.Linked := by
  refine ⟨fun u y hw => ?_, fun u y _ => ?_⟩
  · obtain ⟨-, -, -, -, -, hcalls⟩ := h
    obtain ⟨c, hc, -⟩ := hw
    simp [hcalls] at hc
  · rw [Boundaries.known, h.line]
    rfl

end State

variable {past : List (State × Action)} {s : State}

theorem linked_of_runs (h : Runs past s) : s.Linked :=
  h.state (fun _ => State.linked_of_fresh) fun _ _ _ hI hstep => hI.step hstep

/-- **Where no call waits, nobody is left behind**: every queue is empty and every grant has been
    collected. -/
theorem State.Linked.idle (h : s.Linked) (hidle : ∀ u y, ¬ s.Waits u y) (x : Queue) :
    (s.boundaries.line x).waiters = [] ∧ (s.boundaries.line x).granted = [] := by
  refine List.append_eq_nil_iff.mp (List.eq_nil_iff_forall_not_mem.mpr fun w hw => ?_)
  obtain rfl := Boundaries.queue_of_mem hw
  exact hidle w.1 w.2 (h.waits_of_mem hw)

end Scheduling
