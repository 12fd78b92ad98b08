/-
  First come, first served — and exactly one outcome.

  A goroutine that asks a boundary for its share either gets it at once or waits.  A wait ends in one
  of two sections: the goroutine finds itself granted and takes its share, or its context or its timer
  ends the wait and it withdraws, giving back what it was granted in the meantime.  Both can be ready
  at the same time; which of them runs is left to the scheduler of the language.

  1. `log`: the history of a queue in a run — who came, who was granted, who has its share and who
     gave up.
  2. `Entered`: a call comes to a queue once.
  3. `Outcome`: what a section leaves in the hands of the call that ran it.
  4. `fifo_exactly_one`: all of it, in every state of every run.
-/
import OpenCodexRelay.Scheduler.Accounts
import OpenCodexRelay.Scheduler.Permits
import OpenCodexRelay.Scheduler.Waiters

namespace Scheduling

open Queueing

/-! ## The history of a queue -/

/-- **The history of a queue in a run.** -/
def log (x : Queue) : List (State × Action) → Log (Ticket × Place)
  | [] => ⟨[], [], [], []⟩
  | (s, a) :: past =>
    match s.step a with
    | some s' => (log x past).add (s.boundaries.line x) ((s.label a).change x) (s'.boundaries.line x)
    | none => log x past

variable {s s' : State} {past : List (State × Action)}

theorem log_step {a : Action} (h : s.step a = some s') (x : Queue) :
    log x ((s, a) :: past) =
      (log x past).add (s.boundaries.line x) ((s.label a).change x) (s'.boundaries.line x) := by
  simp only [log, h]

/-! ## A call comes once -/

/-- The calls that have not turned to their queue yet. -/
def Call.starts : Call → Bool
  | .reserveStart _ _ | .upstreamStart _ _ => true
  | _ => false

/-- Who comes to a queue. -/
def Label.newcomer : Label → Option Ticket
  | .takes t _ | .joins t _ => some t
  | _ => none

namespace State

/-- A call that has turned to its queue, if it has one. -/
def Entered (s : State) (t : Ticket) : Prop := ∃ c, s.calls[t]? = some c ∧ c.starts = false

variable {s s' : State} {a : Action} {label : Label} {t u : Ticket} {c c' : Call}

theorem entered_append (hcalls : s'.calls = s.calls ++ [c]) (h : s.Entered u) : s'.Entered u := by
  obtain ⟨c', hc', hstarts⟩ := h
  refine ⟨c', ?_, hstarts⟩
  rw [hcalls, List.getElem?_append_left (List.getElem?_eq_some_iff.mp hc').1]
  exact hc'

theorem entered_set (hcalls : s'.calls = s.calls.set t c) (hstarts : c.starts = false)
    (h : s.Entered u) : s'.Entered u := by
  obtain ⟨c', hc', hstarts'⟩ := h
  have hu := (List.getElem?_eq_some_iff.mp hc').1
  by_cases heq : t = u
  · subst heq
    exact ⟨c, by rw [hcalls, List.getElem?_set_self hu], hstarts⟩
  · exact ⟨c', by rw [hcalls, List.getElem?_set_ne heq]; exact hc', hstarts'⟩

theorem entered_same (hcalls : s'.calls = s.calls) (h : s.Entered u) : s'.Entered u := by
  unfold Entered
  rw [hcalls]
  exact h

/-- No call goes back. -/
theorem Turn.entered (hturn : s.Turn a label s') (h : s.Entered u) : s'.Entered u := by
  cases hturn with
  | answers | enterAtOnce | enterQueue | acquireAtOnce | acquireQueue | reserveBytes | releaseBytes
  | close | handoffPassthrough | acquireUpstream => exact entered_append rfl h
  | jobReleased | releaseJob => exact entered_same rfl h
  | releaseLease hl => exact entered_same (releaseLease_frame hl).2.2.1 h
  | returnInterrupted _ hl | leaseReturned _ hl =>
    exact entered_set (calls_leaseReturn hl _ _ _) rfl h
  | withdrawBytes | reserveRefused | reserveTooLarge | granted | reserveReturn | releaseReturn
  | finishedOp | finishClosed | handedOff => exact entered_set (calls_unlock_returns _ _ _ _) rfl h
  | _ => exact entered_set rfl rfl h

theorem not_entered_new (s : State) : ¬ s.Entered s.calls.length := by
  rintro ⟨c, hc, -⟩
  simp at hc

theorem not_entered_start (hc : s.calls[t]? = some c) (hstarts : c.starts = true) : ¬ s.Entered t := by
  rintro ⟨c', hc', hstarts'⟩
  obtain rfl := Option.some.inj (hc.symm.trans hc')
  cases hstarts.symm.trans hstarts'

/-- **Whoever comes to a queue comes for the first time.** -/
theorem Turn.arrives (hturn : s.Turn a label s') (ht : label.newcomer = some t) :
    ¬ s.Entered t ∧ s'.Entered t := by
  cases hturn with
  | enterAtOnce | enterQueue | acquireAtOnce | acquireQueue =>
    cases ht
    exact ⟨not_entered_new s, _, List.getElem?_concat_length, rfl⟩
  | reserveAtOnce hc | reserveQueue hc | enterUpstream hc =>
    cases ht
    exact ⟨not_entered_start hc rfl, _, List.getElem?_set_self (List.getElem?_eq_some_iff.mp hc).1, rfl⟩
  | _ => cases ht

end State

/-- Those that come to a queue with a section. -/
theorem Label.came_eq (label : Label) (x : Queue) :
    (label.change x).taken ++ (label.change x).joining = [] ∨
      ∃ t y, label.newcomer = some t ∧ (label.change x).taken ++ (label.change x).joining = [(t, y)] := by
  cases label with
  | neither => exact .inl rfl
  | leaves t y collects =>
    simp only [change]
    split <;> exact .inl rfl
  | takes t y | joins t y =>
    simp only [change]
    split
    · exact .inr ⟨t, y, rfl, rfl⟩
    · exact .inl rfl

theorem log_fits (h : Runs past s) (x : Queue) : (log x past).Fits (s.boundaries.line x) := by
  refine h.invariant (I := fun past s => (log x past).Fits (s.boundaries.line x)) (fun s hs => ?_)
    fun past s a s' hruns hI hstep => ?_
  · rw [hs.line]
    exact ⟨List.Sublist.refl _, .refl _⟩
  · rw [log_step hstep]
    exact hI.add ((linked_of_runs hruns).lines hstep x) ((linked_of_runs hruns).leaving_subset hstep x)

/-- Nobody comes twice. -/
theorem came_nodup (h : Runs past s) (x : Queue) :
    (∀ w ∈ (log x past).came, s.Entered w.1) ∧ ((log x past).came.map Prod.fst).Nodup := by
  refine h.invariant
    (I := fun past s => (∀ w ∈ (log x past).came, s.Entered w.1) ∧ ((log x past).came.map Prod.fst).Nodup)
    (fun s hs => ⟨nofun, List.nodup_nil⟩) fun past s a s' hruns hI hstep => ?_
  have hturn := State.step_turn hstep
  obtain ⟨hentered, hnodup⟩ := hI
  have hkept : ∀ w ∈ (log x past).came, s'.Entered w.1 := fun w hw => hturn.entered (hentered w hw)
  rw [log_step hstep]
  simp only [Log.add]
  rcases (s.label a).came_eq x with hnobody | ⟨t, y, hnew, hcame⟩
  · rw [hnobody, List.append_nil]
    exact ⟨hkept, hnodup⟩
  · obtain ⟨hbefore, hafter⟩ := hturn.arrives hnew
    rw [hcame]
    constructor
    · intro w hw
      rcases List.mem_append.mp hw with hw | hw
      · exact hkept w hw
      · obtain rfl := List.mem_singleton.mp hw
        exact hafter
    · rw [List.map_append]
      refine hnodup.append (List.nodup_singleton t) fun u hu hu' => ?_
      obtain ⟨w, hw, rfl⟩ := List.mem_map.mp hu
      obtain rfl := List.mem_singleton.mp hu'
      exact hbefore (hentered w hw)

/-! ## What a section leaves with its call -/

namespace State

/-- The share of a place is in the hands of a call: a new lease, or a slot or bytes on which it goes
    on. -/
def HandsOver (s s' : State) (t : Ticket) : Place → Prop
  | .limiter k =>
    s'.leases = s.leases ++ [⟨.limiter k, false⟩] ∧
      s'.calls[t]? = some (.returned (.ok (.lease s.leases.length)))
  | .slots =>
    s'.held everyone .slot = s.held everyone .slot + 1 ∧
      ∃ lane, s'.calls[t]? = some (.requestAdmitted lane)
  | .bytes count =>
    s'.held everyone .byte = s.held everyone .byte + count ∧
      ∃ p, s'.calls[t]? = some (.reserveGranted p count)
  | .upstream lane =>
    ∃ kind p job, s'.leases = s.leases ++ [⟨.upstream lane kind, false⟩] ∧
      s'.calls[t]? = some (.upstreamGranted p job s.leases.length)

/-- A call has the error of what ended its wait, and nobody has more than before. -/
def Fails (s s' : State) (t : Ticket) : Prop :=
  s'.leases = s.leases ∧ (∀ g, s'.held everyone g = s.held everyone g) ∧
    ∃ i stage, s'.calls[t]? = some (.returned (.error (Interrupt.error stage i))) ∨
      ∃ p, s'.calls[t]? = some (.upstreamFailed p (Interrupt.error stage i))

/-- **The outcome of a section.** -/
def Outcome (s s' : State) : Label → Prop
  | .takes t y | .leaves t y true => s.HandsOver s' t y
  | .leaves t _ false => s.Fails s' t
  | .neither | .joins _ _ => True

variable {s s' : State} {a : Action} {t : Ticket}

theorem calls_set_self {c c' : Call} (hc : s.calls[t]? = some c) (hcalls : s'.calls = s.calls.set t c') :
    s'.calls[t]? = some c' := by
  rw [hcalls, List.getElem?_set_self (List.getElem?_eq_some_iff.mp hc).1]

theorem Linked.outcome (h : s.Linked) (hs : s.step a = some s') : s.Outcome s' (s.label a) := by
  have hheld : ∀ g, s'.held everyone g = s.held everyone g + s.moved everyone g a := fun g => held_step hs
  have hturn := step_turn hs
  generalize s.label a = label at hturn
  cases hturn with
  | enterAtOnce h => exact ⟨rfl, List.getElem?_concat_length⟩
  | acquireAtOnce hq =>
    refine ⟨(hheld .slot).trans ?_, _, List.getElem?_concat_length⟩
    simp [moved, entries, hq, Entry.amount]
  | collect hc => exact ⟨rfl, calls_set_self hc rfl⟩
  | collectRequest hc =>
    refine ⟨(hheld .slot).trans ?_, _, calls_set_self hc rfl⟩
    simp [moved, entries, hc, Entry.amount]
  | collectBytes hc =>
    refine ⟨(hheld .byte).trans ?_, _, calls_set_self hc rfl⟩
    simp [moved, entries, hc, Entry.amount]
  | reserveAtOnce hc hsmall hq =>
    refine ⟨(hheld .byte).trans ?_, _, calls_set_self hc rfl⟩
    simp [moved, entries, hc, hsmall, hq, Entry.amount]
  | @collectUpstream t p job lane u g hc hu =>
    obtain rfl : g.lane = lane := h.lane_eq ⟨_, hc, rfl⟩ (UpstreamPool.collect_some hu).1
    exact ⟨g.permit, p, job, rfl, calls_set_self hc rfl⟩
  | @withdraw t k i hc =>
    exact ⟨rfl, fun g => (hheld g).trans (add_zero _), i, k.stage, .inl (calls_set_self hc rfl)⟩
  | @withdrawRequest t lane i hc =>
    exact ⟨rfl, fun g => (hheld g).trans (add_zero _), i, .pendingRequest, .inl (calls_set_self hc rfl)⟩
  | @withdrawBytes t p count i hc =>
    exact ⟨by simp [returns, setCall, setPending], fun g => (hheld g).trans (add_zero _), i, .pendingBytes,
      .inl (calls_set_self hc (calls_unlock_returns _ _ _ _))⟩
  | @withdrawUpstream t p job lane i hc =>
    exact ⟨rfl, fun g => (hheld g).trans (add_zero _), i, .upstream, .inr ⟨p, calls_set_self hc rfl⟩⟩
  | _ => trivial

/-- A wait can always be cut short, and it can end well as soon as the waiter is granted. -/
theorem Linked.ends (h : s.Linked) {y : Place} (hw : s.Waits t y) :
    (∀ i, (s.step (.interrupt t i)).isSome) ∧
      ((s.step (.wake t)).isSome ↔ (t, y) ∈ (s.boundaries.line y.queue).granted) := by
  have hinjective := Boundaries.ticket_injective y
  obtain ⟨c, hc, hplace⟩ := id hw
  simp only [State.step, hc, Option.bind_some]
  cases c with
  | limiterWait k =>
    cases hplace
    refine ⟨fun _ => rfl, Iff.trans ?_ (List.mem_map_of_injective hinjective).symm⟩
    simp only [wake, Option.isSome_map, FifoLimiter.collect]
    split <;> simpa
  | requestWait lane =>
    cases hplace
    refine ⟨fun _ => rfl, Iff.trans ?_ (List.mem_map_of_injective hinjective).symm⟩
    simp only [wake, Option.isSome_map, PendingQuota.collectRequest]
    split <;> simpa
  | reserveWait p count =>
    cases hplace
    refine ⟨fun _ => rfl, Iff.trans ?_
      (List.mem_map_of_injective Boundaries.waiter_injective (a := ⟨t, count⟩)).symm⟩
    simp only [wake, Option.isSome_map, PendingQuota.collectBytes]
    split <;> simpa
  | upstreamWait p job lane =>
    cases hplace
    refine ⟨fun _ => rfl, Iff.trans ?_ (List.mem_map_of_injective hinjective).symm⟩
    simp only [wake, Option.isSome_map, UpstreamPool.collect]
    constructor
    · intro hsome
      obtain ⟨g, hg⟩ := Option.isSome_iff_exists.mp hsome
      obtain rfl := h.lane_eq hw hg
      exact UpstreamPool.granted_line hg
    · intro hmem
      obtain ⟨g, hg, rfl⟩ := List.mem_map.mp hmem
      exact List.find?_isSome.mpr ⟨g, (List.mem_filter.mp hg).1, beq_self_eq_true _⟩
  | _ => cases hplace

end State

/-! ## Every state of every run -/

/-- **First come, first served, and exactly one outcome.**  In every state of every run, at every
    queue:

    * those that were granted and those that still wait stand in the order in which they came, and
      nobody comes twice — so nobody is granted while an earlier one waits;
    * whoever came waits, or is granted and has not looked, or has its share, or gave up, and only one
      of these;
    * a step that delivers leaves a new lease, a slot or the bytes with the call, one that withdraws
      leaves the error and nothing else;
    * whoever waits can give up at any time, and can take its share as soon as it is granted;
    * and every counter is what the callers have and what was granted and has not been collected. -/
theorem fifo_exactly_one (h : Runs past s) :
    (∀ x, ((log x past).went ++ (s.boundaries.line x).waiters).Sublist (log x past).came ∧
      ((log x past).came.map Prod.fst).Nodup) ∧
    (∀ x, ((s.boundaries.line x).waiters ++ (s.boundaries.line x).granted ++
      ((log x past).delivered ++ (log x past).withdrawn)).Perm (log x past).came) ∧
    (∀ a s', s.step a = some s' → s.Outcome s' (s.label a)) ∧
    (∀ t y, s.Waits t y → (∀ i, (s.step (.interrupt t i)).isSome) ∧
      ((s.step (.wake t)).isSome ↔ (t, y) ∈ (s.boundaries.line y.queue).granted)) ∧
    (∀ k, (s.scheduler.limiter k).active =
      s.boundaries.out (.limiter k) + (s.scheduler.limiter k).granted.length) ∧
    s.scheduler.pending.requests =
      s.held everyone .slot + s.scheduler.pending.grantedRequests.length ∧
    s.scheduler.pending.bytes =
      s.held everyone .byte + (s.scheduler.pending.grantedBytes.map QuotaWaiter.bytes).sum ∧
    s.scheduler.upstream.usedGeneral =
      s.activeUpstream .general .general + s.activeUpstream .interactive .general ∧
    s.scheduler.upstream.usedReserve = s.activeUpstream .interactive .reserved := by
  have hlinked := linked_of_runs h
  have hpermitted := permitted_of_runs h
  have hbalanced := balanced_of_runs h
  refine ⟨fun x => ⟨(log_fits h x).order, (came_nodup h x).2⟩, fun x => (log_fits h x).once,
    fun a s' hs => hlinked.outcome hs, fun t y hw => hlinked.ends hw, fun k => ?_, ?_, ?_,
    hpermitted.books.2.general, hpermitted.books.2.reserve⟩
  · have hout : (s.scheduler.limiter k).out = s.boundaries.out (.limiter k) := hpermitted.limiter k
    unfold FifoLimiter.out at hout
    omega
  · have hout := hbalanced.slots
    unfold PendingQuota.slotsOut at hout
    omega
  · have hout := hbalanced.bytes
    unfold PendingQuota.bytesOut at hout
    omega

/-- Two goroutines wait for a limiter of one; the first gives up when it has already been granted. -/
def lateCancellation : List Action :=
  [.acquireLimiter .transform none, .acquireLimiter .transform none, .acquireLimiter .transform none,
    .releaseLease 0, .interrupt 1 .canceled, .wake 2]

theorem fifo_exactly_one_lateCancellation :
    ∃ past s, replay { narrowLimits with maxConcurrentTransforms := 1 } lateCancellation =
        some (past, s) ∧
      (log (.limiter .transform) past).went.map Prod.fst = [0, 1, 2] ∧
      (log (.limiter .transform) past).delivered.map Prod.fst = [0, 2] ∧
      (log (.limiter .transform) past).withdrawn.map Prod.fst = [1] ∧
      ((log (.limiter .transform) past).came.map Prod.fst).Nodup := by
  have hlog : (replay { narrowLimits with maxConcurrentTransforms := 1 } lateCancellation).map
      (fun x => ((log (.limiter .transform) x.1).went.map Prod.fst,
        (log (.limiter .transform) x.1).delivered.map Prod.fst,
        (log (.limiter .transform) x.1).withdrawn.map Prod.fst)) = some ([0, 1, 2], [0, 2], [1]) := by
    decide
  obtain ⟨⟨past, s⟩, hrun, hs⟩ := Option.map_eq_some_iff.mp hlog
  simp only [Prod.mk.injEq] at hs
  exact ⟨past, s, hrun, hs.1, hs.2.1, hs.2.2, ((fifo_exactly_one (runs_replay hrun)).1 _).2⟩

end Scheduling
