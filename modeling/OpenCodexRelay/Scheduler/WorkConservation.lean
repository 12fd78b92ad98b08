/-
  Work conservation — who waits although they could go on?

  Capacity is handed to waiters only at DISPATCH POINTS.  Whoever gives capacity back dispatches, a
  limiter and the request queue compare every waiter with the same counter, and the upstream pool
  dispatches whenever a waiter joins or leaves.  The byte queue is different: its waiters ask for
  different amounts, so the head may be too large while the one behind it fits.  If the head gives
  up, the source removes it from the queue and returns — and the next one keeps waiting in front of
  bytes that are free, until somebody else gives some back.

  1. `section_requestsServed`, `section_bytesServed`: the two queues of the pending quota over one
     critical section.  The second says exactly which section leaves a waiter behind.
  2. `workConserving_iff`: a run conserves work in each of its states if and only if none of its
     steps uncovers a waiter that fits.
  3. `strandedWaiter`: three clients and one cancellation.
-/
import OpenCodexRelay.Scheduler.Accounts
import OpenCodexRelay.Scheduler.Permits

namespace Scheduling

open Queueing
open Boundaries

namespace Boundaries

variable {b b' : Boundaries} {label : Label}

theorem section_requestsServed (hsec : Section label b b') (h : b.pending.RequestsServed) :
    b'.pending.RequestsServed := by
  cases hsec with
  | acquireAtOnce hq | acquireQueue hq => exact (PendingQuota.acquireRequest_acts hq).requestsServed h
  | collectRequest hq => exact (PendingQuota.collectRequest_acts hq).requestsServed h
  | withdrawRequest => exact (PendingQuota.withdrawRequest_acts _ _).requestsServed h
  | reserveAtOnce hq | reserveQueue hq => exact (PendingQuota.reserveBytes_acts hq).requestsServed h
  | collectBytes hq => exact (PendingQuota.collectBytes_acts hq).requestsServed h
  | withdrawBytes => exact (PendingQuota.withdrawBytes_acts _ _).requestsServed h
  | releaseBytes => exact (PendingQuota.releaseBytes_acts _ _).requestsServed h
  | releaseRequest => exact (PendingQuota.releaseRequest_acts _ _).requestsServed h
  | _ => exact h

/-- The waiter for bytes that withdraws in a section, if there is one. -/
def withdrawn : Label → Option QuotaWaiter
  | .leaves t (.bytes count) false => some ⟨t, count⟩
  | _ => none

/-- **The one section that can leave a waiter behind** is the withdrawal of a waiter for bytes, and
    it does so exactly if it uncovers one that fits. -/
theorem section_bytesServed (hsec : Section label b b') (h : b.pending.BytesServed) :
    b'.pending.BytesServed ↔ ∀ w ∈ withdrawn label, ¬ b.pending.Uncovers w := by
  -- Every other section keeps the queue served, and its label names no withdrawn waiter.
  have hkept {label : Label} (hlabel : withdrawn label = none) (hb : b'.pending.BytesServed) :
      b'.pending.BytesServed ↔ ∀ w ∈ withdrawn label, ¬ b.pending.Uncovers w := by
    simp [hlabel, hb]
  cases hsec with
  | @withdrawBytes w =>
    rw [PendingQuota.withdrawBytes_served h]
    simp [withdrawn]
  | acquireAtOnce hq | acquireQueue hq =>
    exact hkept rfl ((PendingQuota.acquireRequest_acts hq).bytesServed nofun h)
  | collectRequest hq => exact hkept rfl ((PendingQuota.collectRequest_acts hq).bytesServed nofun h)
  | withdrawRequest => exact hkept rfl ((PendingQuota.withdrawRequest_acts _ _).bytesServed nofun h)
  | reserveAtOnce hq | reserveQueue hq =>
    exact hkept rfl ((PendingQuota.reserveBytes_acts hq).bytesServed nofun h)
  | collectBytes hq => exact hkept rfl ((PendingQuota.collectBytes_acts hq).bytesServed nofun h)
  | releaseBytes => exact hkept rfl ((PendingQuota.releaseBytes_acts _ _).bytesServed nofun h)
  | releaseRequest => exact hkept rfl ((PendingQuota.releaseRequest_acts _ _).bytesServed nofun h)
  | _ => exact hkept rfl h

end Boundaries

namespace State

/-- **Nobody who queues could go on**: the head of the byte queue asks for more than is free, a
    queued request finds the request limit reached, a queued caller of a limiter its capacity used
    up; a queued general waiter finds the general permits exhausted, a queued interactive one both
    pools. -/
structure WorkConserving (s : State) : Prop where
  bytes : ∀ w ∈ s.scheduler.pending.byteWaiters.head?,
    w.bytes > s.scheduler.limits.maxPendingBytes - s.scheduler.pending.bytes
  requests : s.scheduler.pending.requestWaiters ≠ [] →
    s.scheduler.limits.maxPendingRequests ≤ s.scheduler.pending.requests
  limiter : ∀ k, (s.scheduler.limiter k).waiters ≠ [] →
    s.scheduler.limits.capacity k ≤ (s.scheduler.limiter k).active
  general : s.scheduler.upstream.generalWaiters ≠ [] →
    s.scheduler.limits.maxGeneralUpstream ≤ s.scheduler.upstream.usedGeneral
  interactive : s.scheduler.upstream.interactiveWaiters ≠ [] →
    s.scheduler.limits.interactiveReservedUpstream ≤ s.scheduler.upstream.usedReserve ∧
      s.scheduler.limits.maxGeneralUpstream ≤ s.scheduler.upstream.usedGeneral

/-- A step cuts short the wait of a call of `ReserveBytes` that queues at the head, and what the one
    behind it asks for is free. -/
def Strands (s : State) : Action → Prop
  | .interrupt t _ =>
    ∃ p count, s.calls[t]? = some (.reserveWait p count) ∧
      s.scheduler.pending.Uncovers ⟨t, count⟩
  | _ => False

end State

variable {past : List (State × Action)} {s s' : State} {a : Action}

/-- The label of a step names a withdrawn waiter exactly if a wait for bytes is cut short. -/
theorem withdrawn_label (s : State) (a : Action) :
    (∀ w ∈ withdrawn (s.label a), ¬ s.scheduler.pending.Uncovers w) ↔ ¬ s.Strands a := by
  cases a with
  | acquireLimiter k refused | acquirePendingRequest lane refused =>
    cases refused <;> simp only [State.label, State.Strands]
    · split <;> simp [withdrawn]
    · simp [withdrawn]
  | wake t =>
    simp only [State.label, State.leaving, State.Strands]
    split
    · simp [withdrawn]
    · simp [withdrawn]
  | interrupt t i =>
    simp only [State.label, State.leaving, State.Strands]
    cases hc : s.calls[t]? with
    | none => simp [withdrawn]
    | some c => cases c <;> simp [Call.place, withdrawn]
  | proceed t =>
    simp only [State.label, State.Strands]
    split
    · split_ifs <;> simp [withdrawn]
    · split <;> simp [withdrawn]
    · simp [withdrawn]
  | _ => simp [State.label, State.Strands, withdrawn]

theorem requestsServed_of_runs (h : Runs past s) : s.scheduler.pending.RequestsServed := by
  refine h.state (I := fun s => s.scheduler.pending.RequestsServed) (fun s hs => ?_)
    fun s a s' hI hstep => Boundaries.section_requestsServed (State.step_section hstep) hI
  rw [hs.scheduler_eq.2]
  exact fun hne => absurd rfl hne

/-- In a state of a run only the byte queue is in question. -/
theorem workConserving_iff_bytesServed (h : Runs past s) :
    s.WorkConserving ↔ s.scheduler.pending.BytesServed := by
  have hbalanced := balanced_of_runs h
  have hp := permitted_of_runs h
  constructor
  · intro hwc w hw
    rw [hbalanced.maxBytes]
    exact hwc.bytes w hw
  · intro hserved
    refine ⟨fun w hw => ?_, fun hne => ?_, fun k hne => ?_, fun hne => ?_, fun hne => ⟨?_, ?_⟩⟩
    · rw [← hbalanced.maxBytes]
      exact hserved w hw
    · rw [← hbalanced.maxRequests]
      exact requestsServed_of_runs h hne
    · exact (hp.capacity k).symm.trans_le (hp.limiterServed k hne)
    · exact hp.maxGeneral.symm.trans_le (hp.served.1 hne)
    · exact hp.maxReserved.symm.trans_le (hp.served.2 hne).1
    · exact hp.maxGeneral.symm.trans_le (hp.served.2 hne).2

/-- **When exactly the scheduler conserves work.**  In a run nobody who queues could go on, in any
    of its states, if and only if no step of it cuts short the wait of the head of the byte queue
    while the bytes that the next one asks for are free. -/
theorem workConserving_iff (h : Runs past s) :
    ((∀ x ∈ past, x.1.WorkConserving) ∧ s.WorkConserving) ↔ ∀ x ∈ past, ¬ x.1.Strands x.2 := by
  refine @Run.throughout_iff _ _ _ _ State.WorkConserving (fun s a => ¬ s.Strands a)
    (fun s hs => ?_) (fun past s a s' hrun hwc hstep => ?_) past s h
  · refine (workConserving_iff_bytesServed (.start hs)).mpr ?_
    rw [hs.scheduler_eq.2]
    rintro w ⟨⟩
  · have hbytes := (workConserving_iff_bytesServed hrun).mp hwc
    calc s'.WorkConserving ↔ s'.scheduler.pending.BytesServed :=
          workConserving_iff_bytesServed (.step hrun hstep)
      _ ↔ ∀ w ∈ withdrawn (s.label a), ¬ s.scheduler.pending.Uncovers w :=
          Boundaries.section_bytesServed (State.step_section hstep) hbytes
      _ ↔ ¬ s.Strands a := withdrawn_label s a

/-- Six of ten bytes are reserved; one client waits for eight, the next for three; the first of the
    two is cancelled. -/
def strandedWaiter : List Action :=
  [.acquirePendingRequest .general none, .proceed 0,
    .acquirePendingRequest .general none, .proceed 1,
    .acquirePendingRequest .general none, .proceed 2,
    .reserveBytes 0 6, .proceed 3, .proceed 3,
    .reserveBytes 1 8, .proceed 4,
    .reserveBytes 2 3, .proceed 5,
    .interrupt 4 .canceled]

/-- **Three bytes are asked for, four are free, and the one who asks waits.** -/
theorem stranded_waiter :
    ∃ past s, replay narrowLimits strandedWaiter = some (past, s) ∧ Runs past s ∧
      s.scheduler.pending.byteWaiters = [⟨5, 3⟩] ∧ s.scheduler.pending.bytes = 6 ∧
      s.scheduler.limits.maxPendingBytes = 10 ∧ ¬ s.WorkConserving := by
  have hends : (replay narrowLimits strandedWaiter).map (fun x =>
      (x.2.scheduler.pending.byteWaiters, x.2.scheduler.pending.bytes,
        x.2.scheduler.limits.maxPendingBytes)) = some ([⟨5, 3⟩], 6, 10) := by decide
  obtain ⟨⟨past, s⟩, hrun, hs⟩ := Option.map_eq_some_iff.mp hends
  obtain ⟨hqueue, hbytes, hmax⟩ : s.scheduler.pending.byteWaiters = [⟨5, 3⟩] ∧
      s.scheduler.pending.bytes = 6 ∧ s.scheduler.limits.maxPendingBytes = 10 := by
    simpa using hs
  refine ⟨past, s, hrun, runs_replay hrun, hqueue, hbytes, hmax, fun hwc => ?_⟩
  have hhead := hwc.bytes ⟨5, 3⟩ (by simp [hqueue])
  rw [hbytes, hmax] at hhead
  exact absurd hhead (by decide)

/-- Without the cancellation the same run conserves work. -/
theorem workConserving_iff_patient :
    ∃ past s, replay narrowLimits strandedWaiter.dropLast = some (past, s) ∧
      (∀ x ∈ past, ¬ x.1.Strands x.2) ∧ s.WorkConserving := by
  have hends : (replay narrowLimits strandedWaiter.dropLast).map (fun x =>
      x.1.map Prod.snd) = some strandedWaiter.dropLast.reverse := by decide
  obtain ⟨⟨past, s⟩, hrun, hs⟩ := Option.map_eq_some_iff.mp hends
  have hcalm : ∀ x ∈ past, ¬ x.1.Strands x.2 := by
    intro x hx
    have hmem : x.2 ∈ strandedWaiter.dropLast.reverse := hs ▸ List.mem_map_of_mem hx
    obtain ⟨s', a⟩ := x
    cases a with
    | interrupt t i => simp [strandedWaiter] at hmem
    | _ => exact id
  exact ⟨past, s, hrun, hcalm, ((workConserving_iff (runs_replay hrun)).mpr hcalm).2⟩

end Scheduling
