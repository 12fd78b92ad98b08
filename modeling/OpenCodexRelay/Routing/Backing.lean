/-
  Which runtime the files rely on.

  The files never name the runtime that is in the memory of the relay, yet most of them only make
  sense beside a certain one: a state that admits traffic expects the runtime of its applied backend,
  and so does a state that a reconciliation may still turn back into such a state without asking the
  relay again.

  1. `Store.backing` is the backend whose runtime has to be there, `none` if it does not matter.
     `Store.owed` is a little more: it also counts the backend a switch under way has just applied.
  2. A write `Settles` if it demands nothing new of the relay.  The one kind of write that does demand
     something is the end of a switch, and it comes after the relay has confirmed the runtime:
     `progress` is how far the operation has got with that, `Honest` what is demanded of each event.
  3. `Backed` is the logic: the program is honest before or after a confirmation, and what `Advances`
     and `Waits` demand is shown in the same walk, as far as its `Aims` go.  `backed_runtime` is the
     rule for the question itself.
-/
import OpenCodexRelay.Routing.Advances

namespace OpenCodexRelay.Routing

open Durable

/-! ## The backend the files rely on -/

/-- The journal of a switch whose final state is already durable. -/
def State.finishes (s : State) (j : TransactionJournal) : Bool :=
  stableStateForBackend s s.appliedBackend && j.kind = .routingSwitch &&
    j.targetBackend = s.appliedBackend && j.stage = .configMutated

/-- Without a transaction the applied backend counts while it is admitted, or while a container
    operation may return to it. -/
def State.backing (s : State) (journal : ControlFile TransactionJournal)
    (witness : ControlFile RuntimeRoutingJournal) : Backend :=
  match journal with
  | .absent => if s.allowsDataPlane || witness ≠ .absent then s.appliedBackend else .none
  | .malformed => .none
  | .record j =>
    if s.finishes (normalizeTransactionJournal j) then s.appliedBackend else .none

/-- The state the files stand for.  Unlike `read` it does not mind the marker, which the first request
    of a legacy deployment writes just before the state. -/
def Store.standing (st : Store) (d : Disk) : Option State :=
  match d.state with
  | .absent => some (newRelayState st.configPath)
  | .malformed => none
  | .record s => (decodeState st.paths s st.configPath).toOption

/-- **The backend whose runtime has to be in the relay.** -/
def Store.backing (st : Store) (d : Disk) : Backend :=
  match st.standing d with
  | some s => s.backing d.journal d.runtimeRouting
  | none => .none

/-- A switch under way relies on its target as soon as the relay has applied it. -/
def State.owed (s : State) (journal : ControlFile TransactionJournal)
    (witness : ControlFile RuntimeRoutingJournal) : Backend :=
  if s.phase = .applying ∧ journal ≠ .absent then s.desiredBackend
  else if s.allowsDataPlane || (journal = .absent && witness ≠ .absent) then s.appliedBackend
  else .none

/-- The backend whose runtime some operation may already rely on. -/
def Store.owed (st : Store) (d : Disk) : Backend :=
  match st.standing d with
  | some s => s.owed d.journal d.runtimeRouting
  | none => .none

/-- A switch is under way. -/
def Store.switching (st : Store) (d : Disk) : Bool := (st.standing d).any fun s => s.phase = .applying

variable {legacy : Bool} {witness : ControlFile RuntimeRoutingJournal}
variable {journal : ControlFile TransactionJournal} {st : Store} {d : Disk} {target : Backend}
variable {generation : UInt64} {q : Query} {past : List Observed} {err : Err → Disk → Prop} {e : Err}

section Facts

variable {d' : Disk} {s : State}

/-- What can be read is what the files stand for. -/
theorem Store.standing_of_read (h : st.read d = .ok (s, legacy)) :
    st.standing d = some s := by
  unfold standing
  rcases read_cases h with ⟨-, stored, hstate, hdec⟩ | ⟨-, hstate, -, rfl⟩
  · rw [hstate]
    simp only [hdec]
    rfl
  · rw [hstate]

theorem Store.backing_of_read (h : st.read d = .ok (s, legacy)) :
    st.backing d = s.backing d.journal d.runtimeRouting := by
  unfold backing
  rw [standing_of_read h]

theorem Store.owed_of_read (h : st.read d = .ok (s, legacy)) :
    st.owed d = s.owed d.journal d.runtimeRouting := by
  unfold owed
  rw [standing_of_read h]

/-- A state that is not an end of a switch relies on nothing beside a journal. -/
theorem State.backing_journal (hj : journal ≠ .absent)
    (hs : s.phase = .applying ∨ s.phase = .recoveryRequired) :
    s.backing journal witness = .none := by
  cases journal with
  | absent => exact absurd rfl hj
  | malformed => rfl
  | record j =>
    have hstable : stableStateForBackend s s.appliedBackend = false := by
      unfold stableStateForBackend
      by_cases hb : s.appliedBackend = .none
      · rcases hs with h | h <;> simp [h, hb]
      · rcases hs with h | h <;> simp [h, hb]
    simp [backing, finishes, hstable]

/-- A state that admits nothing, without a witness. -/
theorem State.backing_unwitnessed (hs : s.phase = .applying ∨ s.phase = .recoveryRequired) :
    s.backing journal .absent = .none := by
  by_cases hj : journal = .absent
  · subst hj
    rcases hs with h | h <;> simp [backing, allowsDataPlane, h]
  · exact backing_journal hj hs

/-- Whatever the journal, a state relies on its applied backend or on nothing. -/
theorem State.backing_cases (s : State) (journal : ControlFile TransactionJournal)
    (witness : ControlFile RuntimeRoutingJournal) :
    s.backing journal witness = .none ∨ s.backing journal witness = s.appliedBackend := by
  unfold backing
  split
  · split_ifs
    · exact .inr rfl
    · exact .inl rfl
  · exact .inl rfl
  · split_ifs
    · exact .inr rfl
    · exact .inl rfl

theorem State.backing_native (hs : s.appliedBackend = .none) :
    s.backing journal witness = .none := by
  rcases s.backing_cases journal witness with h | h
  · exact h
  · exact h.trans hs

/-- **What has to be there is owed.** -/
theorem State.owed_of_backing (h : s.backing journal witness ≠ .none) :
    s.owed journal witness = s.backing journal witness := by
  unfold owed
  cases journal with
  | absent => simp [backing]
  | malformed => exact absurd rfl h
  | record j =>
    have hfin : s.finishes (normalizeTransactionJournal j) = true := by
      by_contra hno
      exact h (by simp [backing, hno])
    have hne : s.appliedBackend ≠ .none := fun hn => h (backing_native hn)
    have hactive : s.phase = .relayActive := by
      simp only [finishes, stableStateForBackend, Bool.and_eq_true, decide_eq_true_eq,
        if_neg hne] at hfin
      exact hfin.1.1.1.1.1.1.1.2
    simp [backing, hfin, hactive, allowsDataPlane]

theorem Store.owed_of_backing (h : st.backing d ≠ .none) : st.owed d = st.backing d := by
  unfold backing owed at *
  split
  · rename_i s hs
    rw [hs] at h
    exact State.owed_of_backing h
  · rfl

/-- The files that count. -/
def Disk.routing (d : Disk) : ControlFile State × ControlFile TransactionJournal ×
    ControlFile RuntimeRoutingJournal × ControlFile MaintenanceJournal :=
  (d.state, d.journal, d.runtimeRouting, d.maintenance)

theorem same_state (h : d'.routing = d.routing) : d'.state = d.state := congrArg Prod.fst h

theorem same_journal (h : d'.routing = d.routing) : d'.journal = d.journal := congrArg (·.2.1) h

theorem same_witness (h : d'.routing = d.routing) : d'.runtimeRouting = d.runtimeRouting :=
  congrArg (·.2.2.1) h

theorem same_maintenance (h : d'.routing = d.routing) : d'.maintenance = d.maintenance :=
  congrArg (·.2.2.2) h

theorem Store.standing_congr (h : d'.state = d.state) : st.standing d' = st.standing d := by
  unfold standing
  rw [h]

theorem Store.switching_congr (h : d'.state = d.state) : st.switching d' = st.switching d := by
  unfold switching
  rw [standing_congr h]

theorem Store.switching_of_read (h : st.read d = .ok (s, legacy)) :
    st.switching d = decide (s.phase = .applying) := by
  unfold switching
  rw [standing_of_read h]
  rfl

theorem Store.backing_congr (h : d'.routing = d.routing) : st.backing d' = st.backing d := by
  unfold backing
  rw [standing_congr (same_state h), same_journal h, same_witness h]

theorem Store.owed_congr (h : d'.routing = d.routing) : st.owed d' = st.owed d := by
  unfold owed
  rw [standing_congr (same_state h), same_journal h, same_witness h]

end Facts

/-! ## What is demanded of an event -/

/-- The state that lets the relay apply `target`, with the journal that stands for it. -/
def Store.Authorised (st : Store) (generation : UInt64) (target : Backend) (d : Disk) : Prop :=
  ∃ s, st.read d = .ok (s, false) ∧ s.phase = .applying ∧ s.generation = generation ∧
    s.desiredBackend = target ∧ d.journal ≠ .absent

theorem Store.Authorised.owed (h : st.Authorised generation target d) : st.owed d = target := by
  obtain ⟨s, hs, hphase, -, hdesired, hj⟩ := h
  rw [owed_of_read hs]
  unfold State.owed
  rw [if_pos ⟨hphase, hj⟩, hdesired]

/-- Meanwhile the files rely on nothing. -/
theorem Store.Authorised.backing (h : st.Authorised generation target d) :
    st.backing d = .none := by
  obtain ⟨s, hs, hphase, -, -, hj⟩ := h
  rw [backing_of_read hs]
  exact State.backing_journal hj (.inl hphase)

theorem Store.Authorised.switching (h : st.Authorised generation target d) :
    st.switching d = true := by
  obtain ⟨s, hs, hphase, -⟩ := h
  rw [switching_of_read hs]
  simp [hphase]

/-- The question is not for the relay's runtime. -/
def Query.aside : Query → Bool
  | .runtimeApply _ _ => false
  | _ => true

/-- How far an operation has got with the relay's runtime. -/
inductive Progress where
  | idle
  | asked (generation : UInt64) (target : Backend)
  /-- The relay has applied `target`, and the files have counted on it ever since. -/
  | confirmed (target : Backend)
  deriving DecidableEq

/-- One event more. -/
def Progress.after (st : Store) (p : Progress) : Observed → Progress
  | .asked (.runtimeApply generation target) _ => .asked generation target
  | .answered (.runtimeApply _ target) true => .confirmed target
  | .answered (.runtimeApply _ _) false => .idle
  | .wrote d d' => match p with
    | .confirmed target =>
      if st.owed d' = target ∧ (st.switching d' = true → st.switching d = true) then
        .confirmed target
      else .idle
    | _ => .idle
  | _ => p

def progress (st : Store) (past : List Observed) : Progress :=
  past.foldl (Progress.after st) .idle

/-- **What is demanded of an event**: the relay is asked for what the files authorise, and a write
    relies on nothing but what was relied on before, or what has been confirmed. -/
def Honest (st : Store) (past : List Observed) : Observed → Prop
  | .wrote d d' => st.backing d' = .none ∨ st.backing d' = st.backing d ∨
      progress st past = .confirmed (st.backing d')
  | .asked (.runtimeApply generation target) d => st.Authorised generation target d
  | _ => True

/-- The same demand without a memory: nothing has been confirmed (`none`), or a backend has. -/
def Settles (st : Store) (confirmed : Option Backend) : Observed → Prop
  | .wrote d d' => (st.backing d' = .none ∨ st.backing d' = st.backing d ∨
        confirmed = some (st.backing d')) ∧
      ∀ target ∈ confirmed, (st.owed d = target → st.owed d' = target) ∧
        (st.switching d' = true → st.switching d = true)
  | .asked (.runtimeApply _ _) _ => False
  | _ => True

section Progress

variable {confirmed : Option Backend}

@[simp] theorem progress_concat (e : Observed) :
    progress st (past ++ [e]) = (progress st past).after st e := by
  simp [progress, List.foldl_append]

@[simp] theorem progress_answered (q : Query) (d : Disk) (a : Bool) :
    progress st (past ++ [.asked q d, .answered q a]) =
      ((progress st past).after st (.asked q d)).after st (.answered q a) := by
  simp [progress, List.foldl_append]

/-- Any question but the one for the relay's runtime leaves the progress as it is. -/
theorem Settles.after (h : Settles st confirmed (.asked q d)) (p : Progress) (a : Bool) :
    (p.after st (.asked q d)).after st (.answered q a) = p := by
  cases q <;> first | rfl | exact h.elim

theorem Settles.honest (h : Settles st confirmed (.asked q d)) :
    Honest st past (.asked q d) := by
  cases q <;> trivial

end Progress

/-! ## What a walk shows -/

/-- **What a walk through the controller is to show**: that states grow (but for those `restored`
    allows), that waits are clean, that writes are backed.  A hypothesis that only one of the three
    needs is asked for only by that one. -/
structure Aims where
  restored : State → Disk → Prop
  grows : Prop
  waits : Prop
  backs : Prop

/-- What it shows of an event; `H` is the demand as far as the relay's runtime goes. -/
structure Conduct (c : Controller) (A : Aims) (H : Observed → Prop) (e : Observed) : Prop where
  grows : A.grows → Advances c A.restored e
  waits : A.waits → Waits c.store e
  backs : A.backs → H e

/-- What is demanded of the parts that do not ask for a runtime. -/
abbrev Settled (c : Controller) (A : Aims) (confirmed : Option Backend) : Observed → Prop :=
  Conduct c A (Settles c.store confirmed)

/-- The events so far have confirmed a backend, and it is owed. -/
def Confirmed (c : Controller) (A : Aims) (confirmed : Option Backend) (past : List Observed)
    (d : Disk) : Prop :=
  A.backs → ∀ target ∈ confirmed,
    progress c.store past = .confirmed target ∧ c.store.owed d = target

/-- **The program meets the demand**, whatever the operation has done before, or once a backend has
    been confirmed. -/
def Backed {α : Type} (c : Controller) (A : Aims) (confirmed : Option Backend) (p : Op α)
    (post : α → Disk → Prop) (d : Disk) : Prop :=
  ∀ past, Confirmed c A confirmed past d → Traced anyReply
    (fun past => Conduct c A (Honest c.store past)) p (fun a d' _ => post a d') d past

section Logic

variable {c : Controller} {A : Aims} {m : Option Backend} {α β : Type}
variable {post : α → Disk → Prop}

theorem confirmed_none (past : List Observed) : Confirmed c A none past d := fun _ _ h => nomatch h

theorem backed_ret {a : α} (h : post a d) : Backed c A m (.ret a) post d := fun _ _ => h

/-- A confirmation need not be used. -/
theorem Backed.by {p : Op α} (h : Backed c A none p post d) : Backed c A m p post d :=
  fun past _ => h past (confirmed_none past)

theorem Backed.mono {p : Op α} {post' : α → Disk → Prop} (h : Backed c A m p post d)
    (hpost : ∀ a d', post a d' → post' a d') : Backed c A m p post' d :=
  fun past hp => (h past hp).mono (fun _ _ hC => hC) fun a d' _ => hpost a d'

/-- **A part that asks for no runtime** keeps the confirmation for what follows. -/
theorem traced_settled {p : Op α} (h : Safe anyReply (Settled c A m) p post d)
    (hp : Confirmed c A m past d) :
    Traced anyReply (fun past => Conduct c A (Honest c.store past)) p
      (fun a d' past' => post a d' ∧ Confirmed c A m past' d') d past := by
  induction p generalizing d past with
  | ret a => exact ⟨h, hp⟩
  | read k ih => exact ih d h hp
  | write f k ih =>
    obtain ⟨hwrite, hrest⟩ := h
    refine ⟨⟨hwrite.grows, hwrite.waits, fun hb => ?_⟩, ih hrest fun hb target ht => ?_⟩
    · rcases (hwrite.backs hb).1 with hnone | hsame | htarget
      · exact .inl hnone
      · exact .inr (.inl hsame)
      · exact .inr (.inr (hp hb _ htarget).1)
    · obtain ⟨howed, hswitch⟩ := (hwrite.backs hb).2 target ht
      obtain ⟨hprogress, ho⟩ := hp hb target ht
      rw [progress_concat, hprogress]
      exact ⟨if_pos ⟨howed ho, hswitch⟩, howed ho⟩
  | call q k ih =>
    obtain ⟨hask, hrest⟩ := h
    refine ⟨⟨hask.grows, hask.waits, fun hb => (hask.backs hb).honest⟩, fun a ha =>
      ih a (hrest a ha) fun hb target ht => ?_⟩
    rw [progress_answered, (hask.backs hb).after]
    exact hp hb target ht

theorem backed_of_safe {p : Op α} (h : Safe anyReply (Settled c A m) p post d) :
    Backed c A m p post d :=
  fun _ hp => (traced_settled h hp).mono (fun _ _ hC => hC) fun _ _ _ h' => h'.1

theorem backed_bind {p : Op α} {k : α → Op β} {mid : α → Disk → Prop} {post : β → Disk → Prop}
    (hp : Safe anyReply (Settled c A m) p mid d)
    (hk : ∀ a d', mid a d' → Backed c A m (k a) post d') : Backed c A m (p >>= k) post d :=
  fun _ hpast => traced_bind ((traced_settled hp hpast).mono (fun _ _ hC => hC)
    fun a d' past' h => hk a d' h.1 past' h.2)

theorem backed_read {k : Disk → Op α} (h : Backed c A m (k d) post d) :
    Backed c A m (.read k) post d := h

theorem backed_ite {φ : Prop} [Decidable φ] {p q : Op α} (hp : φ → Backed c A m p post d)
    (hq : ¬ φ → Backed c A m q post d) : Backed c A m (if φ then p else q) post d := by
  by_cases h : φ
  · rw [if_pos h]
    exact hp h
  · rw [if_neg h]
    exact hq h

/-- Nothing is asked of an error. -/
class Lenient (post : Except Err α → Disk → Prop) : Prop where
  error : ∀ e d, post (.error e) d

instance {ok : α → Disk → Prop} : Lenient (outcome ok fun _ _ => True) := ⟨fun _ _ => trivial⟩

/-- Past a check that stops the operation. -/
theorem backed_unless {φ : Prop} [Decidable φ] {q : Op (Except Err α)}
    {post : Except Err α → Disk → Prop} [hpost : Lenient post] (hq : ¬ φ → Backed c A m q post d) :
    Backed c A m (if φ then .ret (.error e) else q) post d :=
  backed_ite (fun _ => backed_ret (hpost.error e d)) hq

theorem backed_guarded {p : Op (Except Err α)} {fail : Err → Op β} {k : α → Op β}
    {post : β → Disk → Prop} {ok : α → Disk → Prop}
    (hp : Safe anyReply (Settled c A m) p (outcome ok err) d)
    (hfail : ∀ e d', err e d' → Backed c A m (fail e) post d')
    (hk : ∀ a d', ok a d' → Backed c A m (k a) post d') :
    Backed c A m (guarded p fail k) post d := by
  refine backed_bind hp fun r d' hr => ?_
  cases r with
  | error e => exact hfail e d' hr
  | ok a => exact hk a d' hr

theorem backed_attempt {p : Op (Except Err α)} {k : α → Op (Except Err β)}
    {post : Except Err β → Disk → Prop} [hpost : Lenient post] {ok : α → Disk → Prop}
    (hp : Safe anyReply (Settled c A m) p (outcome ok err) d)
    (hk : ∀ a d', ok a d' → Backed c A m (k a) post d') : Backed c A m (attempt p k) post d :=
  backed_guarded hp (fun e d' _ => backed_ret (hpost.error e d')) hk

/-- One transaction after another. -/
theorem backed_after {p : Op (Except Err α)} {k : α → Op (Except Err β)}
    {post : Except Err β → Disk → Prop} [hpost : Lenient post] {ok : α → Disk → Prop}
    (hp : Backed c A none p (outcome ok err) d)
    (hk : ∀ a d', ok a d' → Backed c A none (k a) post d') :
    Backed c A none (attempt p k) post d := by
  intro past hpast
  refine traced_bind ((hp past hpast).mono (fun _ _ hC => hC) fun r d' past' hr => ?_)
  cases r with
  | error e => exact hpost.error e d'
  | ok a => exact hk a d' hr past' (confirmed_none past')

/-- A question that is not for the relay's runtime. -/
theorem backed_question {fail : Err → Op β} {k : Unit → Op β} {post : β → Disk → Prop}
    (hq : Settled c A m (.asked q d)) (hfail : Backed c A m (fail e) post d)
    (hk : Backed c A m (k ()) post d) : Backed c A m (guarded (require q e) fail k) post d := by
  have hp : Safe anyReply (Settled c A m) (require q e)
      (outcome (fun _ d' => d' = d) fun e' d' => e' = e ∧ d' = d) d := safe_require hq rfl ⟨rfl, rfl⟩
  refine backed_guarded hp ?_ ?_
  · rintro _ _ ⟨rfl, rfl⟩
    exact hfail
  · rintro _ _ rfl
    exact hk

/-- **The question itself.** -/
theorem backed_runtime {fail : Err → Op β} {k : Unit → Op β} {post : β → Disk → Prop}
    (hauth : A.backs → c.store.Authorised generation target d)
    (hfail : Backed c A none (fail e) post d) (hk : Backed c A (some target) (k ()) post d) :
    Backed c A none (guarded (require (.runtimeApply generation target) e) fail k) post d := by
  intro past _
  refine ⟨⟨fun _ => trivial, fun _ => trivial, hauth⟩, fun a _ => ?_⟩
  cases a with
  | false => exact hfail _ (confirmed_none _)
  | true =>
    refine hk _ fun hb target' ht => ?_
    cases ht
    rw [progress_answered]
    exact ⟨rfl, (hauth hb).owed⟩

end Logic

end OpenCodexRelay.Routing
