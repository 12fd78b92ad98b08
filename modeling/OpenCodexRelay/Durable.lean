/-
  Programs over a durable store — a small program logic for crash-prone controllers.

  A controller that keeps its state in files reads the files, replaces one of them at a time,
  and asks the world questions in between ("did that write succeed?", "is the peer ready?").
  Every one of these points is a point where the process may die.  What survives is the store.

  1. `Prog`: the syntax.  A program returns, reads the store, replaces the store by ONE durable
     step, or calls the environment and continues with whatever it answers.
  2. `Exec`: the semantics.  A run leaves a trace of events and stops ANYWHERE: a crash is simply
     a run that stops early, so a statement about all stores a run may stop at is a statement
     about all crash positions.
  3. `Safe`: the logic.  `Safe E C p post s` is computed by recursion on `p`; it demands `C` of
     every event and `post` of every result.  `safe_bind` is the composition rule,
     `exec_safe` the soundness theorem, and the rules below read off what one usually wants:
     `stops_of_safe` (crash invariants) and `asked_of_safe` (what holds then).
     `Frames` is the special case of programs that are safe wherever they are started, and
     `Traced` the form with a memory, for what is said about the order of events.
  4. `run`: the executable reading under a fixed answering function, with `run_bind`, and
     `Succeeds`: that run returns a value.  `Safe.goes` lets ONE walk through a program speak
     about both: every run is safe, and under a condition none of them fails.
  5. `System`: many programs over one store, one after the other, each of which may stop
     anywhere; `System.reachable_inv` is the invariant rule for whole histories.

  Nothing here knows which files there are or what the calls mean.
-/
import Mathlib.Logic.Relation
import Mathlib.Tactic.Common

namespace Durable

/-- A program over the store `σ` that may put the questions `Q` to its environment; the answer to
    `q` has type `A q`. -/
inductive Prog (σ Q : Type) (A : Q → Type) (α : Type) where
  /-- Stop with a result. -/
  | ret (a : α)
  /-- Look at the store. -/
  | read (k : σ → Prog σ Q A α)
  /-- Replace the store by one durable, atomic step. -/
  | write (f : σ → σ) (k : Prog σ Q A α)
  /-- Ask the environment and continue with its answer. -/
  | call (q : Q) (k : A q → Prog σ Q A α)

/-- What an observer sees of a run, in order. -/
inductive Event (σ Q : Type) (A : Q → Type) where
  /-- A durable step replaced the first store by the second. -/
  | wrote (s s' : σ)
  /-- The question was put while the store was `s`. -/
  | asked (q : Q) (s : σ)
  /-- The environment answered. -/
  | answered (q : Q) (a : A q)

variable {σ Q : Type} {A : Q → Type} {α β : Type}

variable {ε : Type} {c : Prop}

/-- Sequential composition, by recursion on the first program. -/
def Prog.bind : Prog σ Q A α → (α → Prog σ Q A β) → Prog σ Q A β
  | .ret a, f => f a
  | .read k, f => .read fun s => (k s).bind f
  | .write g k, f => .write g (k.bind f)
  | .call q k, f => .call q fun a => (k a).bind f

instance : Monad (Prog σ Q A) where
  pure := .ret
  bind := .bind

/-- One durable step. -/
def modify (f : σ → σ) : Prog σ Q A Unit := .write f (.ret ())

/-- One question. -/
def ask (q : Q) : Prog σ Q A (A q) := .call q .ret

/-- Go's error check: run `p`, leave through `fail` on an error, continue with `k` otherwise. -/
def guarded {ε : Type} (p : Prog σ Q A (Except ε α)) (fail : ε → Prog σ Q A β)
    (k : α → Prog σ Q A β) : Prog σ Q A β :=
  p >>= fun r => match r with
    | .error e => fail e
    | .ok a => k a

/-- The common case of `guarded`: return the error as it is. -/
def attempt {ε : Type} (p : Prog σ Q A (Except ε α)) (k : α → Prog σ Q A (Except ε β)) :
    Prog σ Q A (Except ε β) :=
  guarded p (fun e => .ret (.error e)) k

theorem Prog.bind_assoc {γ : Type} (p : Prog σ Q A α) (f : α → Prog σ Q A β)
    (g : β → Prog σ Q A γ) : (p.bind f).bind g = p.bind fun a => (f a).bind g := by
  induction p with
  | ret a => rfl
  | read k ih => exact congrArg read (funext ih)
  | write h k ih => exact congrArg (write h) ih
  | call q k ih => exact congrArg (call q) (funext ih)

theorem attempt_attempt {γ : Type} (p : Prog σ Q A (Except ε α)) (k : α → Prog σ Q A (Except ε β))
    (l : β → Prog σ Q A (Except ε γ)) :
    attempt (attempt p k) l = attempt p fun a => attempt (k a) l := by
  refine (Prog.bind_assoc _ _ _).trans (congrArg (Prog.bind p) (funext fun r => ?_))
  cases r with
  | error e => rfl
  | ok a => rfl

theorem attempt_ite [Decidable c] (p q : Prog σ Q A (Except ε α)) (k : α → Prog σ Q A (Except ε β)) :
    attempt (if c then p else q) k = if c then attempt p k else attempt q k := by
  split_ifs <;> rfl

/-- Which answers the environment may give to which question at which store. -/
abbrev Env (σ Q : Type) (A : Q → Type) := (q : Q) → σ → A q → Prop

/-- The environment that may answer anything. -/
def anyAnswer : Env σ Q A := fun _ _ _ => True

/-- `Exec E p s tr s'`: some run of `p` from `s` has produced the events `tr` and left the store
    at `s'` when it stopped, by returning or by crashing. -/
inductive Exec (E : Env σ Q A) : Prog σ Q A α → σ → List (Event σ Q A) → σ → Prop where
  | stop (p s) : Exec E p s [] s
  | read {k s tr s'} (h : Exec E (k s) s tr s') : Exec E (.read k) s tr s'
  | write {f k s tr s'} (h : Exec E k (f s) tr s') :
      Exec E (.write f k) s (.wrote s (f s) :: tr) s'
  | waiting (q k s) : Exec E (.call q k) s [.asked q s] s
  | call {q k s a tr s'} (ha : E q s a) (h : Exec E (k a) s tr s') :
      Exec E (.call q k) s (.asked q s :: .answered q a :: tr) s'

/-- `s'` is a store at which some run of `p` from `s` may stop. -/
def Stops (E : Env σ Q A) (p : Prog σ Q A α) (s s' : σ) : Prop := ∃ tr, Exec E p s tr s'

/-- `e` is an event of some run of `p` from `s`. -/
def Occurs (E : Env σ Q A) (p : Prog σ Q A α) (s : σ) (e : Event σ Q A) : Prop :=
  ∃ tr s', Exec E p s tr s' ∧ e ∈ tr

/-- The result and final store when every question is answered by `env`. -/
def run (env : (q : Q) → σ → A q) : Prog σ Q A α → σ → α × σ
  | .ret a, s => (a, s)
  | .read k, s => run env (k s) s
  | .write f k, s => run env k (f s)
  | .call q k, s => run env (k (env q s)) s

/-- The events of that run. -/
def trace (env : (q : Q) → σ → A q) : Prog σ Q A α → σ → List (Event σ Q A)
  | .ret _, _ => []
  | .read k, s => trace env (k s) s
  | .write f k, s => .wrote s (f s) :: trace env k (f s)
  | .call q k, s => .asked q s :: .answered q (env q s) :: trace env (k (env q s)) s

/-- The store that is left when that run dies after `n` writes and answered questions. -/
def halt (env : (q : Q) → σ → A q) : Prog σ Q A α → Nat → σ → σ
  | .ret _, _, s => s
  | .read k, n, s => halt env (k s) n s
  | .write _ _, 0, s => s
  | .write f k, n + 1, s => halt env k n (f s)
  | .call _ _, 0, s => s
  | .call q k, n + 1, s => halt env (k (env q s)) n s

/-! ## The logic -/

section Logic

variable {E : Env σ Q A} {C : Event σ Q A → Prop}

/-- Every event satisfies `C`, whatever the environment answers, and every result is in `post`.
    Answers are the environment's business, so only writes and questions are checked. -/
def Safe (E : Env σ Q A) (C : Event σ Q A → Prop) :
    Prog σ Q A α → (α → σ → Prop) → σ → Prop
  | .ret a, post, s => post a s
  | .read k, post, s => Safe E C (k s) post s
  | .write f k, post, s => C (.wrote s (f s)) ∧ Safe E C k post (f s)
  | .call q k, post, s => C (.asked q s) ∧ ∀ a, E q s a → Safe E C (k a) post s

variable {post : α → σ → Prop} {s : σ}

theorem safe_read {k : σ → Prog σ Q A α} :
    Safe E C (.read k) post s ↔ Safe E C (k s) post s := Iff.rfl

@[simp] theorem safe_pure (a : α) (post : α → σ → Prop) (s : σ) :
    Safe E C (pure a) post s ↔ post a s := Iff.rfl

/-- **Composition.** A sequence is safe exactly when its first part is safe and leaves every
    store in a position from which the rest is. -/
@[simp] theorem safe_bind (p : Prog σ Q A α) (f : α → Prog σ Q A β) (post : β → σ → Prop)
    (s : σ) : Safe E C (p >>= f) post s ↔ Safe E C p (fun a s => Safe E C (f a) post s) s := by
  show Safe E C (p.bind f) post s ↔ _
  induction p generalizing s with
  | ret a => exact Iff.rfl
  | read k ih => exact ih s s
  | write g k ih => exact and_congr Iff.rfl (ih (g s))
  | call q k ih =>
    exact and_congr Iff.rfl (forall_congr' fun a => imp_congr Iff.rfl (ih a s))

@[simp] theorem safe_map (g : α → β) (p : Prog σ Q A α) (post : β → σ → Prop) (s : σ) :
    Safe E C (g <$> p) post s ↔ Safe E C p (fun a s => post (g a) s) s := by
  show Safe E C (p >>= fun a => pure (g a)) post s ↔ _
  simp only [safe_bind, safe_pure]

@[simp] theorem safe_ite [Decidable c] (p q : Prog σ Q A α) (post : α → σ → Prop) (s : σ) :
    Safe E C (if c then p else q) post s ↔
      (c → Safe E C p post s) ∧ (¬ c → Safe E C q post s) := by
  by_cases h : c <;> simp [h]

variable {p : Prog σ Q A α}

/-- Each branch under its own condition. -/
theorem safe_if [Decidable c] {q : Prog σ Q A α} (hp : c → Safe E C p post s)
    (hq : ¬ c → Safe E C q post s) :
    Safe E C (if c then p else q) post s := (safe_ite p q post s).mpr ⟨hp, hq⟩

variable {post' : α → σ → Prop}

/-- **Consequence.** Weaken what is demanded of events and of results. -/
theorem Safe.mono {C' : Event σ Q A → Prop} (h : Safe E C p post s) (hC : ∀ e, C e → C' e)
    (hpost : ∀ a s, post a s → post' a s) : Safe E C' p post' s := by
  induction p generalizing s with
  | ret a => exact hpost a s h
  | read k ih => exact ih s h
  | write f k ih => exact ⟨hC _ h.1, ih h.2⟩
  | call q k ih => exact ⟨hC _ h.1, fun a ha => ih a (h.2 a ha)⟩

/-- Weaken the postcondition only. -/
theorem Safe.post_mono (h : Safe E C p post s) (hpost : ∀ a s, post a s → post' a s) :
    Safe E C p post' s :=
  h.mono (fun _ => id) hpost

/-- **The invariant rule inside one program.** From what is known of the program's steps and an
    invariant those steps keep, conclude whatever the two imply. -/
theorem Safe.invariant {I : σ → Prop} {C' : Event σ Q A → Prop} (h : Safe E C p post s) (h0 : I s)
    (hstep : ∀ d d', I d → C (.wrote d d') → I d' ∧ C' (.wrote d d'))
    (hask : ∀ q d, I d → C (.asked q d) → C' (.asked q d))
    (hpost : ∀ a d, post a d → I d → post' a d) : Safe E C' p post' s := by
  induction p generalizing s with
  | ret a => exact hpost a s h h0
  | read k ih => exact ih s h h0
  | write f k ih =>
    obtain ⟨hI, hC⟩ := hstep s (f s) h0 h.1
    exact ⟨hC, ih h.2 hI⟩
  | call q k ih => exact ⟨hask q s h0 h.1, fun a ha => ih a (h.2 a ha) h0⟩

section Errors

variable {p : Prog σ Q A (Except ε α)} {fail : ε → Prog σ Q A β} {k : α → Prog σ Q A β}
variable {k' : α → Prog σ Q A (Except ε β)} {post : β → σ → Prop}

/-- **Error checks.** Both exits have to be safe where the checked program leaves the store. -/
theorem safe_guarded :
    Safe E C (guarded p fail k) post s ↔
      Safe E C p (fun r s => match r with
        | .error e => Safe E C (fail e) post s
        | .ok a => Safe E C (k a) post s) s := by
  unfold guarded
  rw [safe_bind]
  have h : (fun (r : Except ε α) s => Safe E C (match r with
      | .error e => fail e
      | .ok a => k a) post s) = fun r s => match r with
        | .error e => Safe E C (fail e) post s
        | .ok a => Safe E C (k a) post s := by
    funext r s
    cases r <;> rfl
  rw [h]

theorem safe_attempt {post : Except ε β → σ → Prop} :
    Safe E C (attempt p k') post s ↔
      Safe E C p (fun r s => match r with
        | .error e => post (.error e) s
        | .ok a => Safe E C (k' a) post s) s :=
  safe_guarded

/-- Consequence for results that may be errors, one half at a time. -/
theorem Safe.except_mono {post post' : Except ε α → σ → Prop} (h : Safe E C p post s)
    (herr : ∀ e s, post (.error e) s → post' (.error e) s)
    (hok : ∀ a s, post (.ok a) s → post' (.ok a) s) : Safe E C p post' s := by
  refine h.post_mono fun r s' h' => ?_
  cases r with
  | error e => exact herr e s' h'
  | ok a => exact hok a s' h'

/-- A postcondition on results that may be errors: one half for each. -/
def outcome {ε : Type} (ok : α → σ → Prop) (err : ε → σ → Prop) : Except ε α → σ → Prop
  | .ok a, s => ok a s
  | .error e, s => err e s

variable {ok : α → σ → Prop} {err : ε → σ → Prop}

/-- Consequence for the value alone. -/
theorem Safe.ok_mono {ok' : α → σ → Prop}
    (h : Safe E C p (outcome ok err) s) (hok : ∀ a s, ok a s → ok' a s) :
    Safe E C p (outcome ok' err) s :=
  h.except_mono (fun _ _ h' => h') hok

/-- Both exits of an error check, each from its own half of the outcome. -/
theorem safe_guarded_of (hp : Safe E C p (outcome ok err) s)
    (herr : ∀ e s, err e s → Safe E C (fail e) post s)
    (hk : ∀ a s, ok a s → Safe E C (k a) post s) : Safe E C (guarded p fail k) post s :=
  safe_guarded.mpr (hp.except_mono herr hk)

theorem safe_attempt_of {post : Except ε β → σ → Prop} (hp : Safe E C p (outcome ok err) s)
    (herr : ∀ e s, err e s → post (.error e) s) (hk : ∀ a s, ok a s → Safe E C (k' a) post s) :
    Safe E C (attempt p k') post s :=
  safe_guarded_of hp herr hk

/-- An error is passed on as it is. -/
theorem safe_attempt_ok {post : Except ε β → σ → Prop}
    (hp : Safe E C p (outcome ok fun e => post (.error e)) s)
    (hk : ∀ a s, ok a s → Safe E C (k' a) post s) : Safe E C (attempt p k') post s :=
  safe_attempt_of hp (fun _ _ h => h) hk

end Errors

/-- **Frames.** Wherever it is started, every event is in `C` and the part `f` of the store is the
    same when the program returns. -/
def Frames {τ : Type} (E : Env σ Q A) (C : Event σ Q A → Prop) (f : σ → τ) (p : Prog σ Q A α) :
    Prop :=
  ∀ s, Safe E C p (fun _ s' => f s' = f s) s

section Frames

variable {τ : Type} {f : σ → τ}

theorem frames_pure (a : α) : Frames E C f (pure a : Prog σ Q A α) := fun _ => rfl

theorem frames_read {k : σ → Prog σ Q A α} (h : ∀ s, Frames E C f (k s)) :
    Frames E C f (.read k) := fun s => h s s

variable {p : Prog σ Q A α}

theorem frames_bind {k : α → Prog σ Q A β} (hp : Frames E C f p) (hk : ∀ a, Frames E C f (k a)) :
    Frames E C f (p >>= k) := by
  intro s
  rw [safe_bind]
  refine (hp s).post_mono fun a s1 h1 => (hk a s1).post_mono fun _ s2 h2 => ?_
  rw [h2, h1]

variable {x : Prog σ Q A (Except ε α)}

theorem frames_guarded {fail : ε → Prog σ Q A β} {k : α → Prog σ Q A β} (hp : Frames E C f x)
    (hfail : ∀ e, Frames E C f (fail e)) (hk : ∀ a, Frames E C f (k a)) :
    Frames E C f (guarded x fail k) := by
  refine frames_bind hp fun r => ?_
  cases r with
  | error e => exact hfail e
  | ok a => exact hk a

theorem frames_attempt {k : α → Prog σ Q A (Except ε β)} (hp : Frames E C f x)
    (hk : ∀ a, Frames E C f (k a)) : Frames E C f (attempt x k) :=
  frames_guarded hp (fun e => frames_pure (Except.error e)) hk

theorem frames_ite [Decidable c] {q : Prog σ Q A α} (hp : c → Frames E C f p)
    (hq : ¬ c → Frames E C f q) : Frames E C f (if c then p else q) := by
  by_cases h : c
  · rw [if_pos h]
    exact hp h
  · rw [if_neg h]
    exact hq h

/-- Safe wherever it is started, with nothing said about what is left behind. -/
abbrev Always (E : Env σ Q A) (C : Event σ Q A → Prop) (p : Prog σ Q A α) : Prop :=
  Frames E C (fun _ => ()) p

theorem Frames.always (h : Frames E C f p) : Always E C p :=
  fun s => (h s).post_mono fun _ _ _ => rfl

theorem Always.safe (h : Always E C p) (s : σ) : Safe E C p (fun _ _ => True) s :=
  (h s).post_mono fun _ _ _ => trivial

/-- Both halves of an outcome. -/
theorem Frames.outcome (h : Frames E C f x) (s : σ) :
    Safe E C x (outcome (fun _ s' => f s' = f s) fun _ s' => f s' = f s) s :=
  (h s).except_mono (fun _ _ h' => h') fun _ _ h' => h'

/-- A program that leaves the whole store as it is. -/
theorem Frames.same (h : Frames E C id x) (s : σ) :
    Safe E C x (Durable.outcome (fun _ s' => s' = s) fun _ s' => s' = s) s :=
  h.outcome s

theorem always_of_safe {post : σ → α → σ → Prop} (h : ∀ s, Safe E C p (post s) s) : Always E C p :=
  fun s => (h s).post_mono fun _ _ _ => rfl

end Frames

/-- What the logic promises about an event: answers are never restricted. -/
def Meets (C : Event σ Q A → Prop) : Event σ Q A → Prop
  | .answered _ _ => True
  | e => C e

/-- **Crash invariants.** If every durable step of a safe program ends in `I`, every store at which
    the program may stop is in `I`. -/
theorem stops_of_safe {I : σ → Prop} {s' : σ} (hs : Safe E C p post s)
    (hC : ∀ d d', C (.wrote d d') → I d → I d') (h0 : I s) (h : Stops E p s s') : I s' := by
  obtain ⟨tr, hx⟩ := h
  induction hx with
  | stop => exact h0
  | read _ ih => exact ih hs h0
  | write _ ih => exact ih hs.2 (hC _ _ hs.1 h0)
  | waiting => exact h0
  | call ha _ ih => exact ih (hs.2 _ ha) h0

end Logic

/-! ## The order of events -/

section Order

variable {E : Env σ Q A}

/-- `Safe` with a memory: what is demanded of an event may depend on the events before it. -/
def Traced (E : Env σ Q A) (C : List (Event σ Q A) → Event σ Q A → Prop) :
    Prog σ Q A α → (α → σ → List (Event σ Q A) → Prop) → σ → List (Event σ Q A) → Prop
  | .ret a, post, s, past => post a s past
  | .read k, post, s, past => Traced E C (k s) post s past
  | .write f k, post, s, past =>
    C past (.wrote s (f s)) ∧ Traced E C k post (f s) (past ++ [.wrote s (f s)])
  | .call q k, post, s, past => C past (.asked q s) ∧
    ∀ a, E q s a → Traced E C (k a) post s (past ++ [.asked q s, .answered q a])

variable {C : List (Event σ Q A) → Event σ Q A → Prop}

variable {p : Prog σ Q A α} {s : σ} {past : List (Event σ Q A)}

theorem traced_bind {k : α → Prog σ Q A β} {post : β → σ → List (Event σ Q A) → Prop}
    (h : Traced E C p (fun a s past => Traced E C (k a) post s past) s past) :
    Traced E C (p >>= k) post s past := by
  show Traced E C (p.bind k) post s past
  induction p generalizing s past with
  | ret a => exact h
  | read g ih => exact ih s h
  | write f g ih => exact ⟨h.1, ih h.2⟩
  | call q g ih => exact ⟨h.1, fun a ha => ih a (h.2 a ha)⟩

/-- **Error checks**, with a memory. -/
theorem traced_guarded {p : Prog σ Q A (Except ε α)} {fail : ε → Prog σ Q A β}
    {k : α → Prog σ Q A β} {post : β → σ → List (Event σ Q A) → Prop}
    (h : Traced E C p (fun r s past => match r with | .error e => Traced E C (fail e) post s past | .ok a => Traced E C (k a) post s past) s past) :
    Traced E C (guarded p fail k) post s past := by
  refine traced_bind ?_
  have hsame : (fun (r : Except ε α) s past => Traced E C (match r with
      | .error e => fail e
      | .ok a => k a) post s past) = fun r s past => match r with
        | .error e => Traced E C (fail e) post s past
        | .ok a => Traced E C (k a) post s past := by
    funext r s past
    cases r <;> rfl
  rw [hsame]
  exact h

variable {post : α → σ → List (Event σ Q A) → Prop}

/-- **Consequence.** -/
theorem Traced.mono {C' : List (Event σ Q A) → Event σ Q A → Prop}
    {post' : α → σ → List (Event σ Q A) → Prop} (h : Traced E C p post s past)
    (hC : ∀ past e, C past e → C' past e) (hpost : ∀ a s past, post a s past → post' a s past) :
    Traced E C' p post' s past := by
  induction p generalizing s past with
  | ret a => exact hpost a s past h
  | read k ih => exact ih s h
  | write f k ih => exact ⟨hC _ _ h.1, ih h.2⟩
  | call q k ih => exact ⟨hC _ _ h.1, fun a ha => ih a (h.2 a ha)⟩

/-- What needs no memory; the memory grows by events that meet the demand. -/
theorem Safe.traced {D : Event σ Q A → Prop} {post : α → σ → Prop} (h : Safe E D p post s)
    (past : List (Event σ Q A)) :
    Traced E (fun _ e => D e) p (fun a s' past' => post a s' ∧
      ∃ later, past' = past ++ later ∧ ∀ e ∈ later, Meets D e) s past := by
  -- the memory has already grown by `mid`
  have hgo : ∀ mid : List (Event σ Q A), (∀ e ∈ mid, Meets D e) →
      Traced E (fun _ e => D e) p (fun a s' past' => post a s' ∧
        ∃ later, past' = past ++ later ∧ ∀ e ∈ later, Meets D e) s (past ++ mid) := by
    induction p generalizing s with
    | ret a => exact fun mid hmid => ⟨h, mid, rfl, hmid⟩
    | read k ih => exact ih s h
    | write f k ih =>
      intro mid hmid
      refine ⟨h.1, ?_⟩
      rw [List.append_assoc]
      exact ih h.2 _ (List.forall_mem_append.mpr ⟨hmid, List.forall_mem_singleton.mpr h.1⟩)
    | call q k ih =>
      intro mid hmid
      refine ⟨h.1, fun a ha => ?_⟩
      rw [List.append_assoc]
      exact ih a (h.2 a ha) _ (List.forall_mem_append.mpr
        ⟨hmid, List.forall_mem_cons.mpr ⟨h.1, List.forall_mem_singleton.mpr trivial⟩⟩)
  have hstart := hgo [] fun e he => nomatch he
  rw [List.append_nil] at hstart
  exact hstart

/-- Forget the memory. -/
theorem Traced.safe {D : Event σ Q A → Prop} (h : Traced E C p post s past)
    (hD : ∀ past e, C past e → D e) : Safe E D p (fun a s' => ∃ past', post a s' past') s := by
  induction p generalizing s past with
  | ret a => exact ⟨past, h⟩
  | read k ih => exact ih s h
  | write f k ih => exact ⟨hD _ _ h.1, ih h.2⟩
  | call q k ih => exact ⟨hD _ _ h.1, fun a ha => ih a (h.2 a ha)⟩

/-- **Soundness.** Every event of every run meets the demand, given the events before it. -/
theorem exec_traced {s' : σ} {tr : List (Event σ Q A)} (hx : Exec E p s tr s')
    (h : Traced E C p post s past) {before rest : List (Event σ Q A)} {e : Event σ Q A}
    (htr : tr = before ++ e :: rest) : Meets (C (past ++ before)) e := by
  induction hx generalizing past before with
  | stop => simp at htr
  | read _ ih => exact ih h htr
  | write _ ih =>
    rcases List.cons_eq_append_iff.mp htr with ⟨rfl, he⟩ | ⟨before, rfl, hrest⟩
    · cases he
      rw [List.append_nil]
      exact h.1
    · rw [List.append_cons]
      exact ih h.2 hrest
  | waiting =>
    rcases List.cons_eq_append_iff.mp htr with ⟨rfl, he⟩ | ⟨before, rfl, hrest⟩
    · cases he
      rw [List.append_nil]
      exact h.1
    · simp at hrest
  | call ha _ ih =>
    rcases List.cons_eq_append_iff.mp htr with ⟨rfl, he⟩ | ⟨before, rfl, hanswer⟩
    · cases he
      rw [List.append_nil]
      exact h.1
    rcases List.cons_eq_append_iff.mp hanswer with ⟨rfl, he⟩ | ⟨before, rfl, hrest⟩
    · cases he
      exact trivial
    · have hlater := ih (h.2 _ ha) hrest
      rw [List.append_assoc] at hlater
      exact hlater

/-- The same without a memory. -/
theorem exec_safe {D : Event σ Q A → Prop} {post : α → σ → Prop} {s' : σ} {tr : List (Event σ Q A)}
    (hx : Exec E p s tr s') (hs : Safe E D p post s) : ∀ e ∈ tr, Meets D e := by
  intro e he
  obtain ⟨before, rest, htr⟩ := List.append_of_mem he
  exact exec_traced hx (hs.traced []) htr

/-- What holds whenever a safe program asks. -/
theorem asked_of_safe {D : Event σ Q A → Prop} {post : α → σ → Prop} {d : σ} {q : Q}
    (hs : Safe E D p post s) (h : Occurs E p s (.asked q d)) : D (.asked q d) := by
  obtain ⟨tr, s', hx, hmem⟩ := h
  exact exec_safe hx hs _ hmem

end Order

/-! ## Running a program under fixed answers -/

section Running

variable (env : (q : Q) → σ → A q)

@[simp] theorem run_bind (p : Prog σ Q A α) (f : α → Prog σ Q A β) (s : σ) :
    run env (p >>= f) s = run env (f (run env p s).1) (run env p s).2 := by
  show run env (p.bind f) s = _
  induction p generalizing s with
  | ret a => rfl
  | read k ih => exact ih s s
  | write g k ih => exact ih (g s)
  | call q k ih => exact ih (env q s) s

variable {E : Env σ Q A} {C : Event σ Q A → Prop} {p : Prog σ Q A α}

/-- What the logic proves about every environment holds of the run under a fixed one. -/
theorem run_of_safe {post : α → σ → Prop} {s : σ} (henv : ∀ q s, E q s (env q s))
    (hs : Safe E C p post s) : post (run env p s).1 (run env p s).2 := by
  induction p generalizing s with
  | ret a => exact hs
  | read k ih => exact ih s hs
  | write f k ih => exact ih hs.2
  | call q k ih => exact ih (env q s) (hs.2 _ (henv q s))

/-- Where the environment gives only those answers, every run ends as that one does. -/
theorem Safe.run_eq {post : α → σ → Prop} {s : σ} (hs : Safe E C p post s)
    (henv : ∀ q s a, E q s a → a = env q s) :
    Safe E C p (fun a s' => post a s' ∧ run env p s = (a, s')) s := by
  induction p generalizing s with
  | ret a => exact ⟨hs, rfl⟩
  | read k ih => exact ih s hs
  | write f k ih => exact ⟨hs.1, ih hs.2⟩
  | call q k ih =>
    refine ⟨hs.1, fun a ha => ?_⟩
    have ha' := henv q s a ha
    subst ha'
    exact ih _ (hs.2 _ ha)

/-- **Under a condition.** If `P` fixes the answers, and makes the run under them return a value,
    then there is no error if `P`, and a value is that of the run. -/
theorem Safe.goes {P : Prop} {p : Prog σ Q A (Except ε α)} {ok : α → σ → Prop} {err : ε → σ → Prop}
    {s : σ} (hs : Safe E C p (outcome ok err) s) (henv : P → ∀ q s a, E q s a → a = env q s)
    (hrun : P → ∃ a s', run env p s = (.ok a, s')) :
    Safe E C p (outcome (fun a s' => ok a s' ∧ (P → run env p s = (.ok a, s')))
      fun e s' => err e s' ∧ ¬ P) s := by
  by_cases hP : P
  · refine (hs.run_eq env (henv hP)).except_mono (fun e s' h' => ?_) fun a s' h' =>
      ⟨h'.1, fun _ => h'.2⟩
    obtain ⟨a, s'', hok⟩ := hrun hP
    have hc := h'.2.symm.trans hok
    cases hc
  · exact hs.except_mono (fun e s' h' => ⟨h', hP⟩) fun a s' h' => ⟨h', fun h => absurd h hP⟩

/-- The run under fixed answers is one of the runs. -/
theorem exec_run (henv : ∀ q s, E q s (env q s)) (p : Prog σ Q A α) (s : σ) :
    Exec E p s (trace env p s) (run env p s).2 := by
  induction p generalizing s with
  | ret a => exact .stop _ _
  | read k ih => exact .read (ih s s)
  | write f k ih => exact .write (ih (f s))
  | call q k ih => exact .call (henv q s) (ih (env q s) s)

/-- Wherever the fixed run dies, it is a place where some run may stop. -/
theorem stops_halt (henv : ∀ q s, E q s (env q s)) (p : Prog σ Q A α) (n : Nat) (s : σ) :
    Stops E p s (halt env p n s) := by
  induction p generalizing n s with
  | ret a => exact ⟨[], .stop _ _⟩
  | read k ih =>
    obtain ⟨tr, h⟩ := ih s n s
    exact ⟨tr, .read h⟩
  | write f k ih =>
    cases n with
    | zero => exact ⟨[], .stop _ _⟩
    | succ n =>
      obtain ⟨tr, h⟩ := ih n (f s)
      exact ⟨_, .write h⟩
  | call q k ih =>
    cases n with
    | zero => exact ⟨[], .stop _ _⟩
    | succ n =>
      obtain ⟨tr, h⟩ := ih (env q s) n s
      exact ⟨_, .call (henv q s) h⟩

/-- What a fixed run shows does occur. -/
theorem occurs_of_trace (henv : ∀ q s, E q s (env q s)) {s : σ} {e : Event σ Q A} {i : Nat}
    (h : (trace env p s)[i]? = some e) : Occurs E p s e :=
  ⟨_, _, exec_run env henv p s, List.mem_of_getElem? h⟩

/-- Under the answers of `env` the program returns a value, not an error, and ends in `post`. -/
def Succeeds {ε : Type} (p : Prog σ Q A (Except ε α)) (post : α → σ → Prop) (s : σ) : Prop :=
  ∃ a s', run env p s = (.ok a, s') ∧ post a s'

end Running

/-! ## Histories: one program after another, each of which may stop anywhere -/

/-- Several operations over one store.  `allowed` says at which stores an operation is considered
    (all of them, or those that meet a condition), `other` what other writers do in between. -/
structure System (σ Q : Type) (A : Q → Type) (Op : Type) where
  /-- The result type of an operation. -/
  Result : Op → Type
  /-- The program an operation runs. -/
  prog : (op : Op) → Prog σ Q A (Result op)
  /-- The answers the environment may give. -/
  env : Env σ Q A
  /-- The positions from which the operation is started. -/
  allowed : Op → σ → Prop
  /-- A step of another owner of the store. -/
  other : σ → σ → Prop

section Histories

variable {Op : Type} (S : System σ Q A Op)

/-- One operation, stopped anywhere, or one step of another owner. -/
inductive System.Step : σ → σ → Prop where
  | op {s s' : σ} (op : Op) (h : S.allowed op s) (h' : Stops S.env (S.prog op) s s') :
      System.Step s s'
  | other {s s' : σ} (h : S.other s s') : System.Step s s'

/-- The stores reached by a history that starts at `s`. -/
def System.Reachable : σ → σ → Prop := Relation.ReflTransGen S.Step

/-- **The invariant rule.** What holds at the start, is kept by every durable step of every
    operation and by the other owners, holds at every store any history reaches. -/
theorem System.reachable_inv {I : σ → Prop} {s s' : σ} (h0 : I s)
    (hop : ∀ op s s', S.allowed op s → I s → Stops S.env (S.prog op) s s' → I s')
    (hother : ∀ s s', I s → S.other s s' → I s') (h : S.Reachable s s') : I s' := by
  induction h with
  | refl => exact h0
  | tail _ hstep ih =>
    cases hstep with
    | op op ha hs => exact hop op _ _ ha ih hs
    | other ho => exact hother _ _ ih ho

end Histories

end Durable
