/-
  One operation at a time, amid everybody else — a program logic for lock-protected objects.

  An object that several threads share often has ONE lock under which its long operations run, and
  many short steps that do not take it: observers that record something, requests that come and go,
  workers that finish.  Between any two steps of the operation that holds the lock, any number of
  those short steps may take place.

  1. `Machine`: the syntax is that of `Prog`; a question is now answered in the same atomic step in
     which its `effect` takes place (a try-lock is a question), and `other` is what everybody else
     may do at any time.
  2. `Config`, `Machine.Step`: the whole system — the store and, if an operation holds the lock,
     what is left of its program.  The runs of the system are the chains of steps.
  3. `Machine.Keeps`: the logic.  It demands a relation of every own step, at every store the
     others may have moved the object to, and a postcondition that the others cannot invalidate.
     `Machine.Triple` is its form with assertions; every assertion has to be `Stable`.
  4. `Machine.reachable_inv`: what every operation and every other step keeps holds in every
     configuration; `Machine.later_rel` is the same for relations between an earlier and a later one.
  5. `Machine.Ends`: what an operation that is left alone may return and leave.
  6. `Config.advance`: an executable scheduler for the own steps, to exhibit runs.
-/
import OpenCodexRelay.Durable

namespace Durable

/-- A shared object whose operations are programs. -/
structure Machine (σ Q : Type) (A : Q → Type) where
  /-- The answers a question may be given at a store. -/
  env : Env σ Q A
  /-- What the answer does to the store, in the same atomic step. -/
  effect : (q : Q) → A q → σ → σ
  /-- One step of everybody who does not hold the lock. -/
  other : σ → σ → Prop

/-- The store, and what is left of the operation that holds the lock. -/
structure Config (σ Q : Type) (A : Q → Type) (α : Type) where
  pending : Option (Prog σ Q A α)
  store : σ

section System

variable {σ Q : Type} {A : Q → Type} {α β Op : Type} (M : Machine σ Q A)

/-- **One step of the whole system.**  `allowed` says at which stores an operation may be started. -/
inductive Machine.Step (prog : Op → Prog σ Q A α) (allowed : Op → σ → Prop) :
    Config σ Q A α → Config σ Q A α → Prop where
  | other {p s s'} (h : M.other s s') : Machine.Step prog allowed ⟨p, s⟩ ⟨p, s'⟩
  | start {s} (op : Op) (h : allowed op s) : Machine.Step prog allowed ⟨none, s⟩ ⟨some (prog op), s⟩
  | read {k s} : Machine.Step prog allowed ⟨some (.read k), s⟩ ⟨some (k s), s⟩
  | write {f k s} : Machine.Step prog allowed ⟨some (.write f k), s⟩ ⟨some k, f s⟩
  | call {q k s a} (h : M.env q s a) :
      Machine.Step prog allowed ⟨some (.call q k), s⟩ ⟨some (k a), M.effect q a s⟩
  | finish {a s} : Machine.Step prog allowed ⟨some (.ret a), s⟩ ⟨none, s⟩

/-- Some run leads from the first configuration to the second. -/
def Machine.Leads (prog : Op → Prog σ Q A α) (allowed : Op → σ → Prop) :
    Config σ Q A α → Config σ Q A α → Prop :=
  Relation.ReflTransGen (M.Step prog allowed)

/-- Where the others may have moved the store. -/
def Machine.Drifts : σ → σ → Prop := Relation.ReflTransGen M.other

/-- The others cannot invalidate it. -/
def Machine.Stable (P : σ → Prop) : Prop := ∀ s s', P s → M.other s s' → P s'

variable {M}

variable {P : σ → Prop} {s : σ}

theorem Machine.Stable.drifts (hP : M.Stable P) {s' : σ} (h : P s) (hd : M.Drifts s s') : P s' := by
  induction hd with
  | refl => exact h
  | tail _ hstep ih => exact hP _ _ ih hstep

/-! ## The logic -/

/-- Every own step is in `C`, wherever the others have moved the store by then, and every result is
    in `post`, whatever they do afterwards. -/
def Machine.Keeps (M : Machine σ Q A) (C : σ → σ → Prop) :
    Prog σ Q A α → (α → σ → Prop) → σ → Prop
  | .ret a, post, s => ∀ s', M.Drifts s s' → post a s'
  | .read k, post, s => ∀ s', M.Drifts s s' → Keeps M C (k s') post s'
  | .write f k, post, s =>
    ∀ s', M.Drifts s s' → C s' (f s') ∧ Keeps M C k post (f s')
  | .call q k, post, s => ∀ s', M.Drifts s s' → ∀ a, M.env q s' a →
    C s' (M.effect q a s') ∧ Keeps M C (k a) post (M.effect q a s')

variable {C : σ → σ → Prop}

variable {p : Prog σ Q A α} {post : α → σ → Prop}

/-- What is kept is kept after the others have moved. -/
theorem Machine.Keeps.drifts {s' : σ} (h : M.Keeps C p post s) (hd : M.Drifts s s') :
    M.Keeps C p post s' := by
  cases p with
  | ret a | read k | write f k | call q k => exact fun t ht => h t (hd.trans ht)

/-- One step of the operation itself. -/
inductive Machine.Move (M : Machine σ Q A) : Prog σ Q A α → σ → Prog σ Q A α → σ → Prop where
  | read {k s} : Machine.Move M (.read k) s (k s) s
  | write {f k s} : Machine.Move M (.write f k) s k (f s)
  | call {q k s a} (h : M.env q s a) : Machine.Move M (.call q k) s (k a) (M.effect q a s)

/-- It is in `C`, if it does anything at all. -/
theorem Machine.Keeps.move {p' : Prog σ Q A α} {s' : σ} (h : M.Keeps C p post s)
    (hmove : M.Move p s p' s') : (s' = s ∨ C s s') ∧ M.Keeps C p' post s' := by
  cases hmove with
  | read => exact ⟨.inl rfl, h _ .refl⟩
  | write => exact ⟨.inr (h _ .refl).1, (h _ .refl).2⟩
  | call ha => exact ⟨.inr (h _ .refl _ ha).1, (h _ .refl _ ha).2⟩

/-- **Consequence.** -/
theorem Machine.Keeps.mono {C' : σ → σ → Prop} {post' : α → σ → Prop} (h : M.Keeps C p post s)
    (hC : ∀ s s', C s s' → C' s s') (hpost : ∀ a s, post a s → post' a s) :
    M.Keeps C' p post' s := by
  induction p generalizing s with
  | ret a => exact fun t ht => hpost a t (h t ht)
  | read k ih => exact fun t ht => ih t (h t ht)
  | write f k ih => exact fun t ht => ⟨hC _ _ (h t ht).1, ih (h t ht).2⟩
  | call q k ih => exact fun t ht a ha => ⟨hC _ _ (h t ht a ha).1, ih a (h t ht a ha).2⟩

variable {k : α → Prog σ Q A β}

namespace Machine

/-- **Composition.** -/
theorem keeps_bind {post : β → σ → Prop}
    (h : M.Keeps C p (fun a s => M.Keeps C (k a) post s) s) : M.Keeps C (p >>= k) post s := by
  show M.Keeps C (p.bind k) post s
  induction p generalizing s with
  | ret a => exact h s .refl
  | read g ih => exact fun t ht => ih t (h t ht)
  | write f g ih => exact fun t ht => ⟨(h t ht).1, ih (h t ht).2⟩
  | call q g ih => exact fun t ht a ha => ⟨(h t ht a ha).1, ih a (h t ht a ha).2⟩

/-- **Two postconditions of one program meet**, if every question can be answered: there is a run,
    and its result is in both. -/
theorem Keeps.meet {C' : σ → σ → Prop} {post' : α → σ → Prop} (env : (q : Q) → σ → A q)
    (henv : ∀ q s, M.env q s (env q s)) (h : M.Keeps C p post s) (h' : M.Keeps C' p post' s) :
    ∃ a t, post a t ∧ post' a t := by
  induction p generalizing s with
  | ret a => exact ⟨a, s, h s .refl, h' s .refl⟩
  | read k ih => exact ih s (h s .refl) (h' s .refl)
  | write f k ih => exact ih (h s .refl).2 (h' s .refl).2
  | call q k ih => exact ih _ (h s .refl _ (henv q s)).2 (h' s .refl _ (henv q s)).2

/-- From every store in `P`, every own step is in `C` and every result in `post`. -/
def Triple (M : Machine σ Q A) (C : σ → σ → Prop) (P : σ → Prop) (p : Prog σ Q A α)
    (post : α → σ → Prop) : Prop :=
  ∀ s, P s → M.Keeps C p post s

theorem triple_ret {a : α} (hpost : M.Stable (post a)) (h : ∀ s, P s → post a s) :
    M.Triple C P (.ret a) post :=
  fun s hs _ hd => hpost.drifts (h s hs) hd

/-- Looking at the store: of what was seen, only what the others cannot change may be used. -/
theorem triple_read {k : σ → Prog σ Q A α} (hP : M.Stable P)
    (h : ∀ v, P v → M.Keeps C (k v) post v) : M.Triple C P (.read k) post :=
  fun _ hs v hd => h v (hP.drifts hs hd)

theorem triple_modify {R : σ → Prop} {f : σ → σ} (hP : M.Stable P) (hR : M.Stable R)
    (h : ∀ s, P s → C s (f s) ∧ R (f s)) :
    M.Triple C P (modify f : Prog σ Q A Unit) (fun _ => R) := by
  intro s hs t hd
  obtain ⟨hC, hr⟩ := h t (hP.drifts hs hd)
  exact ⟨hC, fun _ hd' => hR.drifts hr hd'⟩

theorem triple_ask {q : Q} {R : A q → σ → Prop} (hP : M.Stable P) (hR : ∀ a, M.Stable (R a))
    (h : ∀ s a, P s → M.env q s a → C s (M.effect q a s) ∧ R a (M.effect q a s)) :
    M.Triple C P (ask q : Prog σ Q A (A q)) R := by
  intro s hs t hd a ha
  obtain ⟨hC, hr⟩ := h t a (hP.drifts hs hd) ha
  exact ⟨hC, fun _ hd' => (hR a).drifts hr hd'⟩

theorem triple_bind {mid : α → σ → Prop} {post : β → σ → Prop} (hp : M.Triple C P p mid)
    (hk : ∀ a, M.Triple C (mid a) (k a) post) : M.Triple C P (p >>= k) post :=
  fun s hs => keeps_bind ((hp s hs).mono (fun _ _ => id) fun a t ht => hk a t ht)

theorem triple_ite {c : Prop} [Decidable c] {q : Prog σ Q A α}
    (hp : c → M.Triple C P p post) (hq : ¬ c → M.Triple C P q post) :
    M.Triple C P (if c then p else q) post := by
  by_cases h : c
  · rw [if_pos h]
    exact hp h
  · rw [if_neg h]
    exact hq h

end Machine

/-! ## Whole runs -/

variable {prog : Op → Prog σ Q A α} {allowed : Op → σ → Prop}

/-- Where the logic stands in the middle of a run. -/
def Config.Kept (M : Machine σ Q A) (C : σ → σ → Prop) (K : σ → Prop) :
    Config σ Q A α → Prop
  | ⟨none, s⟩ => K s
  | ⟨some p, s⟩ => M.Keeps C p (fun _ => K) s

variable {K : σ → Prop} {c c' : Config σ Q A α}

/-- An operation that has started keeps what it keeps. -/
theorem Config.Kept.step (hK : M.Stable K)
    (hop : ∀ op s, allowed op s → K s → M.Keeps C (prog op) (fun _ => K) s) (h : c.Kept M C K)
    (hstep : M.Step prog allowed c c') : c'.Kept M C K := by
  cases hstep with
  | @other p s s' ho =>
    cases p with
    | none => exact hK _ _ h ho
    | some p => exact Machine.Keeps.drifts h (.single ho)
  | start op ha => exact hop op _ ha h
  | read => exact h _ .refl
  | write => exact (h _ .refl).2
  | call ha => exact (h _ .refl _ ha).2
  | finish => exact h _ .refl

/-- **A step is everybody else's, or one the logic allows**, or moves nothing. -/
theorem Config.Kept.step_cases (h : c.Kept M C K) (hstep : M.Step prog allowed c c') :
    M.other c.store c'.store ∨ c'.store = c.store ∨ C c.store c'.store := by
  cases hstep with
  | other ho => exact .inl ho
  | start op ha => exact .inr (.inl rfl)
  | read => exact .inr (.inl rfl)
  | write => exact .inr (.inr (h _ .refl).1)
  | call ha => exact .inr (.inr (h _ .refl _ ha).1)
  | finish => exact .inr (.inl rfl)

/-- **The relation rule.** A preorder that contains every own step and every step of the others
    holds between any two configurations of a run, the first of which is between operations. -/
theorem Machine.later_rel {T : σ → σ → Prop} (hK : M.Stable K) (hrefl : ∀ s, T s s)
    (htrans : ∀ s t u, T s t → T t u → T s u) (hother : ∀ s s', M.other s s' → T s s')
    (hop : ∀ op s, allowed op s → K s → M.Keeps T (prog op) (fun _ => K) s) (h0 : c.Kept M T K)
    (h : M.Leads prog allowed c c') : T c.store c'.store ∧ c'.Kept M T K := by
  induction h with
  | refl => exact ⟨hrefl _, h0⟩
  | @tail b d _ hstep ih =>
    refine ⟨htrans _ _ _ ih.1 ?_, ih.2.step hK hop hstep⟩
    rcases ih.2.step_cases hstep with ho | hsame | hT
    · exact hother _ _ ho
    · rw [hsame]
      exact hrefl _
    · exact hT

/-- **The invariant rule.** `J` holds in every configuration of every run if it holds at the start,
    every own step ends in it and the others keep it; `K` is what holds between operations. -/
theorem Machine.reachable_inv {J : σ → Prop} (hJ : M.Stable J) (hK : M.Stable K)
    (hC : ∀ s s', C s s' → J s')
    (hop : ∀ op s, allowed op s → K s → M.Keeps C (prog op) (fun _ => K) s) (h0 : J c.store)
    (hk0 : c.Kept M C K) (h : M.Leads prog allowed c c') : J c'.store ∧ c'.Kept M C K := by
  induction h with
  | refl => exact ⟨h0, hk0⟩
  | @tail b d _ hstep ih =>
    refine ⟨?_, ih.2.step hK hop hstep⟩
    rcases ih.2.step_cases hstep with ho | hsame | hown
    · exact hJ _ _ ih.1 ho
    · rw [hsame]
      exact ih.1
    · exact hC _ _ hown

/-! ## An operation by itself -/

/-- Undisturbed, the operation may return `b` and leave `t`. -/
def Machine.Ends (M : Machine σ Q A) : Prog σ Q A α → σ → α → σ → Prop
  | .ret a, s, b, t => b = a ∧ t = s
  | .read k, s, b, t => Ends M (k s) s b t
  | .write f k, s, b, t => Ends M k (f s) b t
  | .call q k, s, b, t => ∃ a, M.env q s a ∧ Ends M (k a) (M.effect q a s) b t

theorem Machine.ends_bind {t : σ} {b : β} :
    M.Ends (p >>= k) s b t ↔ ∃ a u, M.Ends p s a u ∧ M.Ends (k a) u b t := by
  show M.Ends (p.bind k) s b t ↔ _
  induction p generalizing s with
  | ret a =>
    refine ⟨fun h => ⟨a, s, ⟨rfl, rfl⟩, h⟩, ?_⟩
    rintro ⟨_, _, ⟨rfl, rfl⟩, h⟩
    exact h
  | read g ih => exact ih s
  | write f g ih => exact ih
  | call q g ih =>
    constructor
    · rintro ⟨x, hx, h⟩
      obtain ⟨a, u, hp, hk⟩ := (ih x).mp h
      exact ⟨a, u, ⟨x, hx, hp⟩, hk⟩
    · rintro ⟨a, u, ⟨x, hx, hp⟩, hk⟩
      exact ⟨x, hx, (ih x).mpr ⟨a, u, hp, hk⟩⟩

/-- The error of an attempt is its own, or that of what follows it. -/
theorem Machine.ends_attempt_error {ε : Type} {p : Prog σ Q A (Except ε α)}
    {k : α → Prog σ Q A (Except ε β)} {t : σ} {e : ε} :
    M.Ends (attempt p k) s (.error e) t ↔
      M.Ends p s (.error e) t ∨ ∃ a u, M.Ends p s (.ok a) u ∧ M.Ends (k a) u (.error e) t := by
  refine Iff.trans ends_bind ⟨?_, ?_⟩
  · rintro ⟨r, u, hp, hk⟩
    cases r with
    | error e' =>
      obtain ⟨he, rfl⟩ := hk
      cases he
      exact .inl hp
    | ok a => exact .inr ⟨a, u, hp, hk⟩
  · rintro (hp | ⟨a, u, hp, hk⟩)
    · exact ⟨.error e, t, hp, rfl, rfl⟩
    · exact ⟨.ok a, u, hp, hk⟩

/-! ## Exhibiting runs -/

/-- `n` own steps with the answers of `env`. -/
def Config.advance (M : Machine σ Q A) (env : (q : Q) → σ → A q) :
    Nat → Config σ Q A α → Config σ Q A α
  | 0, c => c
  | n + 1, ⟨some (.read k), s⟩ => advance M env n ⟨some (k s), s⟩
  | n + 1, ⟨some (.write f k), s⟩ => advance M env n ⟨some k, f s⟩
  | n + 1, ⟨some (.call q k), s⟩ =>
    advance M env n ⟨some (k (env q s)), M.effect q (env q s) s⟩
  | _ + 1, ⟨some (.ret _), s⟩ => ⟨none, s⟩
  | _ + 1, ⟨none, s⟩ => ⟨none, s⟩

/-- The answers given in those steps are possible ones. -/
def Config.Possible (M : Machine σ Q A) (env : (q : Q) → σ → A q) :
    Nat → Config σ Q A α → Prop
  | 0, _ => True
  | n + 1, ⟨some (.read k), s⟩ => Possible M env n ⟨some (k s), s⟩
  | n + 1, ⟨some (.write f k), s⟩ => Possible M env n ⟨some k, f s⟩
  | n + 1, ⟨some (.call q k), s⟩ => M.env q s (env q s) ∧
    Possible M env n ⟨some (k (env q s)), M.effect q (env q s) s⟩
  | _ + 1, ⟨some (.ret _), _⟩ => True
  | _ + 1, ⟨none, _⟩ => True

variable {env : (q : Q) → σ → A q}

/-- Answers that are possible everywhere are possible here. -/
theorem Config.possible_of (henv : ∀ q s, M.env q s (env q s)) (n : Nat) (c : Config σ Q A α) :
    c.Possible M env n := by
  induction n generalizing c with
  | zero => exact trivial
  | succ n ih =>
    obtain ⟨p, s⟩ := c
    cases p with
    | none => exact trivial
    | some p =>
      cases p with
      | ret a => exact trivial
      | read k => exact ih _
      | write f k => exact ih _
      | call q k => exact ⟨henv q s, ih _⟩

theorem Machine.leads_advance (n : Nat) (c : Config σ Q A α) (h : c.Possible M env n) :
    M.Leads prog allowed c (c.advance M env n) := by
  induction n generalizing c with
  | zero => exact .refl
  | succ n ih =>
    obtain ⟨p, s⟩ := c
    cases p with
    | none => exact .refl
    | some p =>
      cases p with
      | ret a => exact .single .finish
      | read k => exact .head .read (ih _ h)
      | write f k => exact .head .write (ih _ h)
      | call q k => exact .head (.call h.1) (ih _ h.2)

/-- A whole operation, undisturbed. -/
theorem Machine.leads_complete (op : Op) (n : Nat) (ha : allowed op s)
    (h : Config.Possible M env n ⟨some (prog op), s⟩)
    (hdone : (Config.advance M env n ⟨some (prog op), s⟩).pending = none) :
    M.Leads prog allowed ⟨none, s⟩ ⟨none, (Config.advance M env n ⟨some (prog op), s⟩).store⟩ := by
  have hrun : M.Leads prog allowed ⟨none, s⟩ (Config.advance M env n ⟨some (prog op), s⟩) :=
    .head (.start op ha) (leads_advance n _ h)
  generalize Config.advance M env n ⟨some (prog op), s⟩ = c at hrun hdone
  obtain ⟨p, s'⟩ := c
  subst hdone
  exact hrun

end System

end Durable

