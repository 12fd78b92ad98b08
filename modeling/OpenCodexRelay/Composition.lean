/-
  Two components, one of which serves the other's questions.

  A program over one store asks questions; some of them are answered by a component that has a store
  and programs of its own.  Composing the two replaces such a question by the program that answers
  it:

  1. `Prog.beside` runs a program of the second component in the composed store, `Prog.serve` a
     program of the first, with its served questions replaced (`serve_bind`: also in a sequence).
  2. `Machine.pair` is the composed machine: the first store is changed by nobody else, the second
     by whatever its own machine allows.
  3. `keeps_beside` and `keeps_serve` carry what is known of each component over to the composition:
     a served program steps through its own questions as `Safe` says, and the second component keeps
     whatever is stable in the meantime.
-/
import OpenCodexRelay.Interleaved

namespace Durable

section Composition

variable {σ τ Q R : Type} {A : Q → Type} {B : R → Type} {α β : Type}

/-- The answers of a composed program. -/
abbrev PairAnswer (A : Q → Type) (B : R → Type) : Q ⊕ R → Type
  | .inl q => A q
  | .inr r => B r

/-- A program of the second component. -/
def Prog.beside (σ Q : Type) (A : Q → Type) : Prog τ R B α → Prog (σ × τ) (Q ⊕ R) (PairAnswer A B) α
  | .ret a => .ret a
  | .read k => .read fun s => (k s.2).beside σ Q A
  | .write f k => .write (fun s => (s.1, f s.2)) (k.beside σ Q A)
  | .call r k => .call (.inr r) fun b => (k b).beside σ Q A

/-- A question of the first component: put to the second if that serves it. -/
def Prog.served (handler : (q : Q) → Option (Prog τ R B (A q))) (q : Q)
    (rest : A q → Prog (σ × τ) (Q ⊕ R) (PairAnswer A B) α) :
    Prog (σ × τ) (Q ⊕ R) (PairAnswer A B) α :=
  match handler q with
  | some p => p.beside σ Q A >>= rest
  | none => .call (.inl q) rest

/-- A program of the first component, with the questions `handler` knows served by the second. -/
def Prog.serve (handler : (q : Q) → Option (Prog τ R B (A q))) :
    Prog σ Q A α → Prog (σ × τ) (Q ⊕ R) (PairAnswer A B) α
  | .ret a => .ret a
  | .read k => .read fun s => (k s.1).serve handler
  | .write f k => .write (fun s => (f s.1, s.2)) (k.serve handler)
  | .call q k => served handler q fun a => (k a).serve handler

/-- The composed machine. -/
def Machine.pair (E : Env σ Q A) (M : Machine τ R B) :
    Machine (σ × τ) (Q ⊕ R) (PairAnswer A B) where
  env := fun
    | .inl q, s, a => E q s.1 a
    | .inr r, s, b => M.env r s.2 b
  effect := fun
    | .inl _, _, s => s
    | .inr r, b, s => (s.1, M.effect r b s.2)
  other := fun s s' => s'.1 = s.1 ∧ M.other s.2 s'.2

variable {handler : (q : Q) → Option (Prog τ R B (A q))}

theorem served_none {q : Q} {rest : A q → Prog (σ × τ) (Q ⊕ R) (PairAnswer A B) α}
    (h : handler q = none) : Prog.served handler q rest = .call (.inl q) rest := by
  unfold Prog.served
  rw [h]

theorem served_some {q : Q} {rest : A q → Prog (σ × τ) (Q ⊕ R) (PairAnswer A B) α}
    {p : Prog τ R B (A q)} (h : handler q = some p) :
    Prog.served handler q rest = p.beside σ Q A >>= rest := by
  unfold Prog.served
  rw [h]

theorem served_bind {q : Q} (rest : A q → Prog (σ × τ) (Q ⊕ R) (PairAnswer A B) α)
    (k : α → Prog (σ × τ) (Q ⊕ R) (PairAnswer A B) β) :
    Prog.served handler q rest >>= k = Prog.served handler q fun a => rest a >>= k := by
  cases h : handler q with
  | none =>
    rw [served_none h, served_none h]
    rfl
  | some p =>
    rw [served_some h, served_some h]
    exact Prog.bind_assoc _ _ _

theorem serve_bind (p : Prog σ Q A α) (k : α → Prog σ Q A β) :
    (p >>= k).serve handler = p.serve handler >>= fun a => (k a).serve handler := by
  show (p.bind k).serve handler = (p.serve handler).bind fun a => (k a).serve handler
  induction p with
  | ret a => rfl
  | read g ih => exact congrArg Prog.read (funext fun s => ih s.1)
  | write f g ih => exact congrArg (Prog.write _) ih
  | call q g ih =>
    have hrest : (fun a => ((g a).bind k).serve handler) =
        fun a => (g a).serve handler >>= fun b => (k b).serve handler := funext ih
    show Prog.served handler q (fun a => ((g a).bind k).serve handler) =
      Prog.served handler q (fun a => (g a).serve handler) >>= fun a => (k a).serve handler
    rw [served_bind, hrest]

variable {E : Env σ Q A} {M : Machine τ R B}

/-- Only the second store drifts. -/
theorem Machine.pair_drifts {x x' : σ × τ} (h : (pair E M).Drifts x x') :
    x'.1 = x.1 ∧ M.Drifts x.2 x'.2 := by
  induction h with
  | refl => exact ⟨rfl, .refl⟩
  | tail _ hstep ih => exact ⟨hstep.1.trans ih.1, ih.2.tail hstep.2⟩

/-- **The second component alone**: the first store stays. -/
theorem Machine.keeps_beside {C : τ → τ → Prop} {p : Prog τ R B α} {post : α → τ → Prop} {s : σ}
    {t : τ} (h : M.Keeps C p post t) :
    (pair E M).Keeps (fun x y => y.1 = x.1 ∧ C x.2 y.2) (p.beside σ Q A)
      (fun a x => x.1 = s ∧ post a x.2) (s, t) := by
  induction p generalizing t with
  | ret a =>
    intro x hx
    obtain ⟨h1, h2⟩ := pair_drifts hx
    exact ⟨h1, h _ h2⟩
  | read k ih =>
    rintro ⟨s', t'⟩ hx
    obtain ⟨rfl, h2⟩ := pair_drifts hx
    exact ih t' (h t' h2)
  | write f k ih =>
    rintro ⟨s', t'⟩ hx
    obtain ⟨rfl, h2⟩ := pair_drifts hx
    obtain ⟨hC, hk⟩ := h t' h2
    exact ⟨⟨rfl, hC⟩, ih hk⟩
  | call r k ih =>
    rintro ⟨s', t'⟩ hx b hb
    obtain ⟨rfl, h2⟩ := pair_drifts hx
    obtain ⟨hC, hk⟩ := h t' h2 b hb
    exact ⟨⟨rfl, hC⟩, ih b hk⟩

/-- **The first component**, as far as none of its questions is served: what is stable for the
    second is still there afterwards. -/
theorem Machine.keeps_serve {C : Event σ Q A → Prop} {p : Prog σ Q A α} {post : α → σ → Prop}
    {P : τ → Prop} {s : σ} {t : τ} (h : Safe E C p post s)
    (hC : ∀ q s, C (.asked q s) → handler q = none) (hP : M.Stable P) (ht : P t) :
    (pair E M).Keeps (fun _ _ => True) (p.serve handler)
      (fun a x => post a x.1 ∧ P x.2) (s, t) := by
  induction p generalizing s t with
  | ret a =>
    intro x hx
    obtain ⟨h1, h2⟩ := pair_drifts hx
    rw [h1]
    exact ⟨h, hP.drifts ht h2⟩
  | read k ih =>
    rintro ⟨s', t'⟩ hx
    obtain ⟨rfl, h2⟩ := pair_drifts hx
    exact ih _ h (hP.drifts ht h2)
  | write f k ih =>
    rintro ⟨s', t'⟩ hx
    obtain ⟨rfl, h2⟩ := pair_drifts hx
    exact ⟨trivial, ih h.2 (hP.drifts ht h2)⟩
  | call q k ih =>
    show (pair E M).Keeps _ (Prog.served handler q _) _ _
    rw [served_none (hC q s h.1)]
    rintro ⟨s', t'⟩ hx a ha
    obtain ⟨rfl, h2⟩ := pair_drifts hx
    exact ⟨trivial, ih a (h.2 a ha) (hP.drifts ht h2)⟩

/-- A question the second component serves, and what follows. -/
theorem Machine.keeps_asked {C : τ → τ → Prop} {q : Q} {p : Prog τ R B (A q)}
    {k : A q → Prog σ Q A α} {mid : A q → τ → Prop} {post : α → σ × τ → Prop} {s : σ} {t : τ}
    (hq : handler q = some p) (h : M.Keeps C p mid t)
    (hk : ∀ a t', mid a t' →
      (pair E M).Keeps (fun _ _ => True) ((k a).serve handler) post (s, t')) :
    (pair E M).Keeps (fun _ _ => True) ((Prog.call q k).serve handler) post (s, t) := by
  show (pair E M).Keeps _ (Prog.served handler q _) _ _
  rw [served_some hq]
  refine keeps_bind ((keeps_beside h).mono (fun _ _ _ => trivial) ?_)
  rintro a ⟨s', t'⟩ ⟨rfl, hm⟩
  exact hk a t' hm

/-- A part of which nothing is served, and what follows. -/
theorem Machine.keeps_serve_bind {C : Event σ Q A → Prop} {p : Prog σ Q A α}
    {k : α → Prog σ Q A β} {mid : α → σ → Prop} {P : τ → Prop} {post : β → σ × τ → Prop} {s : σ}
    {t : τ} (h : Safe E C p mid s) (hC : ∀ q s, C (.asked q s) → handler q = none)
    (hP : M.Stable P) (ht : P t)
    (hk : ∀ a s' t', mid a s' → P t' →
      (pair E M).Keeps (fun _ _ => True) ((k a).serve handler) post (s', t')) :
    (pair E M).Keeps (fun _ _ => True) ((p >>= k).serve handler) post (s, t) := by
  rw [serve_bind]
  refine keeps_bind ((keeps_serve h hC hP ht).mono (fun _ _ h => h) ?_)
  rintro a ⟨s', t'⟩ ⟨hm, hp⟩
  exact hk a s' t' hm hp

end Composition

end Durable
