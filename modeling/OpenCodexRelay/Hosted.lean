/-
  Operations beside a process that answers them.

  The operations are programs over a durable store; one of them is under way at a time and may die
  anywhere.  Next to them runs a process with a state of its own.  It may look at the store and never
  writes it; it changes at any moment, and it is what some of the operations' questions are put to: to
  ask is one step, to be answered a later one, and in between the process goes on.

  1. `Hosted`, `Hosted.Step`: the two together, and their runs (`Hosted.Leads`).
  2. `Hosted.Coupled`: an invariant that binds the store to the process.  It may depend on what the
     operation under way has done so far, so the programs owe `Traced` and not merely `Safe`.
  3. `Coupled.leads`: it holds in every position of every run; `Coupled.returned` adds the
     postcondition of an operation that has just returned.
  4. `Position.advance`: an executable scheduler for the own steps, to exhibit runs.
-/
import OpenCodexRelay.Durable

namespace Durable

/-- Operations, and a process beside them. -/
structure Hosted (σ τ Q : Type) (A : Q → Type) (Op : Type) where
  Result : Op → Type
  prog : (op : Op) → Prog σ Q A (Result op)
  /-- Where an operation may be started. -/
  allowed : Op → σ → τ → Prop
  /-- A step of the process. -/
  step : σ → τ → τ → Prop
  /-- What putting a question does to the process. -/
  ask : Q → σ → τ → τ → Prop
  /-- The answers it can be given. -/
  reply : (q : Q) → σ → τ → A q → Prop

section Hosted

variable {σ τ Q : Type} {A : Q → Type} {Op : Type}

/-- What is left of the operation under way, whether the question it is at has been put, and the
    two states. -/
structure Hosted.Position (S : Hosted σ τ Q A Op) where
  pending : Option ((op : Op) × Prog σ Q A (S.Result op))
  asked : Bool
  store : σ
  host : τ

variable (S : Hosted σ τ Q A Op)

/-- **One step of the two together.** -/
inductive Hosted.Step : S.Position → S.Position → Prop where
  | host {p asked s t t'} (h : S.step s t t') : Hosted.Step ⟨p, asked, s, t⟩ ⟨p, asked, s, t'⟩
  | start {s t} (op : Op) (h : S.allowed op s t) :
      Hosted.Step ⟨none, false, s, t⟩ ⟨some ⟨op, S.prog op⟩, false, s, t⟩
  | read {op k s t} :
      Hosted.Step ⟨some ⟨op, .read k⟩, false, s, t⟩ ⟨some ⟨op, k s⟩, false, s, t⟩
  | write {op f k s t} :
      Hosted.Step ⟨some ⟨op, .write f k⟩, false, s, t⟩ ⟨some ⟨op, k⟩, false, f s, t⟩
  | ask {op q k s t t'} (h : S.ask q s t t') :
      Hosted.Step ⟨some ⟨op, .call q k⟩, false, s, t⟩ ⟨some ⟨op, .call q k⟩, true, s, t'⟩
  | answer {op q k s t a} (h : S.reply q s t a) :
      Hosted.Step ⟨some ⟨op, .call q k⟩, true, s, t⟩ ⟨some ⟨op, k a⟩, false, s, t⟩
  | finish {op r s t} : Hosted.Step ⟨some ⟨op, .ret r⟩, false, s, t⟩ ⟨none, false, s, t⟩
  /-- The process that carries the operation out dies. -/
  | crash {p asked s t} : Hosted.Step ⟨p, asked, s, t⟩ ⟨none, false, s, t⟩

/-- Some run leads from the first position to the second. -/
def Hosted.Leads : S.Position → S.Position → Prop := Relation.ReflTransGen S.Step

/-! ## Invariants -/

/-- **The store is bound to the process by `I`**, given what the operation has done so far: every
    step of the process keeps it, and so does every event that meets `C`. -/
structure Hosted.Coupled (C : List (Event σ Q A) → Event σ Q A → Prop)
    (I : List (Event σ Q A) → σ → τ → Prop) : Prop where
  host : ∀ {past s t t'}, I past s t → S.step s t t' → I past s t'
  write : ∀ {past s s' t}, I past s t → C past (.wrote s s') → I (past ++ [.wrote s s']) s' t
  ask : ∀ {past q s t t'}, I past s t → C past (.asked q s) → S.ask q s t t' →
    I (past ++ [.asked q s]) s t'
  answer : ∀ {past q s t a}, I (past ++ [.asked q s]) s t → S.reply q s t a →
    I (past ++ [.asked q s, .answered q a]) s t
  /-- What has been done is forgotten with the operation. -/
  forget : ∀ {past s t}, I past s t → I [] s t

variable {S}
variable {C : List (Event σ Q A) → Event σ Q A → Prop} {I : List (Event σ Q A) → σ → τ → Prop}
variable {post : (op : Op) → S.Result op → σ → List (Event σ Q A) → Prop}

/-- Where the operation is, given what it has done. -/
def Hosted.Position.Remains (C : List (Event σ Q A) → Event σ Q A → Prop)
    (post : (op : Op) → S.Result op → σ → List (Event σ Q A) → Prop) (x : S.Position)
    (past : List (Event σ Q A)) : Prop :=
  match x.pending, x.asked with
  | none, _ => True
  | some ⟨op, p⟩, false => Traced anyAnswer C p (post op) x.store past
  | some ⟨op, .call q k⟩, true => ∃ before, past = before ++ [.asked q x.store] ∧
      ∀ a, Traced anyAnswer C (k a) (post op) x.store (before ++ [.asked q x.store, .answered q a])
  | some _, true => False

/-- The invariant of a position. -/
def Hosted.Position.Bound (C : List (Event σ Q A) → Event σ Q A → Prop)
    (I : List (Event σ Q A) → σ → τ → Prop)
    (post : (op : Op) → S.Result op → σ → List (Event σ Q A) → Prop) (x : S.Position) : Prop :=
  ∃ past, I past x.store x.host ∧ x.Remains C post past

/-- **One step keeps the invariant.** -/
theorem Hosted.Coupled.step (hC : S.Coupled C I)
    (hop : ∀ op s t, S.allowed op s t → I [] s t → Traced anyAnswer C (S.prog op) (post op) s [])
    {x y : S.Position} (hx : x.Bound C I post) (h : S.Step x y) : y.Bound C I post := by
  obtain ⟨past, hI, hrest⟩ := hx
  cases h with
  | host h => exact ⟨past, hC.host hI h, hrest⟩
  | start op h => exact ⟨[], hC.forget hI, hop op _ _ h (hC.forget hI)⟩
  | read => exact ⟨past, hI, hrest⟩
  | write => exact ⟨_, hC.write hI hrest.1, hrest.2⟩
  | ask h => exact ⟨_, hC.ask hI hrest.1 h, past, rfl, fun a => hrest.2 a trivial⟩
  | answer h =>
    obtain ⟨before, rfl, hk⟩ := hrest
    exact ⟨_, hC.answer hI h, hk _⟩
  | finish => exact ⟨past, hI, trivial⟩
  | crash => exact ⟨past, hI, trivial⟩

/-- **In every position of every run** the store is bound to the process. -/
theorem Hosted.Coupled.leads (hC : S.Coupled C I)
    (hop : ∀ op s t, S.allowed op s t → I [] s t → Traced anyAnswer C (S.prog op) (post op) s [])
    {s0 : σ} {t0 : τ} (h0 : I [] s0 t0) {x : S.Position} (h : S.Leads ⟨none, false, s0, t0⟩ x) :
    x.Bound C I post := by
  induction h with
  | refl => exact ⟨[], h0, trivial⟩
  | tail _ hstep ih => exact hC.step hop ih hstep

/-- An operation that has returned has established its postcondition. -/
theorem Hosted.Position.Bound.returned {x : S.Position} (h : x.Bound C I post) {op : Op}
    {r : S.Result op} (hr : x.pending = some ⟨op, .ret r⟩) :
    ∃ past, I past x.store x.host ∧ post op r x.store past := by
  obtain ⟨pending, asked, s, t⟩ := x
  obtain ⟨past, hI, hrest⟩ := h
  cases hr
  cases asked with
  | false => exact ⟨past, hI, hrest⟩
  | true => exact hrest.elim

/-! ## Exhibiting runs -/

/-- The process moves on its own. -/
theorem Hosted.leads_host {p : Option ((op : Op) × Prog σ Q A (S.Result op))} {asked : Bool} {s : σ}
    {t t' : τ} (h : Relation.ReflTransGen (S.step s) t t') :
    S.Leads ⟨p, asked, s, t⟩ ⟨p, asked, s, t'⟩ := by
  induction h with
  | refl => exact .refl
  | tail _ hstep ih => exact ih.tail (.host hstep)

/-- How the process reacts to a question, and what it answers; `none` is to leave it open. -/
abbrev Reaction (σ τ Q : Type) (A : Q → Type) := (q : Q) → σ → τ → Option (τ × A q)

/-- It can react like this. -/
def Hosted.Possible (S : Hosted σ τ Q A Op) (react : Reaction σ τ Q A) : Prop :=
  ∀ q s t t' a, react q s t = some (t', a) →
    ∃ t₁, S.ask q s t t₁ ∧ Relation.ReflTransGen (S.step s) t₁ t' ∧ S.reply q s t' a

/-- One own step, a question with its reaction. -/
def Hosted.Position.next (react : Reaction σ τ Q A) (x : S.Position) : S.Position :=
  match x with
  | ⟨some ⟨op, .read k⟩, false, s, t⟩ => ⟨some ⟨op, k s⟩, false, s, t⟩
  | ⟨some ⟨op, .write f k⟩, false, s, t⟩ => ⟨some ⟨op, k⟩, false, f s, t⟩
  | ⟨some ⟨op, .call q k⟩, false, s, t⟩ => match react q s t with
    | some (t', a) => ⟨some ⟨op, k a⟩, false, s, t'⟩
    | none => ⟨some ⟨op, .call q k⟩, false, s, t⟩
  | x => x

def Hosted.Position.advance (react : Reaction σ τ Q A) : Nat → S.Position → S.Position
  | 0, x => x
  | n + 1, x => (x.next react).advance react n

theorem Hosted.leads_next {react : Reaction σ τ Q A} (h : S.Possible react) (x : S.Position) :
    S.Leads x (x.next react) := by
  unfold Position.next
  split
  · exact .single .read
  · exact .single .write
  · rename_i op q k s t
    split
    · rename_i t' a hreact
      obtain ⟨t1, hask, hsteps, hreply⟩ := h q s t t' a hreact
      exact (Relation.ReflTransGen.single (.ask hask)).trans
        ((leads_host hsteps).tail (.answer hreply))
    · exact .refl
  · exact .refl

theorem Hosted.leads_advance {react : Reaction σ τ Q A} (h : S.Possible react) (n : Nat)
    (x : S.Position) : S.Leads x (x.advance react n) := by
  induction n generalizing x with
  | zero => exact .refl
  | succ n ih => exact (leads_next h x).trans (ih _)

end Hosted

end Durable
