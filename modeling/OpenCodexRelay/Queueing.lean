/-
  Shared capacity — tables of holders, queues served in order, and runs of atomic steps.

  A process that hands out a bounded resource keeps three kinds of data: a COUNTER of what is in
  use, a QUEUE of those that wait, and the TABLES of the holders.  Every operation is a short atomic
  section; what has to hold is that the counter is the sum of what the holders hold, that it stays
  within its bound, and that nobody waits in front of free capacity.

  1. `Run`: the runs of a machine of atomic, labelled steps.  A run remembers every step it took
     together with the state it was taken in, so that results can speak of steps as well as of
     states.  `Run.invariant` is the induction; `record` runs a list of labels.
  2. `serve`: serving a queue from its front as long as the front fits.  Its four laws are all a
     proof ever needs: what was served and what is left make up the queue, the counter moved by the
     cost of what was served, it stays within a bound the test respects, and what is left is stuck.
  3. `Line`: those that wait and those that were granted and have not looked yet.  `Line.Moves` is
     what a section may do to a line; `Moves.perm` says who is known afterwards, `Moves.fifo` that
     nobody overtakes.  `Log` keeps the history of a line.
  4. `Station`: a line in front of a counter, and `Station.Acts`, its sections.
  5. `tableSum`: what the entries of a table hold together, and what replacing or adding an entry
     does to it.
-/
import Mathlib.Algebra.BigOperators.Group.List.Basic
import Mathlib.Algebra.BigOperators.Group.List.Lemmas
import Mathlib.Algebra.Order.BigOperators.Group.List
import Mathlib.Algebra.Order.Ring.Int
import Mathlib.Tactic.Common

namespace Queueing

/-! ## Runs of atomic steps -/

section Runs

variable {σ α : Type} {start : σ → Prop} {step : σ → α → Option σ}

/-- **The runs.**  The steps taken so far stand latest first, each with the state it was taken in. -/
inductive Run (start : σ → Prop) (step : σ → α → Option σ) : List (σ × α) → σ → Prop where
  | start {s : σ} (h : start s) : Run start step [] s
  | step {past : List (σ × α)} {s s' : σ} {a : α} (h : Run start step past s)
      (hstep : step s a = some s') : Run start step ((s, a) :: past) s'

/-- **The invariant rule.**  An invariant may speak of the steps taken so far. -/
theorem Run.invariant {I : List (σ × α) → σ → Prop} (h0 : ∀ s, start s → I [] s)
    (hI : ∀ past s a s', Run start step past s → I past s → step s a = some s' →
      I ((s, a) :: past) s')
    {past : List (σ × α)} {s : σ} (h : Run start step past s) : I past s := by
  induction h with
  | start h => exact h0 _ h
  | step h hstep ih => exact hI _ _ _ _ h ih hstep

/-- An invariant of the states alone. -/
theorem Run.state {I : σ → Prop} (h0 : ∀ s, start s → I s)
    (hI : ∀ s a s', I s → step s a = some s' → I s') {past : List (σ × α)} {s : σ}
    (h : Run start step past s) : I s :=
  h.invariant (I := fun _ s => I s) h0 fun _ s a s' _ => hI s a s'

/-- **When exactly a property holds all along a run**: a property that holds at the start, and that
    a step keeps exactly if the step is `good`, holds in every state of a run if and only if every
    step of the run is good. -/
theorem Run.throughout_iff {P : σ → Prop} {good : σ → α → Prop} (h0 : ∀ s, start s → P s)
    (hstep : ∀ past s a s', Run start step past s → P s → step s a = some s' → (P s' ↔ good s a))
    {past : List (σ × α)} {s : σ} (h : Run start step past s) :
    ((∀ x ∈ past, P x.1) ∧ P s) ↔ ∀ x ∈ past, good x.1 x.2 := by
  induction h with
  | start h => simp [h0 _ h]
  | @step past s s' a hrun hs ih =>
    simp only [List.forall_mem_cons]
    constructor
    · rintro ⟨⟨hP, hpast⟩, hs'⟩
      exact ⟨(hstep past s a s' hrun hP hs).mp hs', ih.mp ⟨hpast, hP⟩⟩
    · rintro ⟨hgood, hbefore⟩
      obtain ⟨hpast, hP⟩ := ih.mpr hbefore
      exact ⟨⟨hP, hpast⟩, (hstep past s a s' hrun hP hs).mpr hgood⟩

/-- Takes the steps of a list in order, and keeps the record. -/
def record (step : σ → α → Option σ) :
    List (σ × α) → σ → List α → Option (List (σ × α) × σ)
  | past, s, [] => some (past, s)
  | past, s, a :: rest =>
    match step s a with
    | some s' => record step ((s, a) :: past) s' rest
    | none => none

theorem run_record {as : List α} {past past' : List (σ × α)} {s s' : σ} (h : Run start step past s)
    (hrec : record step past s as = some (past', s')) : Run start step past' s' := by
  induction as generalizing past s with
  | nil =>
    obtain ⟨rfl, rfl⟩ := by simpa [record] using hrec
    exact h
  | cons a rest ih =>
    rw [record] at hrec
    split at hrec
    · exact ih (.step h ‹_›) hrec
    · cases hrec

end Runs

/-! ## Serving a queue -/

section Serve

variable {α : Type}

/-- What serving a queue leaves: the counter, who was served, and who still waits. -/
structure Served (α : Type) where
  used : ℤ
  granted : List α
  left : List α

/-- **Serves the front as long as it fits**; a front that does not fit holds up everybody behind. -/
def serve (fits : ℤ → α → Bool) (cost : α → ℤ) : ℤ → List α → Served α
  | used, [] => ⟨used, [], []⟩
  | used, w :: ws =>
    if fits used w then
      let rest := serve fits cost (used + cost w) ws
      ⟨rest.used, w :: rest.granted, rest.left⟩
    else ⟨used, [], w :: ws⟩

variable {fits : ℤ → α → Bool} {cost : α → ℤ}

@[simp] theorem serve_nil (used : ℤ) : serve fits cost used [] = ⟨used, [], []⟩ := rfl

theorem serve_cons (used : ℤ) (w : α) (ws : List α) : serve fits cost used (w :: ws) =
    if fits used w then
      let rest := serve fits cost (used + cost w) ws
      ⟨rest.used, w :: rest.granted, rest.left⟩
    else ⟨used, [], w :: ws⟩ := rfl

/-- Nobody is lost and nobody overtakes. -/
theorem serve_split (used : ℤ) (ws : List α) :
    (serve fits cost used ws).granted ++ (serve fits cost used ws).left = ws := by
  induction ws generalizing used with
  | nil => rfl
  | cons w ws ih =>
    rw [serve_cons]
    split
    · simp only [List.cons_append, ih]
    · rfl

/-- The counter moves by what was served. -/
theorem serve_used (used : ℤ) (ws : List α) :
    (serve fits cost used ws).used
      = used + ((serve fits cost used ws).granted.map cost).sum := by
  induction ws generalizing used with
  | nil => simp
  | cons w ws ih =>
    rw [serve_cons]
    split
    · simp only [List.map_cons, List.sum_cons, ih, add_assoc]
    · simp

/-- It stays within every bound that the test respects. -/
theorem serve_le {bound : ℤ} (hfits : ∀ used w, fits used w = true → used + cost w ≤ bound)
    (used : ℤ) (ws : List α) (h : used ≤ bound) : (serve fits cost used ws).used ≤ bound := by
  induction ws generalizing used with
  | nil => exact h
  | cons w ws ih =>
    rw [serve_cons]
    split
    · exact ih _ (hfits _ _ ‹_›)
    · exact h

/-- **Who is left is stuck**: the front does not fit. -/
theorem serve_stuck (used : ℤ) (ws : List α) :
    ∀ w ∈ (serve fits cost used ws).left.head?, fits (serve fits cost used ws).used w = false := by
  induction ws generalizing used with
  | nil => simp
  | cons w ws ih =>
    rw [serve_cons]
    split
    · exact ih _
    · rename_i hw
      simpa using hw

/-- There is room below a bound. -/
def below (bound : ℤ) : ℤ → α → Bool := fun used _ => decide (used < bound)

/-- Serving where everybody takes one and there is room below a bound. -/
def serveBelow (bound : ℤ) : ℤ → List α → Served α :=
  serve (below bound) fun _ => 1

theorem serveBelow_used (bound used : ℤ) (ws : List α) :
    (serveBelow bound used ws).used = used + (serveBelow bound used ws).granted.length := by
  rw [serveBelow, serve_used]
  simp

theorem serveBelow_le (bound used : ℤ) (ws : List α) (h : used ≤ bound) :
    (serveBelow bound used ws).used ≤ bound := by
  refine serve_le (fun used w hw => ?_) used ws h
  have hlt : used < bound := of_decide_eq_true hw
  omega

/-- It leaves nobody below the bound. -/
theorem serveBelow_stuck (bound used : ℤ) (ws : List α) (h : (serveBelow bound used ws).left ≠ []) :
    bound ≤ (serveBelow bound used ws).used := by
  obtain ⟨w, ws', hleft⟩ := List.exists_cons_of_ne_nil h
  have hstuck := serve_stuck used ws w (by rw [serveBelow] at hleft; rw [hleft]; rfl)
  exact Int.not_lt.mp (of_decide_eq_false hstuck)

theorem serveBelow_split (bound used : ℤ) (ws : List α) :
    (serveBelow bound used ws).granted ++ (serveBelow bound used ws).left = ws :=
  serve_split used ws

end Serve

/-! ## Lines

  Whoever waits stands in a line until it is granted, and is known as granted until it looks or gives
  up.  Somebody joins or leaves, and then the front is served. -/

/-- What a section is about. -/
inductive Change (α : Type) where
  | idle
  | takes (w : α)
  | joins (w : α)
  | leaves (w : α) (collects : Bool)
  | gives (n : ℤ)

namespace Change

variable {α β : Type}

/-- Who takes its share at once. -/
def taken : Change α → List α
  | .takes w => [w]
  | _ => []

def joining : Change α → List α
  | .joins w => [w]
  | _ => []

def leaving : Change α → List α
  | .leaves w _ => [w]
  | _ => []

/-- Whose share is in its hands afterwards. -/
def delivered : Change α → List α
  | .takes w | .leaves w true => [w]
  | _ => []

def withdrawn : Change α → List α
  | .leaves w false => [w]
  | _ => []

theorem taken_leaving (c : Change α) : c.delivered ++ c.withdrawn = c.taken ++ c.leaving := by
  cases c with
  | leaves w collects => cases collects <;> rfl
  | _ => rfl

/-- What it hands to its caller. -/
def amount (cost : α → ℤ) : Change α → ℤ
  | .takes w | .leaves w true => cost w
  | .gives n => -n
  | _ => 0

/-- The same for a line whose waiters bear other names; that something is given back is not said. -/
def map (f : α → β) : Change α → Change β
  | .takes w => .takes (f w)
  | .joins w => .joins (f w)
  | .leaves w collects => .leaves (f w) collects
  | .idle | .gives _ => .idle

/-- What is asked for is positive, and what is given back is not negative. -/
def Sound (cost : α → ℤ) : Change α → Prop
  | .joins w => 0 < cost w
  | .gives n => 0 ≤ n
  | _ => True

end Change

/-- Those that wait, and those that have been granted and have not looked yet. -/
structure Line (α : Type) where
  waiters : List α
  granted : List α

namespace Line

variable {α β : Type} [DecidableEq α] [DecidableEq β]

/-- Everybody the line knows. -/
def tickets (l : Line α) : List α := l.waiters ++ l.granted

/-- Before the front is served. -/
def after (l : Line α) : Change α → Line α
  | .joins w => { l with waiters := l.waiters ++ [w] }
  | .leaves w _ =>
    if w ∈ l.granted then { l with granted := l.granted.erase w }
    else { l with waiters := l.waiters.erase w }
  | _ => l

structure Serves (l : Line α) (served : List α) (l' : Line α) : Prop where
  waiters : served ++ l'.waiters = l.waiters
  granted : l'.granted = l.granted ++ served

/-- **A section.**  Nobody is served at once while somebody waits, and nobody collects what has not
    been granted. -/
structure Moves (l : Line α) (c : Change α) (l' : Line α) : Prop where
  vacant : ∀ w, c = .takes w → l.waiters = []
  granted : ∀ w, c = .leaves w true → w ∈ l.granted
  serves : ∃ served, (l.after c).Serves served l'

/-- Who is granted by a section. -/
def passed (l : Line α) (c : Change α) (l' : Line α) : List α :=
  c.taken ++ (l.after c).waiters.take ((l.after c).waiters.length - l'.waiters.length)

def map (f : α → β) (l : Line α) : Line β := ⟨l.waiters.map f, l.granted.map f⟩

variable {l l' : Line α} {c : Change α}

theorem moves_idle (l : Line α) : l.Moves .idle l :=
  ⟨nofun, nofun, [], rfl, (List.append_nil _).symm⟩

theorem after_waiters (l : Line α) (c : Change α) :
    (l.after c).waiters.Sublist (l.waiters ++ c.joining) := by
  cases c with
  | leaves w collects =>
    simp only [after, Change.joining, List.append_nil]
    split
    · exact List.Sublist.refl _
    · exact List.erase_sublist
  | _ => simp [after, Change.joining]

theorem Moves.after_perm (h : l.Moves c l') : l'.tickets.Perm (l.after c).tickets := by
  obtain ⟨served, hserves⟩ := h.serves
  simp only [tickets, ← hserves.waiters, hserves.granted]
  rw [← List.append_assoc]
  exact List.perm_append_comm.trans (.of_eq (List.append_assoc _ _ _).symm)

/-- Whoever is known was known or joins. -/
theorem Moves.subset (h : l.Moves c l') : l'.tickets ⊆ c.joining ++ l.tickets := by
  intro w hw
  have hafter := h.after_perm.mem_iff.mp hw
  cases c with
  | leaves v collects =>
    simp only [tickets, after, Change.joining, List.nil_append] at hafter ⊢
    split at hafter
    · exact (List.erase_sublist.append_left _).subset hafter
    · exact (List.erase_sublist.append_right _).subset hafter
  | joins v => simpa [tickets, after, Change.joining, or_assoc, or_left_comm] using hafter
  | _ => exact hafter

/-- Those that are known change by who joins and who leaves. -/
theorem Moves.perm (h : l.Moves c l') (hleaving : ∀ w ∈ c.leaving, w ∈ l.tickets) :
    (c.leaving ++ l'.tickets).Perm (c.joining ++ l.tickets) := by
  refine (h.after_perm.append_left _).trans ?_
  cases c with
  | joins w => exact (List.perm_append_comm.append_right _)
  | leaves w collects =>
    simp only [tickets, after, Change.leaving, Change.joining]
    split
    · rename_i hgranted
      have hmiddle : (w :: (l.waiters ++ l.granted.erase w)).Perm (l.waiters ++ w :: l.granted.erase w) :=
        List.perm_middle.symm
      exact hmiddle.trans ((List.perm_cons_erase hgranted).symm.append_left _)
    · rename_i hgranted
      have hwaits := (List.mem_append.mp (hleaving w List.mem_cons_self)).resolve_right hgranted
      exact (List.perm_cons_erase hwaits).symm.append_right _
  | _ => exact .refl _

/-- **First come, first served.**  If those granted so far and those that wait stand in the order in
    which they came, then so do they afterwards. -/
theorem Moves.fifo (h : l.Moves c l') {came went : List α} (horder : (went ++ l.waiters).Sublist came) :
    (went ++ l.passed c l' ++ l'.waiters).Sublist (came ++ (c.taken ++ c.joining)) := by
  obtain ⟨served, hserves⟩ := h.serves
  have hpassed : l.passed c l' = c.taken ++ served := by
    rw [passed, ← hserves.waiters]
    simp
  have hswap : c.taken ++ l.waiters = l.waiters ++ c.taken := by
    cases c with
    | takes w => rw [h.vacant w rfl, List.append_nil, List.nil_append]
    | _ => simp [Change.taken]
  calc went ++ l.passed c l' ++ l'.waiters = went ++ (c.taken ++ (l.after c).waiters) := by
        rw [hpassed, ← hserves.waiters]
        simp
    List.Sublist _ (went ++ (c.taken ++ (l.waiters ++ c.joining))) :=
        ((after_waiters l c).append_left _).append_left _
    _ = went ++ l.waiters ++ (c.taken ++ c.joining) := by
        rw [← List.append_assoc c.taken, hswap]
        simp
    List.Sublist _ _ := horder.append_right _

theorem Moves.map (h : l.Moves c l') {f : α → β} (hf : Function.Injective f) :
    (l.map f).Moves (c.map f) (l'.map f) := by
  have hmem : ∀ {w : α} {ws : List α}, f w ∈ ws.map f ↔ w ∈ ws :=
    List.mem_map_of_injective hf
  have hafter : (l.map f).after (c.map f) = (l.after c).map f := by
    cases c with
    | leaves w collects =>
      simp only [after, Change.map, Line.map, hmem]
      split <;> simp only [List.map_erase hf]
    | joins w => simp [after, Change.map, Line.map]
    | _ => rfl
  obtain ⟨served, hserves⟩ := h.serves
  refine ⟨fun w hw => ?_, fun w hw => ?_, served.map f, ?_, ?_⟩
  · cases c <;> cases hw
    exact List.map_eq_nil_iff.mpr (h.vacant _ rfl)
  · cases c <;> cases hw
    exact hmem.mpr (h.granted _ rfl)
  · rw [hafter]
    simp [Line.map, ← hserves.waiters]
  · rw [hafter]
    simp [Line.map, hserves.granted]

end Line

/-- **The history of a line**: who came, who was granted, who has its share and who gave up. -/
structure Log (α : Type) where
  came : List α
  went : List α
  delivered : List α
  withdrawn : List α

namespace Log

variable {α : Type} [DecidableEq α]

def add (g : Log α) (l : Line α) (c : Change α) (l' : Line α) : Log α where
  came := g.came ++ (c.taken ++ c.joining)
  went := g.went ++ l.passed c l'
  delivered := g.delivered ++ c.delivered
  withdrawn := g.withdrawn ++ c.withdrawn

/-- Those that were granted and those that wait stand in the order in which they came, and whoever
    came waits, was granted, has its share or gave up. -/
structure Fits (g : Log α) (l : Line α) : Prop where
  order : (g.went ++ l.waiters).Sublist g.came
  once : (l.tickets ++ (g.delivered ++ g.withdrawn)).Perm g.came

theorem Fits.add {g : Log α} {l l' : Line α} {c : Change α} (h : g.Fits l) (hmoves : l.Moves c l')
    (hleaving : c.leaving ⊆ l.tickets) : (g.add l c l').Fits l' := by
  refine ⟨hmoves.fifo h.order, List.perm_iff_count.mpr fun w => ?_⟩
  have hknown := (hmoves.perm hleaving).count_eq w
  have honce := h.once.count_eq w
  have hsplit := congrArg (List.count w) c.taken_leaving
  simp only [Log.add, List.count_append] at hknown honce hsplit ⊢
  omega

end Log

/-! ## Stations

  A line in front of a counter: whoever fits and finds nobody waiting takes its share at once. -/

structure Station (α : Type) extends Line α where
  used : ℤ

namespace Station

variable {α : Type} (fits : ℤ → α → Bool) (cost : α → ℤ)

def dispatch (s : Station α) : Station α :=
  let served := serve fits cost s.used s.waiters
  ⟨⟨served.left, s.granted ++ served.granted⟩, served.used⟩

/-- What is in the hands of those that looked. -/
def out (s : Station α) : ℤ := s.used - (s.granted.map cost).sum

/-- Nobody at the front fits. -/
def Stuck (s : Station α) : Prop := ∀ w ∈ s.waiters.head?, fits s.used w = false

theorem dispatch_out (s : Station α) : (s.dispatch fits cost).out cost = s.out cost := by
  simp only [out, dispatch, serve_used, List.map_append, List.sum_append]
  omega

theorem dispatch_serves (s : Station α) :
    s.toLine.Serves (serve fits cost s.used s.waiters).granted (s.dispatch fits cost).toLine :=
  ⟨serve_split _ _, rfl⟩

variable [DecidableEq α]

/-- **The sections of a station.** -/
inductive Acts : Change α → Station α → Station α → Prop where
  | idle {s} : Acts .idle s s
  | serves {s} : Acts .idle s (s.dispatch fits cost)
  | takes {s w} (hfits : fits s.used w = true) (hnone : s.waiters = []) :
    Acts (.takes w) s { s with used := s.used + cost w }
  | queues {s w} (hwait : ¬(fits s.used w = true ∧ s.waiters = [])) :
    Acts (.joins w) s { s with waiters := s.waiters ++ [w] }
  | collects {s w} (h : w ∈ s.granted) :
    Acts (.leaves w true) s { s with granted := s.granted.erase w }
  | returns {s w} (h : w ∈ s.granted) :
    Acts (.leaves w false) s
      (dispatch fits cost { s with used := s.used - cost w, granted := s.granted.erase w })
  | withdraws {s w} (h : w ∉ s.granted) :
    Acts (.leaves w false) s { s with waiters := s.waiters.erase w }
  | gives {s n} : Acts (.gives n) s (dispatch fits cost { s with used := s.used - n })

variable {fits cost} {s s' : Station α} {c : Change α}

theorem out_erase {w : α} {ws : List α} (h : w ∈ ws) :
    (ws.map cost).sum = cost w + ((ws.erase w).map cost).sum := by
  rw [((List.perm_cons_erase h).map cost).sum_eq, List.map_cons, List.sum_cons]

/-- **A section changes what is out by what it hands to its caller**, whomever it serves. -/
theorem Acts.out (h : Acts fits cost c s s') : s'.out cost = s.out cost + c.amount cost := by
  cases h with
  | serves => exact (dispatch_out _ _ s).trans (add_zero _).symm
  | collects hw =>
    simp only [Station.out, Change.amount, out_erase hw]
    omega
  | returns hw =>
    rw [dispatch_out]
    simp only [Station.out, Change.amount, out_erase hw]
    omega
  | gives =>
    rw [dispatch_out]
    simp only [Station.out, Change.amount]
    omega
  | _ =>
    simp only [Station.out, Change.amount]
    omega

/-- The counter stays within every bound that the test respects. -/
theorem Acts.le (h : Acts fits cost c s s') {bound : ℤ}
    (hfits : ∀ used w, fits used w = true → used + cost w ≤ bound)
    (hcost : ∀ w ∈ s.granted, 0 ≤ cost w) (hsound : c.Sound cost) (hs : s.used ≤ bound) :
    s'.used ≤ bound := by
  cases h with
  | serves => exact serve_le hfits _ _ hs
  | takes hw => exact hfits _ _ hw
  | returns hw => exact serve_le hfits _ _ ((Int.sub_le_self _ (hcost _ hw)).trans hs)
  | gives => exact serve_le hfits _ _ ((Int.sub_le_self _ hsound).trans hs)
  | _ => exact hs

/-- **Nobody is left in front of what is free**, unless somebody at the front gives up and the next one
    asks for less. -/
theorem Acts.stuck (h : Acts fits cost c s s') (hs : s.Stuck fits)
    (heven : (∀ u v, fits s.used u = fits s.used v) ∨ ∀ w, c = .leaves w false → w ∈ s.granted) :
    s'.Stuck fits := by
  cases h with
  | serves | returns | gives => exact serve_stuck _ _
  | takes _ hnone =>
    intro v hv
    rw [hnone] at hv
    cases hv
  | @queues _ w hwait =>
    intro v hv
    cases hqueue : s.waiters with
    | nil =>
      -- The newcomer is the head, and it queues because it does not fit.
      obtain rfl : w = v := by simpa [hqueue] using hv
      exact Bool.of_not_eq_true fun hfits => hwait ⟨hfits, hqueue⟩
    | cons head rest =>
      obtain rfl : head = v := by simpa [hqueue] using hv
      exact hs head (by simp [hqueue])
  | @withdraws _ w hw =>
    rcases heven with heven | hgranted
    · intro v hv
      cases hqueue : s.waiters with
      | nil => simp [hqueue] at hv
      | cons head rest =>
        rw [heven v head]
        exact hs head (by simp [hqueue])
    · exact absurd (hgranted w rfl) hw
  | _ => exact hs

/-- The line in front of the station. -/
theorem Acts.moves (h : Acts fits cost c s s') : s.toLine.Moves c s'.toLine := by
  cases h with
  | idle => exact Line.moves_idle _
  | serves => exact ⟨nofun, nofun, _, dispatch_serves _ _ s⟩
  | takes _ hnone => exact ⟨fun _ _ => hnone, nofun, [], rfl, (List.append_nil _).symm⟩
  | queues => exact ⟨nofun, nofun, [], rfl, (List.append_nil _).symm⟩
  | collects hw =>
    refine ⟨nofun, fun w' heq => ?_, [], ?_⟩
    · cases heq
      exact hw
    · rw [Line.after, if_pos hw]
      exact ⟨rfl, (List.append_nil _).symm⟩
  | @returns _ w hw =>
    have hserves := dispatch_serves fits cost
      { s with used := s.used - cost w, granted := s.granted.erase w }
    refine ⟨nofun, nofun, (serve fits cost (s.used - cost w) s.waiters).granted, ?_⟩
    rw [Line.after, if_pos hw]
    exact hserves
  | withdraws hw =>
    refine ⟨nofun, nofun, [], ?_⟩
    rw [Line.after, if_neg hw]
    exact ⟨rfl, (List.append_nil _).symm⟩
  | @gives _ n => exact ⟨nofun, nofun, _, dispatch_serves _ _ { s with used := s.used - n }⟩

end Station

/-! ## Tables

  A table is a list whose entries are known by their position.  What its entries hold is summed up
  by `tableSum`; an entry's share may depend on its position. -/

section Tables

variable {α : Type} {f : ℕ → α → ℤ} {l : List α} {i : ℕ} {x y : α}

def tableSum (f : ℕ → α → ℤ) (l : List α) : ℤ := (l.mapIdx f).sum

@[simp] theorem tableSum_nil (f : ℕ → α → ℤ) : tableSum f [] = 0 := rfl

/-- Replacing an entry replaces its share. -/
theorem tableSum_set (h : l[i]? = some x) : tableSum f (l.set i y) = tableSum f l - f i x + f i y := by
  obtain ⟨hi, rfl⟩ := List.getElem?_eq_some_iff.mp h
  rw [tableSum, tableSum, List.mapIdx_set, List.sum_set']
  simp only [List.length_mapIdx, hi, dite_true, List.getElem_mapIdx]
  omega

/-- A new entry adds its share. -/
theorem tableSum_append (f : ℕ → α → ℤ) (l : List α) (x : α) :
    tableSum f (l ++ [x]) = tableSum f l + f l.length x := by
  simp [tableSum, List.mapIdx_append]

theorem tableSum_nonneg (hf : ∀ i x, l[i]? = some x → 0 ≤ f i x) : 0 ≤ tableSum f l := by
  refine List.sum_nonneg fun z hz => ?_
  obtain ⟨i, hi, rfl⟩ := List.mem_mapIdx.mp hz
  exact hf i _ (List.getElem?_eq_getElem hi)

/-- Where no share is negative, the sum bounds each of them. -/
theorem le_tableSum (hf : ∀ i x, l[i]? = some x → 0 ≤ f i x) (h : l[i]? = some x) :
    f i x ≤ tableSum f l := by
  obtain ⟨hi, rfl⟩ := List.getElem?_eq_some_iff.mp h
  refine List.single_le_sum (fun z hz => ?_) _ (List.mem_mapIdx.mpr ⟨i, hi, rfl⟩)
  obtain ⟨k, hk, rfl⟩ := List.mem_mapIdx.mp hz
  exact hf k _ (List.getElem?_eq_getElem hk)

theorem tableSum_eq_zero (hf : ∀ i x, l[i]? = some x → f i x = 0) : tableSum f l = 0 := by
  refine List.sum_eq_zero fun z hz => ?_
  obtain ⟨i, hi, rfl⟩ := List.mem_mapIdx.mp hz
  exact hf i _ (List.getElem?_eq_getElem hi)

/-- Shares that do not depend on the position. -/
theorem tableSum_map (f : α → ℤ) (l : List α) : tableSum (fun _ x => f x) l = (l.map f).sum := by
  induction l using List.reverseRecOn with
  | nil => rfl
  | append_singleton l x ih => simp [tableSum_append, ih]

theorem tableSum_add (f g : ℕ → α → ℤ) (l : List α) :
    tableSum (fun i x => f i x + g i x) l = tableSum f l + tableSum g l := by
  induction l using List.reverseRecOn with
  | nil => rfl
  | append_singleton l x ih =>
    simp only [tableSum_append, ih]
    omega

end Tables

end Queueing
