/-
  The model catalog and its restart marker.

  Two programs share two files.  `Fetcher.Refresh` compares the catalog it fetched with the file,
  replaces the file, and writes the marker; `ApplyWhileQuiesced` looks for the marker, restarts the
  app servers, and clears it.  The marker is what keeps a changed catalog from being forgotten, and it
  is written AFTER the change it stands for.

  1. `State.step`: any number of refreshes and activations, each of which takes its steps one at a
     time; each may fail at any of them, and all of them die in a crash.  The history of what happened
     is kept beside the files.
  2. `Remembered`: a catalog that was not applied is marked, or about to be.  `remembered_step` says
     for every step whether it keeps that; `Keeps` names the steps that do not.
  3. `lasts_iff`: what is not remembered is lost for good: the next refresh finds the file as it
     should be, and is content.
  4. `lasts_throughout_iff`: so in a run the marker can be trusted if and only if each step keeps what
     is remembered.
-/
import OpenCodexRelay.Queueing

namespace Catalog

open Queueing

/-- A refresh or an activation, and the step it takes next. -/
inductive Thread (γ : Type) where
  /-- `Refresh` has fetched this catalog: compare it with the file. -/
  | compare (payload : γ)
  /-- `atomicWrite`. -/
  | replace (payload : γ)
  /-- `markPending`. -/
  | mark (payload : γ)
  /-- `ApplyWhileQuiesced`: look for the marker. -/
  | check (manageAppServer : Bool)
  /-- `restartAppServers`, for those that are eligible. -/
  | restart
  /-- `ClearPending`. -/
  | clear
  | done
  deriving DecidableEq, Repr

/-- A refresh has replaced the file and is about to write the marker. -/
def Thread.marks {γ : Type} : Thread γ → Bool
  | .mark _ => true
  | _ => false

/-- What happened. -/
inductive Happening where
  /-- The content of the catalog file changed. -/
  | changed
  /-- The app servers were restarted. -/
  | restarted
  /-- A refresh ended successfully. -/
  | refreshed
  /-- A refresh or an activation failed, or the process crashed. -/
  | failed
  deriving DecidableEq, Repr

/-- The last restart is later than the last change; the latest stands first. -/
def applied : List Happening → Bool
  | [] => true
  | .changed :: _ => false
  | .restarted :: _ => true
  | _ :: past => applied past

/-- A refresh has succeeded since the last failure. -/
def settled : List Happening → Bool
  | [] => false
  | .refreshed :: _ => true
  | .failed :: _ => false
  | _ :: past => settled past

/-- The catalog file, the marker, who is at work, and what happened. -/
structure State (γ : Type) where
  content : Option γ
  pending : Bool
  threads : List (Thread γ)
  history : List Happening
  deriving DecidableEq, Repr

inductive Action (γ : Type) where
  | refresh (payload : γ)
  | activate (manageAppServer : Bool)
  /-- A thread takes its next step. -/
  | proceed (i : ℕ)
  /-- The next step of a thread fails; a marker that could not be written may have been created. -/
  | fail (i : ℕ) (created : Bool)
  | crash
  deriving DecidableEq, Repr

namespace State

variable {γ : Type}

/-- A thread goes on to another step. -/
def goto (s : State γ) (i : ℕ) (t : Thread γ) : State γ := { s with threads := s.threads.set i t }

def note (s : State γ) (h : Happening) : State γ := { s with history := h :: s.history }

/-- The next step of the `i`-th thread. -/
def proceed [DecidableEq γ] (s : State γ) (i : ℕ) : Thread γ → Option (State γ)
  | .compare payload =>
    if s.content = some payload then some ((s.goto i .done).note .refreshed)
    else some (s.goto i (.replace payload))
  | .replace payload =>
    let written := { s.goto i (.mark payload) with content := some payload }
    if s.content = some payload then some written else some (written.note .changed)
  | .mark _ => some ({ s.goto i .done with pending := true }.note .refreshed)
  | .check manageAppServer =>
    if s.pending && manageAppServer then some (s.goto i .restart) else some (s.goto i .done)
  | .restart => some ((s.goto i .clear).note .restarted)
  | .clear => some { s.goto i .done with pending := false }
  | .done => none

/-- The next step of the `i`-th thread fails. -/
def fail (s : State γ) (i : ℕ) (created : Bool) : Thread γ → Option (State γ)
  | .mark _ => some ({ s.goto i .done with pending := s.pending || created }.note .failed)
  | .done => none
  | _ => some ((s.goto i .done).note .failed)

def step [DecidableEq γ] (s : State γ) : Action γ → Option (State γ)
  | .refresh payload => some { s with threads := s.threads ++ [.compare payload] }
  | .activate manageAppServer => some { s with threads := s.threads ++ [.check manageAppServer] }
  | .proceed i => s.threads[i]?.bind (s.proceed i)
  | .fail i created => s.threads[i]?.bind (s.fail i created)
  | .crash => some ({ s with threads := [] }.note .failed)

/-- Nobody has begun, and nothing happened. -/
def Fresh (s : State γ) : Prop := s.threads = [] ∧ s.history = []

/-- No refresh and no activation is in progress. -/
def Quiet (s : State γ) : Prop := ∀ t ∈ s.threads, t = .done

/-- **A changed catalog is not left unapplied silently.** -/
def Served (s : State γ) : Prop :=
  s.Quiet → settled s.history = true → s.pending = false → applied s.history = true

instance [DecidableEq γ] (s : State γ) : Decidable s.Quiet :=
  inferInstanceAs (Decidable (∀ t ∈ s.threads, t = .done))

instance [DecidableEq γ] (s : State γ) : Decidable s.Served :=
  inferInstanceAs (Decidable (s.Quiet → settled s.history = true → s.pending = false →
    applied s.history = true))

/-- Somebody is about to write the marker. -/
def Marking (s : State γ) : Prop := ∃ t ∈ s.threads, t.marks = true

/-- **What was not applied is marked, or about to be.** -/
def Remembered (s : State γ) : Prop :=
  applied s.history = true ∨ s.pending = true ∨ s.Marking

instance (s : State γ) : Decidable s.Marking :=
  inferInstanceAs (Decidable (∃ t ∈ s.threads, t.marks = true))

/-- **The steps that keep what is remembered.**  Nobody clears the marker although the catalog has
    changed since the restart, and nobody fails or dies between the change and its marker while there
    is none. -/
def Keeps (s : State γ) : Action γ → Prop
  | .proceed i => s.threads[i]? = some .clear → applied s.history = true ∨ s.Marking
  | .fail i created => (s.threads[i]?.any Thread.marks) = true →
    created = true ∨ applied s.history = true ∨ s.pending = true ∨ (s.goto i .done).Marking
  | .crash => s.Marking → applied s.history = true ∨ s.pending = true
  | _ => True

instance [DecidableEq γ] (s : State γ) : (a : Action γ) → Decidable (s.Keeps a)
  | .proceed i => inferInstanceAs (Decidable (s.threads[i]? = some .clear →
    applied s.history = true ∨ s.Marking))
  | .fail i created => inferInstanceAs (Decidable ((s.threads[i]?.any Thread.marks) = true →
    created = true ∨ applied s.history = true ∨ s.pending = true ∨ (s.goto i .done).Marking))
  | .crash => inferInstanceAs (Decidable (s.Marking → applied s.history = true ∨ s.pending = true))
  | .refresh _ => inferInstanceAs (Decidable True)
  | .activate _ => inferInstanceAs (Decidable True)

/-! ## One step -/

section Step

variable {s s' : State γ} {a : Action γ} {i : ℕ} {t t' : Thread γ}

theorem marking_append (h : t.marks = false) :
    ({ s with threads := s.threads ++ [t] } : State γ).Marking ↔ s.Marking := by
  constructor
  · rintro ⟨u, hmem, hu⟩
    rcases List.mem_append.mp hmem with hmem | hmem
    · exact ⟨u, hmem, hu⟩
    · obtain rfl := List.mem_singleton.mp hmem
      exact absurd (h.symm.trans hu) nofun
  · rintro ⟨u, hmem, hu⟩
    exact ⟨u, List.mem_append_left _ hmem, hu⟩

/-- A thread that is not about to write the marker, and will not be, makes no difference. -/
theorem marking_goto (hi : s.threads[i]? = some t) (ht : t.marks = false) (ht' : t'.marks = false) :
    (s.goto i t').Marking ↔ s.Marking := by
  constructor
  · rintro ⟨u, hmem, hu⟩
    rcases List.mem_or_eq_of_mem_set hmem with hmem | rfl
    · exact ⟨u, hmem, hu⟩
    · exact absurd (ht'.symm.trans hu) nofun
  · rintro ⟨u, hmem, hu⟩
    obtain ⟨j, hj⟩ := List.mem_iff_getElem?.mp hmem
    have hne : i ≠ j := by
      rintro rfl
      obtain rfl := Option.some.inj (hi.symm.trans hj)
      exact absurd (ht.symm.trans hu) nofun
    refine ⟨u, List.mem_iff_getElem?.mpr ⟨j, ?_⟩, hu⟩
    show (s.threads.set i t')[j]? = _
    rw [List.getElem?_set_ne hne, hj]

/-- A refresh that has replaced the file is about to write the marker. -/
theorem marking_mark (hi : s.threads[i]? = some t) (payload : γ) :
    (s.goto i (.mark payload)).Marking := by
  obtain ⟨hlt, -⟩ := List.getElem?_eq_some_iff.mp hi
  exact ⟨_, List.mem_set hlt _, rfl⟩

theorem Remembered.goto (h : s.Remembered) (hi : s.threads[i]? = some t) (ht : t.marks = false)
    (ht' : t'.marks = false) : (s.goto i t').Remembered :=
  h.imp id (Or.imp id (marking_goto hi ht ht').mpr)

/-- Only a change of the catalog takes something away from what was applied. -/
theorem Remembered.note (h : s.Remembered) {e : Happening} (he : e ≠ .changed) :
    (s.note e).Remembered := by
  refine h.imp (fun happlied => ?_) id
  cases e with
  | changed => exact absurd rfl he
  | restarted => rfl
  | refreshed => exact happlied
  | failed => exact happlied

/-- What the next step of a thread does. -/
theorem remembered_proceed [DecidableEq γ] (h : s.Remembered) (hi : s.threads[i]? = some t)
    (hstep : s.proceed i t = some s') :
    s'.Remembered ↔ (t = .clear → applied s.history = true ∨ s.Marking) := by
  cases t with
  | compare payload =>
    refine iff_of_true ?_ nofun
    rw [proceed] at hstep
    split at hstep
    · obtain rfl := Option.some.inj hstep
      refine Remembered.note ?_ nofun
      exact h.goto hi rfl rfl
    · obtain rfl := Option.some.inj hstep
      exact h.goto hi rfl rfl
  | replace payload =>
    refine iff_of_true (.inr (.inr ?_)) nofun
    rw [proceed] at hstep
    split at hstep <;> obtain rfl := Option.some.inj hstep <;> exact marking_mark hi payload
  | mark payload =>
    obtain rfl := Option.some.inj hstep
    exact iff_of_true (.inr (.inl rfl)) nofun
  | check manageAppServer =>
    refine iff_of_true ?_ nofun
    rw [proceed] at hstep
    split at hstep
    · obtain rfl := Option.some.inj hstep
      exact h.goto hi rfl rfl
    · obtain rfl := Option.some.inj hstep
      exact h.goto hi rfl rfl
  | restart =>
    obtain rfl := Option.some.inj hstep
    exact iff_of_true (.inl rfl) nofun
  | clear =>
    obtain rfl := Option.some.inj hstep
    have hmarking := @marking_goto _ s i _ .done hi rfl rfl
    constructor
    · rintro (happlied | hpending | hmark) -
      · exact .inl happlied
      · cases hpending
      · exact .inr (hmarking.mp hmark)
    · intro hkeeps
      rcases hkeeps rfl with happlied | hmark
      · exact .inl happlied
      · exact .inr (.inr (hmarking.mpr hmark))
  | done => cases hstep

/-- What the failure of a thread does. -/
theorem remembered_fail {created : Bool} (h : s.Remembered) (hi : s.threads[i]? = some t)
    (hstep : s.fail i created t = some s') :
    s'.Remembered ↔ (t.marks = true →
      created = true ∨ applied s.history = true ∨ s.pending = true ∨ (s.goto i .done).Marking) := by
  have hother : t.marks = false → s' = (s.goto i .done).note .failed →
      (s'.Remembered ↔ (t.marks = true →
        created = true ∨ applied s.history = true ∨ s.pending = true ∨ (s.goto i .done).Marking)) := by
    rintro ht rfl
    refine iff_of_true ?_ fun hmarks => absurd (ht.symm.trans hmarks) nofun
    refine Remembered.note ?_ nofun
    exact h.goto hi ht rfl
  cases t with
  | mark payload =>
    obtain rfl := Option.some.inj hstep
    constructor
    · rintro (happlied | hpending | hmark) -
      · exact .inr (.inl happlied)
      · rcases (Bool.or_eq_true _ _).mp hpending with hpending | hcreated
        · exact .inr (.inr (.inl hpending))
        · exact .inl hcreated
      · exact .inr (.inr (.inr hmark))
    · intro hkeeps
      rcases hkeeps rfl with hcreated | happlied | hpending | hmark
      · exact .inr (.inl ((Bool.or_eq_true _ _).mpr (.inr hcreated)))
      · exact .inl happlied
      · exact .inr (.inl ((Bool.or_eq_true _ _).mpr (.inl hpending)))
      · exact .inr (.inr hmark)
  | done => cases hstep
  | compare payload | replace payload | check manageAppServer | restart | clear =>
    exact hother rfl (Option.some.inj hstep).symm

/-- **What one step does to what is remembered.** -/
theorem remembered_step [DecidableEq γ] (h : s.Remembered) (hstep : s.step a = some s') :
    s'.Remembered ↔ s.Keeps a := by
  cases a with
  | refresh payload | activate manageAppServer =>
    obtain rfl := Option.some.inj hstep
    refine iff_of_true ?_ trivial
    exact h.imp id (Or.imp id (marking_append rfl).mpr)
  | proceed i =>
    obtain ⟨t, hi, hproceed⟩ := Option.bind_eq_some_iff.mp hstep
    rw [remembered_proceed h hi hproceed, Keeps, hi, Option.some.injEq]
  | fail i created =>
    obtain ⟨t, hi, hfail⟩ := Option.bind_eq_some_iff.mp hstep
    rw [remembered_fail h hi hfail, Keeps, hi]
    rfl
  | crash =>
    obtain rfl := Option.some.inj hstep
    constructor
    · rintro (happlied | hpending | ⟨t, hmem, -⟩) -
      · exact .inl happlied
      · exact .inr hpending
      · cases hmem
    · intro hkeeps
      rcases h with happlied | hpending | hmark
      · exact .inl happlied
      · exact .inr (.inl hpending)
      · exact (hkeeps hmark).imp id Or.inl

/-- Where everybody is done, what is remembered is marked. -/
theorem Remembered.served (h : s.Remembered) : s.Served := by
  intro hquiet _ hpending
  rcases h with happlied | hmarked | ⟨t, hmem, hmarks⟩
  · exact happlied
  · exact absurd (hmarked.symm.trans hpending) nofun
  · rw [hquiet t hmem] at hmarks
    cases hmarks

end Step

/-! ## What is not remembered is lost -/

section Lasts

variable [DecidableEq γ] {s s' : State γ} {past : List (State γ × Action γ)}

/-- Reached by steps that keep what is remembered. -/
def Leads : State γ → State γ → Prop :=
  Relation.ReflTransGen fun s s' => ∃ a, s.step a = some s' ∧ s.Keeps a

/-- **From here on no catalog is left unapplied silently**, as long as the steps keep what is
    remembered. -/
def Lasts (s : State γ) : Prop := ∀ s', s.Leads s' → s'.Served

theorem Remembered.leads (h : s.Remembered) (hleads : s.Leads s') : s'.Remembered := by
  induction hleads with
  | refl => exact h
  | tail _ hstep ih =>
    obtain ⟨a, hstep, hkeeps⟩ := hstep
    exact (remembered_step ih hstep).mpr hkeeps

/-- A catalog that was not applied is there. -/
theorem content_of_run (h : Run Fresh step past s) :
    applied s.history = false → ∃ c, s.content = some c := by
  refine h.state (I := fun s => applied s.history = false → ∃ c, s.content = some c)
    (fun s hfresh hnot => ?_) fun s a s' hI hstep => ?_
  · rw [hfresh.2] at hnot
    cases hnot
  · cases a with
    | refresh payload | activate manageAppServer =>
      obtain rfl := Option.some.inj hstep
      exact hI
    | proceed i =>
      obtain ⟨t, -, hproceed⟩ := Option.bind_eq_some_iff.mp hstep
      cases t with
      | compare payload =>
        rw [proceed] at hproceed
        split at hproceed <;> obtain rfl := Option.some.inj hproceed <;> exact hI
      | replace payload =>
        rw [proceed] at hproceed
        split at hproceed <;> obtain rfl := Option.some.inj hproceed <;> exact fun _ => ⟨payload, rfl⟩
      | mark payload =>
        obtain rfl := Option.some.inj hproceed
        exact hI
      | check manageAppServer =>
        rw [proceed] at hproceed
        split at hproceed <;> obtain rfl := Option.some.inj hproceed <;> exact hI
      | restart =>
        obtain rfl := Option.some.inj hproceed
        exact fun hnot => absurd hnot nofun
      | clear =>
        obtain rfl := Option.some.inj hproceed
        exact hI
      | done => cases hproceed
    | fail i created =>
      obtain ⟨t, -, hfail⟩ := Option.bind_eq_some_iff.mp hstep
      cases t with
      | done => cases hfail
      | _ =>
        obtain rfl := Option.some.inj hfail
        exact hI
    | crash =>
      obtain rfl := Option.some.inj hstep
      exact hI

/-- **What is not remembered is lost**: after a crash the next refresh finds the file as it should be,
    and ends successfully. -/
theorem lasts_iff (h : Run Fresh step past s) : s.Lasts ↔ s.Remembered := by
  constructor
  · intro hlasts
    by_contra hlost
    obtain ⟨happlied, hpending, hmarking⟩ : applied s.history = false ∧ s.pending = false ∧
        ¬s.Marking := by
      simpa [Remembered] using hlost
    obtain ⟨c, hcontent⟩ := content_of_run h happlied
    let crashed : State γ := { s with threads := [] }.note .failed
    let refreshing : State γ := { crashed with threads := [.compare c] }
    have hcrash : s.Leads crashed := .single ⟨.crash, rfl, fun hmark => absurd hmark hmarking⟩
    have hrefresh : s.Leads refreshing := hcrash.tail ⟨.refresh c, rfl, trivial⟩
    have hdone : refreshing.step (.proceed 0) = some ((refreshing.goto 0 .done).note .refreshed) := by
      show refreshing.proceed 0 (.compare c) = _
      rw [proceed, if_pos (by exact hcontent)]
    have hleads : s.Leads ((refreshing.goto 0 .done).note .refreshed) :=
      hrefresh.tail ⟨.proceed 0, hdone, nofun⟩
    have hquiet : ((refreshing.goto 0 .done).note .refreshed).Quiet := by
      intro t ht
      exact List.mem_singleton.mp ht
    have hserved := hlasts _ hleads hquiet rfl hpending
    exact absurd (happlied.symm.trans hserved) nofun
  · exact fun hremembered s' hleads => (hremembered.leads hleads).served

/-- **When exactly the marker can be trusted.**  From no state of a run on is a changed catalog left
    unapplied silently, if and only if each step of the run keeps what is remembered. -/
theorem lasts_throughout_iff (h : Run Fresh step past s) :
    ((∀ x ∈ past, x.1.Lasts) ∧ s.Lasts) ↔ ∀ x ∈ past, x.1.Keeps x.2 := by
  refine @Run.throughout_iff _ _ _ _ Lasts Keeps (fun s hfresh => ?_)
    (fun past s a s' hrun hlasts hstep => ?_) past s h
  · refine (lasts_iff (.start hfresh)).mpr (.inl ?_)
    rw [hfresh.2]
    rfl
  · have hremembered := (lasts_iff hrun).mp hlasts
    calc s'.Lasts ↔ s'.Remembered := lasts_iff (.step hrun hstep)
      _ ↔ s.Keeps a := remembered_step hremembered hstep

end Lasts

/-- No catalog so far. -/
def empty : State ℕ := ⟨none, false, [], []⟩

theorem run_empty {as : List (Action ℕ)} {past : List (State ℕ × Action ℕ)} {s : State ℕ}
    (h : record step [] empty as = some (past, s)) : Run Fresh step past s :=
  run_record (.start ⟨rfl, rfl⟩) h

/-- A refresh, the activation after it, and another refresh of the same catalog. -/
theorem lasts_throughout_iff_undisturbed :
    ∃ past, ∃ s : State ℕ, Run Fresh step past s ∧ s.content = some 1 ∧
      s.history = [.refreshed, .restarted, .refreshed, .changed] ∧ s.Lasts := by
  have hends : (record step [] empty [.refresh 1, .proceed 0, .proceed 0, .proceed 0, .activate true,
      .proceed 1, .proceed 1, .proceed 1, .refresh 1, .proceed 2]).any (fun x =>
        decide (∀ y ∈ x.1, y.1.Keeps y.2) && decide (x.2.content = some 1) &&
        decide (x.2.history = [.refreshed, .restarted, .refreshed, .changed])) = true := by
    decide
  obtain ⟨⟨past, s⟩, hrun, hs⟩ := Option.any_eq_true _ _ |>.mp hends
  obtain ⟨⟨hkeeps, hcontent⟩, hhistory⟩ := by simpa only [Bool.and_eq_true, decide_eq_true_eq] using hs
  have hlasts := (lasts_throughout_iff (run_empty hrun)).mpr hkeeps
  exact ⟨past, s, run_empty hrun, hcontent, hhistory, hlasts.2⟩

/-- **A crash between the catalog and its marker.**  The refresh after it succeeds, nobody is at work,
    there is no marker, and the catalog has not been applied. -/
theorem unapplied_after_crash :
    ∃ past, ∃ s : State ℕ, record step [] empty
        [.refresh 1, .proceed 0, .proceed 0, .crash, .refresh 1, .proceed 0] = some (past, s) ∧
      Run Fresh step past s ∧ ¬s.Served := by
  have hends : (record step [] empty
      [.refresh 1, .proceed 0, .proceed 0, .crash, .refresh 1, .proceed 0]).any
        (fun x => decide (¬x.2.Served)) = true := by
    decide
  obtain ⟨⟨past, s⟩, hrun, hs⟩ := Option.any_eq_true _ _ |>.mp hends
  exact ⟨past, s, hrun, run_empty hrun, of_decide_eq_true hs⟩

end State

end Catalog
