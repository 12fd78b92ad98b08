/-
  The resident relay's view of the files.

  The controller writes files; the resident relay polls them.  `Watcher.refresh` is the whole of
  that poll: it reads the routing state, looks at the three crash witnesses, consults the hooks it
  was built with, and either believes the state or projects a fail-closed one.  The two programs
  never call each other, so everything the controller waits for has to be visible here.

  `refresh_eq_iff` is the reading the rest of the development uses: a snapshot shows exactly the
  durable state iff that state is readable and `accepts` holds.
-/
import OpenCodexRelay.Routing.Store

namespace OpenCodexRelay.Routing

/-- A watcher and the options it was constructed with.  Each hook says whether it has no
    objection. -/
structure Watcher where
  store : Store
  /-- Are the Codex artifacts still those of the applied backend? -/
  driftCheck : Option (State → Disk → Bool)
  /-- Does the container lifecycle vouch for this stable Apple state? -/
  stateRecoveryGate : Option (State → Disk → Bool)
  /-- Is the external recovery gate open? -/
  recoveryGate : Option (Disk → Bool)

structure Snapshot where
  state : State
  legacy : Bool
  invalid : Bool
  deriving DecidableEq, Repr

def Snapshot.allowsDataPlane (s : Snapshot) : Bool := !s.invalid && s.state.allowsDataPlane

/-- The hooks' part of the verdict. -/
def Watcher.hooksAccept (w : Watcher) (d : Disk) (s : State) (legacy : Bool) : Bool :=
  (legacy || s.phase = .applying || s.phase = .recoveryRequired ||
    w.driftCheck.all fun check => check s d) &&
  w.recoveryGate.all fun gate => gate d

/-- A stable Apple route with no witness left needs the container lifecycle's own word. -/
def Watcher.appleAuthorised (w : Watcher) (d : Disk) (s : State) (legacy : Bool)
    (witnessed : Bool) : Bool :=
  legacy || witnessed || !stableStateForBackend s .localAppleContainer ||
    w.stateRecoveryGate.any fun gate => gate s d

/-- Whether `Refresh` finds nothing against the state `s` it has read. -/
def Watcher.accepts (w : Watcher) (d : Disk) (s : State) (legacy : Bool) : Bool :=
  match loadJournal d, w.store.loadMaintenance d,
      w.store.loadRuntimeRouting s.boundCodexConfigPath d with
  | .ok transaction, .ok maintenance, .ok runtimeRouting =>
    -- a journal beside a state that is not `applying` is the trace of a crash
    (transaction.isNone || (!legacy && s.phase = .applying)) &&
    (maintenance.all fun m => !legacy && s.phase = .applying && m.matchesState s) &&
    (transaction.isNone || maintenance.isNone) &&
    (runtimeRouting.all fun j =>
      maintenance.isNone && j.matchesState w.store.paths s transaction) &&
    w.appleAuthorised d s legacy
      (transaction.isSome || maintenance.isSome || runtimeRouting.isSome) &&
    w.hooksAccept d s legacy
  | _, _, _ => false

def Watcher.refresh (w : Watcher) (d : Disk) : Snapshot :=
  match w.store.read d with
  | .error _ => ⟨newRecoveryState w.store.configPath, false, true⟩
  | .ok (s, legacy) =>
    if w.accepts d s legacy then ⟨s, legacy, false⟩
    else ⟨newRecoveryState w.store.configPath, false, true⟩

variable {w : Watcher} {d : Disk} {s : State}

/-- **What the relay believes.** The snapshot is the durable state exactly when the state is
    readable and nothing speaks against it. -/
theorem Watcher.refresh_eq_iff :
    w.refresh d = ⟨s, false, false⟩ ↔ w.store.read d = .ok (s, false) ∧ w.accepts d s false := by
  unfold refresh
  cases hr : w.store.read d with
  | error e => simp
  | ok r =>
    obtain ⟨s', legacy⟩ := r
    by_cases ha : w.accepts d s' legacy
    · simp only [ha, if_true, Snapshot.mk.injEq, and_true, Except.ok.injEq, Prod.mk.injEq]
      constructor
      · rintro ⟨rfl, rfl⟩
        exact ⟨⟨rfl, rfl⟩, ha⟩
      · exact fun h => h.1
    · simp only [ha, Bool.false_eq_true, if_false, Snapshot.mk.injEq, Except.ok.injEq,
        Prod.mk.injEq]
      constructor
      · rintro ⟨-, -, hinvalid⟩
        cases hinvalid
      · rintro ⟨⟨rfl, rfl⟩, hacc⟩
        exact absurd hacc ha

/-- With no witness on disk, the verdict on a state that is not a stable Apple route is the
    hooks' verdict. -/
theorem Watcher.accepts_of_quiet (hj : d.journal = .absent) (hm : d.maintenance = .absent)
    (hr : d.runtimeRouting = .absent) (hs : s.appliedBackend ≠ .localAppleContainer) :
    w.accepts d s false = w.hooksAccept d s false := by
  have happle : stableStateForBackend s .localAppleContainer = false := by
    unfold stableStateForBackend
    simp [hs]
  unfold accepts
  rw [loadJournal_absent hj]
  unfold Store.loadMaintenance Store.loadRuntimeRouting
  rw [hm, hr]
  simp [appleAuthorised, happle]

/-- **A journal parks a finished state.** Whatever the hooks say, a journal beside a state that
    is not `applying` is refused. -/
theorem Watcher.not_accepts_of_journal {legacy : Bool} (hj : d.journal ≠ .absent)
    (hs : s.phase ≠ .applying) : w.accepts d s legacy = false := by
  unfold accepts
  split
  · rename_i transaction maintenance runtimeRouting ht hm hr
    have hsome : transaction.isNone = false := by
      cases transaction with
      | none => exact absurd (loadJournal_eq_none_iff.mp ht) hj
      | some j => rfl
    simp [hsome, hs]
  · rfl

end OpenCodexRelay.Routing
