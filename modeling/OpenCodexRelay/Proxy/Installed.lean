/-
  What a successful `Apply` leaves.

  `Apply` reports success at the very end, when the candidate is current and admitted, and until the
  next operation nobody but an observer touches the admission.  So its success says

  1. for a profile: a slot of that profile is current — and, unless somebody reports a loss, admitted;
  2. for the profile `none`: nothing is admitted.

  On the way the current slot is replaced only while nothing is admitted (`Unswapped`).  The first
  runtime of a process is not applied; `newRuntimeManager_admission` is its counterpart.
-/
import OpenCodexRelay.Proxy.View

namespace OpenCodexRelay.Proxy

open Durable

/-- Behind an admission the slot stays. -/
def Unswapped (v v' : View) : Prop := v'.admission = .active → v'.current = v.current

/-- Everybody else reports nothing but such availabilities. -/
def Observes (may : LocalAvailability → Prop) (other : RuntimeManager → RuntimeManager → Prop) :
    Prop :=
  ∀ m m', other m m' → m'.view = m.view ∨
    ∃ availability, may availability ∧ m' = m.observeLocalAvailability availability

/-- **The success of `Apply`**, as long as the others report nothing but what they may. -/
structure Installed (may : LocalAvailability → Prop) (spec : RuntimeSpec) (v : View) : Prop where
  parked : spec.profile = .none → v.admission ≠ .active
  current : spec.profile ≠ .none → ∃ slot, v.current = some slot ∧ slot.spec = spec
  admitted : spec.profile ≠ .none → (∀ availability, may availability → availability = .ready) →
    v.admission = .active

/-- **The way to install `spec`.** -/
def Installing (may : LocalAvailability → Prop) (spec : RuntimeSpec) : Phase → View → Prop
  | .called call, _ => call = .apply spec
  | .admitted spec' _, _ | .probed spec' _ _, _ => spec' = spec
  | .chosen _ purpose, _ => ∃ candidate availability, purpose = .replace spec candidate availability
  | .transitioning _ purpose, v | .draining _ purpose, v | .gated _ purpose, v | .stopped _ purpose, v
  | .waiting _ _ _ _ purpose, v => v.admission = .transitioning ∧
    ∃ candidate availability, purpose = .replace spec candidate availability
  | .published, v => v.admission = .transitioning ∧ spec.profile ≠ .none ∧
    ∃ slot, v.current = some slot ∧ slot.spec = spec
  | .starting slot resumed, v | .halfStarted slot resumed, v | .started slot resumed, v =>
    resumed = false ∧ v.admission = .transitioning ∧ spec.profile ≠ .none ∧
      v.current = some slot ∧ slot.spec = spec
  | .verifying, _ | .forgetting _, _ => False
  | .leaving r, v | .ended r, v => r = .ok () → Installed may spec v

section Installed

variable {env : Env RuntimeManager Query Query.Answer}
variable {other : RuntimeManager → RuntimeManager → Prop} {may : LocalAvailability → Prop}
variable {spec : RuntimeSpec} {v : View} {availability : LocalAvailability} {phase phase' : Phase}
variable {m m' : RuntimeManager}

theorem Installed.observe (h : Installed may spec v) (hmay : may availability) :
    Installed may spec (v.observe availability) := by
  refine ⟨fun hnone => ?_, h.current, fun hprofile hready => ?_⟩
  · rw [View.observe_admission (h.parked hnone)]
    exact h.parked hnone
  · have hsame := hready availability hmay
    subst hsame
    have hactive := h.admitted hprofile hready
    simp [View.observe, hactive]

theorem Installing.observe (h : Installing may spec phase v) (hmay : may availability) :
    Installing may spec phase (v.observe availability) := by
  cases phase with
  | called | admitted | probed | chosen | verifying | forgetting => exact h
  | transitioning | draining | gated | stopped | waiting | published =>
    exact ⟨View.observe_transitioning h.1, h.2⟩
  | starting | halfStarted | started => exact ⟨h.1, View.observe_transitioning h.2.1, h.2.2⟩
  | leaving | ended => exact fun hr => (h hr).observe hmay

theorem park_unswapped (v : View) (old : Option Slot) : Unswapped v (v.park old) := by
  intro _
  unfold View.park
  split_ifs <;> rfl

/-- **Each step of an `Apply`.** -/
theorem Next.installing (h : Next env m phase phase' m') (hm : Installing may spec phase m.view) :
    Unswapped m.view m'.view ∧ Installing may spec phase' m'.view := by
  have hself : Unswapped m.view m.view := fun _ => rfl
  cases h with
  | stay | unprobed | gate | wait | monitorDone | lifecycleDone | unfinished | slotless
  | unmonitored | unlock => exact ⟨hself, hm⟩
  | refuse | lost => exact ⟨hself, nofun⟩
  | nothing hcall => exact absurd hm (hcall spec)
  | accept =>
    cases hm
    exact ⟨hself, rfl⟩
  | probe =>
    rw [view_observe]
    exact ⟨fun _ => rfl, hm⟩
  | choose =>
    cases hm
    exact ⟨hself, _, _, rfl⟩
  | prepare | close | resume | verify => cases hm
  | begin => exact ⟨nofun, rfl, hm⟩
  | cancel | hurry =>
    rw [view_cancelWorkers]
    exact ⟨hself, hm⟩
  | cancelParent | remember | shut =>
    obtain ⟨-, candidate, availability, heq⟩ := hm
    cases heq
  | undrained | unstopped =>
    rw [view_park]
    exact ⟨park_unswapped _ _, nofun⟩
  | pause hnone =>
    obtain ⟨-, candidate, availability, heq⟩ := hm
    cases heq
    exact ⟨nofun, fun _ => ⟨fun _ => nofun, fun h => absurd hnone h, fun h => absurd hnone h⟩⟩
  | publish hdata =>
    obtain ⟨htransit, candidate, availability, heq⟩ := hm
    cases heq
    exact ⟨fun hactive => absurd (htransit.symm.trans hactive) nofun, htransit, hdata, _, rfl, rfl⟩
  | unpublished hnone =>
    obtain ⟨-, -, slot, hcurrent, -⟩ := hm
    exact absurd (hcurrent.symm.trans hnone) nofun
  | start hc =>
    obtain ⟨htransit, hdata, slot', hcurrent, hspec⟩ := hm
    obtain rfl := Option.some.inj (hcurrent.symm.trans hc)
    exact ⟨hself, rfl, htransit, hdata, hcurrent, hspec⟩
  | @catalog slot resumed =>
    rcases view_startLifecycle slot m with hview | hview
    · rw [hview]
      exact ⟨hself, hm⟩
    · rw [hview]
      exact ⟨fun _ => rfl, hm⟩
  | monitor =>
    rw [view_startLocalMonitor]
    exact ⟨fun _ => rfl, hm⟩
  | @activate slot =>
    obtain ⟨-, htransit, hdata, hcurrent, hspec⟩ := hm
    rw [view_activate]
    unfold View.activate
    rw [if_pos ⟨hcurrent, htransit⟩]
    exact ⟨fun _ => rfl, fun _ => ⟨fun h => absurd h hdata, fun _ => ⟨slot, hcurrent, hspec⟩,
      fun _ _ => rfl⟩⟩
  | reactivate => cases hm.1
  | forget | verified => exact hm.elim

/-- **`Apply` installs what it is given**, from any manager and whatever is answered. -/
theorem apply_installed (hother : Observes may other) :
    (machineFor env other).Triple (Moves Unswapped) (Shown fun _ => True) (apply spec)
      (fun r m => r = .ok () → Installed may spec m.view) := by
  let o : Outline :=
    { env := env
      other := other
      C := Moves Unswapped
      At := fun phase => Shown (Installing may spec phase)
      stable := fun _ => stable_of_observations (fun _ => may) hother fun _ _ h => h.observe
      next := Next.installing }
  exact fun m _ => o.call (.apply spec) m rfl

end Installed

/-! ## The first runtime -/

/-- The profile of the current runtime. -/
def RuntimeManager.profile (m : RuntimeManager) : Option RuntimeProfile :=
  m.current.map fun slot => slot.spec.profile

/-- What `NewRuntimeManager` makes of its spec. -/
theorem newRuntimeManager_admission {spec : RuntimeSpec} {initial : Runtime}
    {probed : LocalAvailability} {m : RuntimeManager}
    (h : newRuntimeManager spec initial probed = .ok m) :
    (m.admission = .active → spec.startParked = false ∧ spec.profile ≠ .none) ∧
      (spec.profile ≠ .none → m.profile = some spec.profile) ∧
      (spec.profile ≠ .none → spec.startParked = false → probed = .ready → m.admission = .active) := by
  rcases newRuntimeManager_cases h with ⟨_, _, _, _, hshut, hslot, rfl⟩ |
    ⟨seen, slot, rfl, hdata, hparked, -, _, rfl, rfl⟩
  · refine ⟨fun hactive => absurd hactive hshut, fun hp => ?_,
      fun hp hparked hready => absurd hready ((hslot hp).2 hparked)⟩
    rw [(hslot hp).1]
    rfl
  obtain ⟨workers, lifecycle, heq⟩ := startLifecycle_eq ⟨0, initial, spec⟩ { vacant seen with
    current := some ⟨0, initial, spec⟩, slots := 1, admission := .active }
  refine ⟨fun _ => ⟨hparked, hdata⟩, fun _ => ?_, fun _ _ _ => ?_⟩ <;>
  · rw [heq]
    split_ifs <;> rfl

end OpenCodexRelay.Proxy
