/-
  The lease of one request.

  `Transport.RoundTrip` acquires a lifecycle lease, and secrets are to be used only under it: the
  authorizer is called, and the token written, while the lease is held, and the lease is released
  once.  The frame of `RoundTrip`, the connection that the dial has bound and whoever closes that
  connection can all give it back.

  1. `Exchange.step`: what can happen from the acquisition on, in any order, and `Exchange.finish`:
     how `RoundTrip` returns.  The checks of the request come before and use no secret; they are left
     out.  Of `net/http` two things are used: a response comes over the connection that was dialled,
     and after an error this connection is only closed.  The dial may outlive `RoundTrip`.
  2. `Covered`: the invariant.  Only an error that is returned DURING the dial loses it: the frame
     gives the lease back and does not wait for the dial, which then calls the authorizer.
  3. `lease_covers_iff`: the lease covers every use exactly when that does not happen.
-/
import OpenCodexRelay.LoopbackAuth.CredentialConn

namespace LoopbackAuth

open Json

/-- `requestLease`: whether its `sync.Once` has run, and how often the lease has been released. -/
structure RequestLease where
  once : Bool
  released : ℕ

def RequestLease.close (l : RequestLease) : RequestLease :=
  if l.once then l else ⟨true, l.released + 1⟩

/-- `credentialConn.Close`. -/
def CredentialConn.close (c : CredentialConn) : CredentialConn :=
  { finishAuthorizationLocked { c with failed := true, header := [] } with closed := true }

def authority : String := "127.0.0.1:10210"

/-- Where the function that `RoundTrip` sets as `DialContext` stands. -/
inductive Dial where
  | idle
  | dialing
  | connected
  | authorizing
  | ended
  deriving DecidableEq

/-- One request from the acquisition of its lease on. -/
structure Exchange where
  lease : RequestLease
  dial : Dial
  /-- `boundConnection`. -/
  connection : Option CredentialConn
  returned : Bool
  /-- The authorizer has run, or the token has been written, without the lease. -/
  uncovered : Bool

inductive Event where
  /-- `net/http` calls `DialContext`. -/
  | dial (network address : String)
  | connect (ok : Bool)
  | authorize
  | authorized (token : Option (List Byte))
  | write (value : List Byte)
  | closeConnection

/-- What `transport.RoundTrip` returns. -/
inductive Result where
  | error
  | response (switchingProtocols readWrite : Bool)

namespace Exchange

def start : Exchange := ⟨⟨false, 0⟩, .idle, none, false, false⟩

/-- The connection goes from `c` to `c'`, which may give back the lease or write the token. -/
def moved (x : Exchange) (c c' : CredentialConn) : Exchange :=
  { x with
    connection := some c'
    lease := if c.release && !c'.release then x.lease.close else x.lease
    uncovered := x.uncovered || (!c.authenticated && c'.authenticated && x.lease.once) }

/-- The authorizer begins or ends. -/
def consult (x : Exchange) (dial : Dial) : Exchange :=
  { x with dial := dial, uncovered := x.uncovered || x.lease.once }

section Step

variable (namesCredential : List Byte → Bool)

/-- **One step**, `none` if it cannot happen. -/
def step (x : Exchange) : Event → Option Exchange
  | .dial network address =>
    if x.returned then none
    else if x.dial ≠ .idle then some x
    else if address ≠ authority ∨ network ≠ "tcp" ∧ network ≠ "tcp4" then
      some { x with dial := .ended }
    else some { x with dial := .dialing }
  | .connect ok =>
    if x.dial = .dialing then some { x with dial := if ok then .connected else .ended } else none
  | .authorize => if x.dial = .connected then some (x.consult .authorizing) else none
  | .authorized token =>
    if x.dial = .authorizing then
      some { x.consult .ended with connection := (token.filter validToken).map newCredentialConn }
    else none
  | .write value => x.connection.map fun c => x.moved c (c.write namesCredential value).2
  | .closeConnection => x.connection.map fun c => x.moved c c.close

def run (x : Exchange) (events : List Event) : Option Exchange :=
  events.foldlM (step namesCredential) x

end Step

/-- The connection is closed, if there is one, and the frame gives back the lease. -/
def giveUp (x : Exchange) : Exchange :=
  let y := match x.connection with
    | none => x
    | some c => x.moved c c.close
  { y with lease := y.lease.close, returned := true }

/-- **`RoundTrip` returns.** -/
def finish (x : Exchange) : Result → Exchange
  | .error => x.giveUp
  | .response switchingProtocols readWrite =>
    if switchingProtocols ∧ (¬readWrite ∨ x.connection.isNone) then x.giveUp
    else { x with returned := true }

/-- No dial is under way. -/
def Settled (x : Exchange) : Prop := x.dial = .idle ∨ x.dial = .ended

/-- **What is asked for**: no use without the lease, one release, and that one before the request is
    over. -/
structure Sound (x : Exchange) : Prop where
  covered : x.uncovered = false
  once : x.lease.released ≤ 1
  released : x.returned = true → x.Settled → (∀ c ∈ x.connection, c.release = false) →
    x.lease.released = 1

end Exchange

/-! ## The invariant -/

/-- The connection keeps the lease until it has failed or sent the token. -/
def CredentialConn.Tidy (c : CredentialConn) : Prop := c.release = !(c.failed || c.authenticated)

theorem CredentialConn.tidy_close (c : CredentialConn) : c.close.Tidy := by
  simp [Tidy, close, finishAuthorizationLocked]

/-- A write keeps the lease, or gives it back with the token sent or the connection failed; after
    that no token is sent. -/
theorem CredentialConn.Tidy.write {c : CredentialConn} (h : c.Tidy)
    (namesCredential : List Byte → Bool) (value : List Byte) :
    (c.write namesCredential value).2.Tidy ∧
      (c.release = false → (c.write namesCredential value).2.release = false ∧
        (c.write namesCredential value).2.authenticated = c.authenticated) := by
  unfold Tidy at h ⊢
  unfold CredentialConn.write
  cases hfailed : c.failed with
  | true => simp_all
  | false =>
    cases hauth : c.authenticated with
    | true => simp_all
    | false =>
      rw [hfailed, hauth] at h
      refine ⟨?_, fun hreleased => absurd (h.symm.trans hreleased) nofun⟩
      simp only [Bool.false_eq_true, if_false, failLocked, finishAuthorizationLocked]
      repeat' split
      all_goals simp_all

namespace Exchange

/-- The lease is held while it can still be used. -/
structure Covered (x : Exchange) : Prop where
  covered : x.uncovered = false
  count : x.lease.released = x.lease.once.toNat
  bound : x.connection.isSome = true → x.dial = .ended
  tidy : ∀ c ∈ x.connection, c.Tidy ∧ c.release = !x.lease.once
  spent : x.lease.once = true → x.dial = .ended ∨ x.dial = .idle ∧ x.returned = true
  kept : x.lease.once = false → x.returned = true → x.connection.isSome = true

variable {namesCredential : List Byte → Bool} {x y : Exchange} {c c' : CredentialConn}

theorem Covered.sound (h : Covered x) : x.Sound where
  covered := h.covered
  once := h.count ▸ Bool.toNat_le _
  released := by
    intro hreturned _ hreleased
    rw [h.count]
    cases honce : x.lease.once with
    | true => rfl
    | false =>
      obtain ⟨c, hc⟩ := Option.isSome_iff_exists.mp (h.kept honce hreturned)
      have hheld := (h.tidy c hc).2
      rw [hreleased c hc, honce] at hheld
      cases hheld

/-- The connection moves on, and once the lease is back it sends no token. -/
theorem Covered.moved (h : Covered x) (hc : x.connection = some c) (ht : c'.Tidy)
    (hback : c.release = false → c'.release = false ∧ c'.authenticated = c.authenticated) :
    Covered (x.moved c c') := by
  have hdial : x.dial = .ended := h.bound (hc ▸ rfl)
  have hcovered := h.covered
  have hcount := h.count
  have hrelease := (h.tidy c hc).2
  refine ⟨?_, ?_, fun _ => hdial, ?_, fun _ => .inl hdial, fun _ _ => rfl⟩
  · cases honce : x.lease.once <;> simp_all [Exchange.moved]
  · cases honce : x.lease.once <;> cases hc' : c'.release <;>
      simp_all [Exchange.moved, RequestLease.close]
  · rintro _ ⟨⟩
    refine ⟨ht, ?_⟩
    cases honce : x.lease.once <;> cases hc' : c'.release <;>
      simp_all [Exchange.moved, RequestLease.close]

theorem close_once (l : RequestLease) : l.close.once = true := by
  unfold RequestLease.close
  split
  · assumption
  · rfl

/-- Giving up when no dial is under way. -/
theorem Covered.giveUp (h : Covered x) (hdial : x.Settled) : Covered x.giveUp := by
  have hclose : ∀ y : Exchange, Covered y → y.dial = x.dial →
      (∀ c ∈ y.connection, c.release = false) →
      Covered { y with lease := y.lease.close, returned := true } := by
    intro y hy hd hreleased
    refine ⟨hy.covered, ?_, hy.bound, fun c hc => ⟨(hy.tidy c hc).1, ?_⟩, fun _ => ?_, fun hno => ?_⟩
    · have hcount := hy.count
      unfold RequestLease.close
      cases ho : y.lease.once <;> simp_all
    · rw [hreleased c hc, close_once]
      rfl
    · rw [Settled, ← hd] at hdial
      exact hdial.symm.imp_right fun hidle => ⟨hidle, rfl⟩
    · exact absurd ((close_once _).symm.trans hno) nofun
  unfold Exchange.giveUp
  cases hc : x.connection with
  | none => exact hclose x h rfl (by simp [hc])
  | some c =>
    refine hclose _ (h.moved hc c.tidy_close fun _ => ⟨rfl, rfl⟩) rfl ?_
    rintro _ ⟨⟩
    rfl

/-- While a dial is under way nothing has been given back. -/
theorem Covered.dialled {dial : Dial} {k : Option CredentialConn} {u : Bool} (h : Covered x)
    (hdial : x.dial ≠ .ended) (hidle : x.dial = .idle → x.returned = false)
    (hu : x.lease.once = false → u = false)
    (hk : x.connection = none → ∀ c ∈ k, dial = .ended ∧ c.Tidy ∧ c.release = true) :
    Covered { x with dial := dial, connection := k, uncovered := u } := by
  have honce : x.lease.once = false := by
    by_contra hno
    rcases h.spent (by simpa using hno) with hover | ⟨hi, hr⟩
    · exact hdial hover
    · exact Bool.false_ne_true ((hidle hi).symm.trans hr)
  have hnone : x.connection = none := by
    by_contra hsome
    exact hdial (h.bound (Option.isSome_iff_ne_none.mpr hsome))
  refine ⟨hu honce, h.count, fun hk' => ?_, fun c hc => ?_, fun ho => ?_, fun _ hr => ?_⟩
  · obtain ⟨c, hc⟩ := Option.isSome_iff_exists.mp hk'
    exact (hk hnone c hc).1
  · simpa [honce] using (hk hnone c hc).2
  · exact absurd (honce.symm.trans ho) nofun
  · have hsome := h.kept honce hr
    simp [hnone] at hsome

theorem Covered.step {e : Event} (h : Covered x) (hstep : step namesCredential x e = some y) :
    Covered y := by
  have hsame : x.connection = none → ∀ c ∈ x.connection, ∀ p : Prop, p := by
    rintro hnone c hc
    cases hnone.symm.trans hc
  have hu : x.lease.once = false → (x.uncovered || x.lease.once) = false := by
    intro honce
    rw [h.covered, honce]
    rfl
  cases e with
  | dial network address =>
    simp only [Exchange.step] at hstep
    split_ifs at hstep with hr hidle
    · cases hstep
      exact h
    all_goals
      rw [not_not] at hidle
      cases hstep
      exact h.dialled (by simp [hidle]) (fun _ => by simpa using hr) (fun _ => h.covered)
        fun hnone c hc => hsame hnone c hc _
  | connect ok =>
    obtain ⟨hd, ⟨⟩⟩ := Option.ite_none_right_eq_some.mp hstep
    exact h.dialled (by simp [hd]) (by simp [hd]) (fun _ => h.covered)
      fun hnone c hc => hsame hnone c hc _
  | authorize =>
    obtain ⟨hd, ⟨⟩⟩ := Option.ite_none_right_eq_some.mp hstep
    exact h.dialled (by simp [hd]) (by simp [hd]) hu fun hnone c hc => hsame hnone c hc _
  | authorized token =>
    obtain ⟨hd, ⟨⟩⟩ := Option.ite_none_right_eq_some.mp hstep
    refine h.dialled (by simp [hd]) (by simp [hd]) hu fun _ c hc => ⟨rfl, ?_⟩
    obtain ⟨token, -, rfl⟩ := Option.map_eq_some_iff.mp hc
    exact ⟨rfl, rfl⟩
  | write value =>
    obtain ⟨c, hc, rfl⟩ := Option.map_eq_some_iff.mp hstep
    obtain ⟨ht, hback⟩ := (h.tidy c hc).1.write namesCredential value
    exact h.moved hc ht hback
  | closeConnection =>
    obtain ⟨c, hc, rfl⟩ := Option.map_eq_some_iff.mp hstep
    exact h.moved hc c.tidy_close fun _ => ⟨rfl, rfl⟩

theorem Covered.run {events : List Event} (h : Covered x)
    (hrun : run namesCredential x events = some y) : Covered y := by
  induction events generalizing x with
  | nil =>
    cases hrun
    exact h
  | cons e rest ih =>
    obtain ⟨z, hstep, hrest⟩ := Option.bind_eq_some_iff.mp hrun
    exact ih (h.step hstep) hrest

/-- A dial that is under way when `RoundTrip` gives up runs the authorizer without the lease. -/
theorem dial_outlives (namesCredential : List Byte → Bool) (hdial : ¬x.Settled) :
    ∃ later y, run namesCredential x.giveUp later = some y ∧ y.uncovered = true := by
  have hd : x.giveUp.dial = x.dial := by
    unfold giveUp
    cases x.connection <;> rfl
  have honce : x.giveUp.lease.once = true := close_once _
  cases hx : x.dial with
  | idle => exact absurd (.inl hx) hdial
  | ended => exact absurd (.inr hx) hdial
  | dialing =>
    exact ⟨[.connect true, .authorize], _, by simp [run, step, hd, hx]; rfl, by simp [consult, honce]⟩
  | connected => exact ⟨[.authorize], _, by simp [run, step, hd, hx]; rfl, by simp [consult, honce]⟩
  | authorizing =>
    exact ⟨[.authorized none], _, by simp [run, step, hd, hx]; rfl, by simp [consult, honce]⟩

end Exchange

end LoopbackAuth
