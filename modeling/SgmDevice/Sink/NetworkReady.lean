import SgmDevice.Sink.MqttProtocol
import SgmDevice.Sink.PppCalls

/-!
# What the message protocol knows of the network

The protocol hears of the network only through the notifications of the ticks, from its registration
on.  Every tick that changes the state reports it, so the protocol never falls behind; but what
happened before the registration it does not hear (`network_ready_iff`).
-/

namespace SgmDevice

namespace PppConnection

open Concurrency PppEndpoint

/-- The protocol object after some notifications, the latest one first. -/
def informed : List (NetworkStatusCallback × NetworkStatus) → MqttProtocol
  | [] => {}
  | (.onNetworkStatusChange, status) :: earlier =>
    MqttProtocol.onNetworkStatusChange status (informed earlier)
  | (.other _, _) :: earlier => informed earlier

/-- Once it is registered, the protocol takes the network for ready exactly in state `CONNECTED`. -/
def KnowsNetwork (d : Data) : Prop :=
  .onNetworkStatusChange ∈ d.callbackList →
    ((informed d.notifications).isNetworkReady = true ↔ d.itsCurrentState = .connected)

/-- The protocol is not registered first in state `CONNECTED`. -/
def RegisteredUnconnected (c : Config) : Act → Prop
  | .env (.registerUserCallback .onNetworkStatusChange) =>
    .onNetworkStatusChange ∉ c.shared.callbackList → c.shared.itsCurrentState ≠ .connected
  | _ => True

/-- All callbacks are told one status. -/
theorem isNetworkReady_informed (callbacks : List NetworkStatusCallback) (status : NetworkStatus)
    (earlier : List (NetworkStatusCallback × NetworkStatus)) :
    (informed ((callbacks.map (·, status)).reverse ++ earlier)).isNetworkReady =
      if .onNetworkStatusChange ∈ callbacks then decide (status = .connected)
      else (informed earlier).isNetworkReady := by
  induction callbacks generalizing earlier with
  | nil => rfl
  | cons callback callbacks ih =>
    rw [List.map_cons, List.reverse_cons, List.append_assoc, ih]
    cases callback with
    | onNetworkStatusChange =>
      rw [if_pos List.mem_cons_self]
      split
      · rfl
      · exact MqttProtocol.isNetworkReady_onNetworkStatusChange status _
    | other n => simp [informed]

/-- A tick that changes the state reports whether it is `CONNECTED`. -/
theorem notice_nextState (opened : Bool) (ev : Event) (st : State) :
    (∀ status, notice opened ev st = some status →
      (status = .connected ↔ nextState opened ev st = .connected)) ∧
      (notice opened ev st = none → nextState opened ev st = st) := by
  cases opened <;> cases ev <;> cases st <;> simp [notice, nextState]

/-- Before its registration the protocol takes the network for away. -/
structure Informed (d : Data) : Prop where
  knows : KnowsNetwork d
  unregistered : .onNetworkStatusChange ∉ d.callbackList →
    (informed d.notifications).isNetworkReady = false

/-- What tells nobody and leaves the state keeps the protocol informed. -/
theorem Informed.congr {d d' : Data} (h : Informed d)
    (hstate : d'.itsCurrentState = d.itsCurrentState)
    (hcallbacks : d'.callbackList = d.callbackList)
    (hnotified : d'.notifications = d.notifications) : Informed d' where
  knows := by
    rw [KnowsNetwork, hcallbacks, hnotified, hstate]
    exact h.knows
  unregistered := by
    rw [hcallbacks, hnotified]
    exact h.unregistered

theorem Informed.tick {d : Data} (h : Informed d) (w : World) (ev : Event) :
    Informed (PppConnection.tick w ev d).2 := by
  obtain ⟨hcallbacks, hnotified⟩ := tick_notifications w ev d
  obtain ⟨hreports, hquiet⟩ := notice_nextState (openResult w.returncode) ev d.itsCurrentState
  cases hnotice : notice (openResult w.returncode) ev d.itsCurrentState with
  | none =>
    rw [hnotice] at hnotified
    exact h.congr ((tick_state w ev d).trans (hquiet hnotice)) hcallbacks hnotified
  | some status =>
    rw [hnotice] at hnotified
    have hready := isNetworkReady_informed d.callbackList status d.notifications
    rw [← show _ = _ ++ _ from hnotified] at hready
    refine ⟨fun hregistered => ?_, fun hregistered => ?_⟩
    · rw [hcallbacks] at hregistered
      rw [hready, if_pos hregistered, tick_state, decide_eq_true_iff]
      exact hreports status hnotice
    · rw [hcallbacks] at hregistered
      rw [hready, if_neg hregistered]
      exact h.unregistered hregistered

theorem Informed.observes {d : Data} (h : Informed d) {o : Op} (ho : o.observes) (w : World) :
    Informed (o.exec w d).2 := by
  obtain ⟨hstate, -⟩ := exec_observes ho w d
  obtain ⟨hcallbacks, hnotified⟩ := exec_observes_callbacks ho w d
  exact h.congr hstate hcallbacks hnotified

/-- The registration tells the protocol nothing. -/
theorem knowsNetwork_register {d : Data} (h : Informed d) (netCallback : NetworkStatusCallback) :
    KnowsNetwork (registerUserCallback netCallback d) ↔
      (netCallback = .onNetworkStatusChange → .onNetworkStatusChange ∉ d.callbackList →
        d.itsCurrentState ≠ .connected) := by
  by_cases hregistered : .onNetworkStatusChange ∈ d.callbackList
  · exact iff_of_true (fun _ => h.knows hregistered) fun _ hnew => absurd hregistered hnew
  · have hready := h.unregistered hregistered
    simp [KnowsNetwork, registerUserCallback, hregistered, hready, eq_comm]

theorem Informed.register {d : Data} (h : Informed d) {netCallback : NetworkStatusCallback}
    (hknows : KnowsNetwork (registerUserCallback netCallback d)) :
    Informed (registerUserCallback netCallback d) where
  knows := hknows
  unregistered hnew := h.unregistered fun hregistered => hnew (List.mem_append_left _ hregistered)

/-! ## Runs -/

theorem Informed.step {c c' : Config} {a : Act} (hu : Used c) (h : Informed c.shared)
    (hs : calls.system.step c a = some c') :
    (KnowsNetwork c'.shared ↔ RegisteredUnconnected c a) ∧
      (KnowsNetwork c'.shared → Informed c'.shared) := by
  cases a with
  | run t w =>
    obtain ⟨o, k, r, d, hp, he, rfl⟩ := Threads.runStep_eq_some hs
    obtain ⟨rfl, rfl⟩ := Threads.reply_eq he
    have h' : Informed (o.exec w c.shared).2 := by
      cases o with
      | plain o => exact h.observes (hu.observes hp) w
      | stateMachineTick ev => exact h.tick w ev
    exact ⟨iff_of_true h'.knows trivial, fun _ => h'⟩
  | call t d =>
    obtain ⟨x, p, -, -, rfl⟩ := Threads.callStep_eq_some hs
    exact ⟨iff_of_true h.knows trivial, fun _ => h⟩
  | env e =>
    cases hs
    cases e with
    | setCmuxReady flag =>
      have h' : Informed { c.shared with isCmuxReady := flag } := ⟨h.knows, h.unregistered⟩
      exact ⟨iff_of_true h'.knows trivial, fun _ => h'⟩
    | registerUserCallback netCallback =>
      refine ⟨(knowsNetwork_register h netCallback).trans ?_, h.register⟩
      cases netCallback <;> simp [RegisteredUnconnected]

end PppConnection

end SgmDevice
