import SgmDevice.Sink.PppCalls

/-!
# What the pause of the monitor is worth

A disconnect pauses the monitor, but the pause only lets the wait of `powerMonitorThread` run into
its time limit: the loop goes on, and a CMUX that it sees become ready opens the connection again
(`disconnect_lasts_iff`).
-/

namespace SgmDevice

namespace PppConnection

open Concurrency PppEndpoint

/-- The calls of `connect()`. -/
def isConnect : Act → Bool
  | .call .user .connect => true
  | _ => false

/-- What happens until the next `connect()`. -/
abbrev unconnected : System Config Act := calls.system.without isConnect

/-- The tick of a `disconnect()` has left the state `NO_CONNECTION` and the monitor paused. -/
structure Disconnected (c : Config) (w : World) (c' : Config) : Prop where
  step : calls.system.step c (.run .user w) = some c'
  request : pendingTick (c.prog .user) = some .disconnectRequest
  noConnection : c'.shared.itsCurrentState = .noConnection
  paused : c'.shared.isPowerMonitorOn = false

/-- How often `open()` has been called. -/
def opens : List EndpointCall → ℕ
  | [] => 0
  | .opened _ :: calls => opens calls + 1
  | .closed :: calls => opens calls

/-- There is no connection, and `open()` has not been called again. -/
def StaysDisconnected (n : ℕ) (d : Data) : Prop :=
  d.itsCurrentState ≠ .connected ∧ opens d.endpointCalls = n

/-- The monitor reports a change only when it has not just read that the CMUX is ready. -/
def ReportsNoRise (c : Config) : Act → Prop
  | .run .monitor _ => (pendingTick (c.prog .monitor)).isSome →
      latestSample c.shared.cmuxReadyFlag ≠ some true
  | _ => True

instance (c : Config) : (a : Act) → Decidable (ReportsNoRise c a)
  | .run .monitor _ => inferInstanceAs (Decidable (_ → _))
  | .run .user _ | .call _ _ | .env _ => inferInstanceAs (Decidable True)

/-- The program ticks no `CONNECT_REQUEST`. -/
def neverConnects {α : Type} : Program.Contract Call Call.Res α Unit where
  pre _ c _ := c ≠ .stateMachineTick .connectRequest
  move _ _ _ _ := True
  post _ _ := True

theorem disconnect_neverConnects : UserCall.disconnect.code.Safe neverConnects () := by
  simp [UserCall.code, disconnect, Program.perform, Program.safe_op, neverConnects]

/-- The invariant between a disconnect and the next `connect()`. -/
structure Idle (n : ℕ) (c : Config) : Prop where
  used : Used c
  user : (c.prog .user).Safe neverConnects ()
  stays : StaysDisconnected n c.shared

theorem StaysDisconnected.tick {n : ℕ} {d : Data} (h : StaysDisconnected n d) (w : World)
    {ev : Event} (hconnect : ev ≠ .connectRequest) :
    StaysDisconnected n (PppConnection.tick w ev d).2 ↔ ev ≠ .deviceRestored := by
  obtain ⟨hstate, hopens⟩ := h
  unfold StaysDisconnected
  rw [tick_state, tick_endpointCalls]
  cases ev <;> cases hst : d.itsCurrentState <;> simp_all [nextState, endpointUse, opens]

theorem StaysDisconnected.observes {n : ℕ} {d : Data} (h : StaysDisconnected n d) {o : Op}
    (ho : o.observes) (w : World) : StaysDisconnected n (o.exec w d).2 := by
  obtain ⟨hstate, hcalls⟩ := exec_observes ho w d
  unfold StaysDisconnected
  rw [hstate, hcalls]
  exact h

/-- A tick of the monitor. -/
theorem StaysDisconnected.monitor {n : ℕ} {c : Config} (hu : Used c)
    (h : StaysDisconnected n c.shared) (w : World) {ev : Event}
    {k : State → Program Call Call.Res MonitorPoint}
    (hp : c.prog .monitor = .op (.stateMachineTick ev) k) :
    StaysDisconnected n (PppConnection.tick w ev c.shared).2 ↔
      ReportsNoRise c (.run .monitor w) := by
  obtain ⟨flag, hlatest, rfl⟩ := monitor_reads hu (by rw [hp]; rfl)
  rw [h.tick w (by cases flag <;> decide)]
  cases flag <;> simp [ReportsNoRise, hp, pendingTick, hlatest, reading]

/-- A tick of the user. -/
theorem StaysDisconnected.user {n : ℕ} {c : Config} (hu : Used c)
    (h : StaysDisconnected n c.shared) (w : World) {ev : Event}
    {k : State → Program Call Call.Res (Option NetworkStatus)}
    (hp : c.prog .user = .op (.stateMachineTick ev) k) (hconnect : ev ≠ .connectRequest) :
    StaysDisconnected n (PppConnection.tick w ev c.shared).2 := by
  have safe := hu .user
  rw [hp] at safe
  exact (h.tick w hconnect).2 safe.pre.1

theorem Idle.stays_step {n : ℕ} {c c' : Config} {a : Act} (h : Idle n c)
    (hs : calls.system.step c a = some c') :
    StaysDisconnected n c'.shared ↔ ReportsNoRise c a := by
  cases a with
  | run t w =>
    obtain ⟨o, k, r, d, hp, he, rfl⟩ := Threads.runStep_eq_some hs
    obtain ⟨rfl, rfl⟩ := Threads.reply_eq he
    cases o with
    | plain o =>
      refine iff_of_true (h.stays.observes (h.used.observes hp) w) ?_
      cases t with
      | user => trivial
      | monitor =>
        intro htick
        rw [hp] at htick
        cases htick
    | stateMachineTick ev =>
      cases t with
      | user =>
        have safe := h.user
        rw [hp] at safe
        refine iff_of_true (h.stays.user h.used w hp ?_) trivial
        rintro rfl
        exact safe.pre rfl
      | monitor => exact h.stays.monitor h.used w hp
  | call t d =>
    obtain ⟨x, p, -, -, rfl⟩ := Threads.callStep_eq_some hs
    exact iff_of_true h.stays trivial
  | env e =>
    cases hs
    cases e <;> exact iff_of_true h.stays trivial

theorem Idle.user_step {n : ℕ} {c c' : Config} {a : Act} (h : Idle n c)
    (hconnect : isConnect a = false) (hs : calls.system.step c a = some c') :
    (c'.prog .user).Safe neverConnects () := by
  cases a with
  | run t w =>
    obtain ⟨o, k, r, d, hp, he, rfl⟩ := Threads.runStep_eq_some hs
    cases t with
    | user =>
      have safe := h.user
      rw [hp] at safe
      simpa using safe.move trivial
    | monitor => exact h.user
  | call t d =>
    obtain ⟨x, p, hp, he, rfl⟩ := Threads.callStep_eq_some hs
    cases t with
    | user =>
      cases d with
      | connect => cases hconnect
      | disconnect =>
        cases he
        exact disconnect_neverConnects
    | monitor => exact h.user
  | env e =>
    cases hs
    exact h.user

/-- The tick is the last that a disconnect does. -/
theorem Disconnected.idle {c c' : Config} {w : World} (h : Disconnected c w c') (hu : Used c) :
    Idle (opens c'.shared.endpointCalls) c' := by
  refine ⟨hu.step h.step, ?_, ?_, rfl⟩
  · obtain ⟨o, k, r, d, hp, he, hc'⟩ := Threads.runStep_eq_some h.step
    have hrequest := h.request
    have safe := hu .user
    rw [hp] at hrequest safe
    obtain rfl : o = .stateMachineTick .disconnectRequest := by
      cases o <;> cases hrequest
      rfl
    obtain ⟨status, hreturned⟩ := Option.isSome_iff_exists.1 (safe.pre.2 r)
    rw [hc']
    simp [Program.eq_ret_of_result hreturned, neverConnects]
  · rw [h.noConnection]
    decide

/-- In every run after a disconnect the connection stays closed until the next `connect()` if and
only if the monitor reports no ready CMUX. -/
theorem disconnect_lasts_iff (flag : Bool) (before : List Act) (w : World) {c : Config}
    (h : Disconnected (calls.system.final (calls.init flag) before) w c) (after : List Act) :
    unconnected.Always c after
        (fun c' => StaysDisconnected (opens c.shared.endpointCalls) c'.shared) ↔
      unconnected.Obeys c after ReportsNoRise := by
  have hused : Used (calls.system.final (calls.init flag) before) :=
    (System.always_of_invariant (fun _ _ _ hu hs => Used.step hu hs) (init_used flag) before).final
  refine System.always_iff_obeys (I := Idle (opens c.shared.endpointCalls)) (fun _ h => h.stays)
    (fun c₁ a c₂ hidle hG hs => ?_) (fun c₁ a c₂ hidle hG hs hstays => ?_) (h.idle hused) after
  · obtain ⟨hconnect, hs⟩ := System.without_eq_some.1 hs
    exact ⟨hidle.used.step hs, hidle.user_step hconnect hs, (hidle.stays_step hs).2 hG⟩
  · exact hG ((hidle.stays_step (System.without_eq_some.1 hs).2).1 hstays)

/-- A CMUX that is not ready when the monitor starts, a connection that the user opens and closes
once the CMUX is ready. -/
def pausedSchedule : List Act :=
  .call .monitor () :: steps .monitor 1 ++ .env (.setCmuxReady true) ::
    .call .user .connect :: steps .user 3 ++ .call .user .disconnect :: steps .user 2

/-- One round of the paused monitor: the wait ends with its time limit. -/
def pausedRound : List Act :=
  .call .monitor () :: steps .monitor 1 ++ .call .monitor () :: steps .monitor 4 ++
    .call .monitor () :: steps .monitor 3

/-- The state that the disconnect leaves. -/
def pausedConfig : Config :=
  calls.system.final (calls.init false) (pausedSchedule ++ steps .user 1)

theorem pausedConfig_disconnected :
    Disconnected (calls.system.final (calls.init false) pausedSchedule) {} pausedConfig where
  step := rfl
  request := by decide
  noConnection := by decide
  paused := by decide

/-- A CMUX that goes away before the next round stays away. -/
theorem disconnect_lasts_away :
    unconnected.Always pausedConfig (.env (.setCmuxReady false) :: pausedRound)
      fun c' => StaysDisconnected 1 c'.shared :=
  (disconnect_lasts_iff false pausedSchedule {} pausedConfig_disconnected _).2 (by decide)

/-- The paused monitor sees the ready CMUX in its next round and opens the connection again. -/
theorem paused_monitor_reconnects :
    ¬ ∀ (flag : Bool) (before : List Act) (w : World) (c : Config),
      Disconnected (calls.system.final (calls.init flag) before) w c → ∀ after,
        unconnected.Always c after
          fun c' => StaysDisconnected (opens c.shared.endpointCalls) c'.shared := by
  intro h
  obtain ⟨hstate, -⟩ :=
    (h false pausedSchedule {} pausedConfig pausedConfig_disconnected pausedRound).final
  exact hstate (by decide)

end PppConnection

end SgmDevice
