import SgmDevice.Sink.AcceptedSocket

/-!
# The link to the broker

`MqttClient` keeps a flag of its own beside the library's connection, which may be lost at any time.
When it is lost between a successful `MQTTClient_connect` and the test behind it, the flag stays
set, and the sink calls `connect()` for ever without trying.  Every call tries exactly in the runs
that make no call after such a loss (`connects_try_iff`).
-/

namespace SgmDevice

open Sgm Concurrency

namespace MqttLink

/-- Whether the link is lost at each moment, and what the library answers in turn. -/
structure Answers where
  lost : ℕ → Bool := fun _ => false
  connect : ℕ → Int := fun _ => 0
  publish : ℕ → Int := fun _ => 0
  waitForCompletion : ℕ → Int := fun _ => 0
  networkStatus : ℕ → NetworkStatus := fun _ => .connected

/-- `MqttClient::Result`, as far as `connect` returns it. -/
inductive ConnectResult where
  | connected
  | connectionError
  deriving DecidableEq, Repr

end MqttLink

/-- The protocol and the library's connection. -/
structure MqttLink where
  protocol : MqttProtocol := {}
  /-- What `MQTTClient_isConnected` says. -/
  link : Bool := false
  /-- How many moments have passed, and how often `MQTTClient_connect` has been called. -/
  moments : ℕ := 0
  attempts : ℕ := 0
  deriving DecidableEq, Repr

namespace MqttLink

open SgmSink

variable (a : Answers)

/-- A moment passes, in which the link may be lost. -/
def pass (s : MqttLink) : MqttLink :=
  { s with link := s.link && !a.lost s.moments, moments := s.moments + 1 }

/-! ## The library -/

def MQTTClient_isConnected (s : MqttLink) : Bool × MqttLink := ((s.pass a).link, s.pass a)

def MQTTClient_connect (s : MqttLink) : Int × MqttLink :=
  let rc := a.connect s.attempts
  let s := { s.pass a with attempts := s.attempts + 1 }
  (rc, if rc = MqttProtocol.MQTTCLIENT_SUCCESS then { s with link := true } else s)

def MQTTClient_disconnect (s : MqttLink) : MqttLink := { s.pass a with link := false }

def MQTTClient_yield (s : MqttLink) : MqttLink := s.pass a

/-! ## `MqttClient` and `MqttProtocol` over it -/

/-- `MqttClient::connect`. -/
def clientConnect (s : MqttLink) : ConnectResult × MqttLink :=
  if s.protocol.isConnected then (.connected, s)
  else
    let (rc, s) := MQTTClient_connect a s
    if rc ≠ MqttProtocol.MQTTCLIENT_SUCCESS then (.connectionError, s)
    else (.connected, { s with protocol := { s.protocol with isConnected := true } })

/-- `MqttClient::disconnect`. -/
def clientDisconnect (s : MqttLink) : MqttLink :=
  let s := MQTTClient_disconnect a s
  { s with protocol := { s.protocol with isConnected := false } }

def connect (s : MqttLink) : Bool × MqttLink :=
  let (result, s) := clientConnect a s
  if result = .connectionError then (false, s) else MQTTClient_isConnected a s

def disconnect (s : MqttLink) : Bool × MqttLink :=
  let (isConnected, s) := MQTTClient_isConnected a (clientDisconnect a s)
  (!isConnected, s)

/-- `sendMessage`; the link may also be lost in each of the calls that publish. -/
def sendMessage (dataToSend : SgmProcessData) (s : MqttLink) :
    IMessageProtocol.Result × MqttLink :=
  let (isClientConnected, s') := MQTTClient_isConnected a s
  let w : MqttProtocol.World :=
    { isClientConnected
      publish := a.publish s.moments
      waitForCompletion := a.waitForCompletion s.moments
      networkStatus := a.networkStatus s.moments }
  let (result, protocol) := MqttProtocol.sendMessage w dataToSend
    (MqttProtocol.onNetworkStatusChange w.networkStatus s.protocol)
  (result, { (s'.pass a).pass a with protocol })

/-- The protocol as the sink sees it; a moment passes before each call of `connect()`. -/
def linked : IMessageProtocol MqttLink where
  sendMessage := sendMessage a
  connect s := connect a (s.pass a)
  disconnect := disconnect a
  yield := MQTTClient_yield a

/-- What `MqttProtocol` is answered in a call of `connect()`. -/
def connectWorld (s : MqttLink) : MqttProtocol.World where
  isClientConnected := (MQTTClient_isConnected a (clientConnect a s).2).1
  connect := a.connect s.attempts

/-! ## One call of `connect()` -/

section Connect

variable {a} {s : MqttLink}

theorem connect_flagged (h : s.protocol.isConnected = true) :
    connect a s = ((s.pass a).link, s.pass a) := by
  simp [connect, clientConnect, MQTTClient_isConnected, h]

theorem connect_failed (h : s.protocol.isConnected = false)
    (hrc : a.connect s.attempts ≠ MqttProtocol.MQTTCLIENT_SUCCESS) :
    connect a s = (false, { s.pass a with attempts := s.attempts + 1 }) := by
  simp [connect, clientConnect, MQTTClient_connect, h, hrc]

/-- The link may be lost again before the last test. -/
theorem connect_succeeded (h : s.protocol.isConnected = false)
    (hrc : a.connect s.attempts = MqttProtocol.MQTTCLIENT_SUCCESS) :
    connect a s = (!a.lost (s.moments + 1),
      { protocol := { s.protocol with isConnected := true }
        link := !a.lost (s.moments + 1)
        moments := s.moments + 2
        attempts := s.attempts + 1 }) := by
  simp [connect, clientConnect, MQTTClient_connect, MQTTClient_isConnected, pass, h, hrc]

/-- With these answers the call is the one of `MqttProtocol`. -/
theorem connect_protocol (a : Answers) (s : MqttLink) :
    ((connect a s).1, (connect a s).2.protocol) =
      MqttProtocol.connect (connectWorld a s) s.protocol := by
  unfold MqttProtocol.connect connectWorld
  cases hflag : s.protocol.isConnected with
  | true =>
    rw [connect_flagged hflag]
    simp [clientConnect, MQTTClient_isConnected, pass, hflag]
  | false =>
    by_cases hrc : a.connect s.attempts = MqttProtocol.MQTTCLIENT_SUCCESS
    · rw [connect_succeeded hflag hrc]
      simp [clientConnect, MQTTClient_connect, MQTTClient_isConnected, pass, hflag, hrc]
    · rw [connect_failed hflag hrc]
      simp [pass, hrc]

theorem disconnect_protocol (a : Answers) (s : MqttLink) :
    ((disconnect a s).1, (disconnect a s).2.protocol) =
      MqttProtocol.disconnect { isClientConnected := false } s.protocol := rfl

end Connect

/-! ## The ticks of the sink -/

/-- A call of `connect()` that is made while the link is down calls `MQTTClient_connect`. -/
def Tries (s : SgmSink MqttLink) (w : TickWorld) : Prop :=
  s.itsCurrentState = .connected → (s.itsSinkProtocol.pass a).link = false →
    (tick (linked a) w s).itsSinkProtocol.attempts = s.itsSinkProtocol.attempts + 1

/-- The tick calls `connect()`. -/
def CallsConnect (s : SgmSink MqttLink) : Prop := s.itsCurrentState = .connected

/-- `MQTTClient_connect` would succeed, and the link be lost before the test behind it. -/
def LosesLink (s : SgmSink MqttLink) : Prop :=
  a.connect s.itsSinkProtocol.attempts = MqttProtocol.MQTTCLIENT_SUCCESS ∧
    a.lost (s.itsSinkProtocol.moments + 2) = true

/-- The link is up only while the sink listens. -/
def UpWhileListening (s : SgmSink MqttLink) : Prop :=
  s.itsCurrentState ≠ .listeningConnected → s.itsSinkProtocol.link = false

/-- The flag is set only while the sink listens. -/
def FlaggedWhileListening (s : SgmSink MqttLink) : Prop :=
  s.itsCurrentState ≠ .listeningConnected → s.itsSinkProtocol.protocol.isConnected = false

/-- The sink leaves `LISTENING_CONNECTED` with the flag clear and the link down. -/
theorem tick_leaves {s : SgmSink MqttLink} {w : TickWorld}
    (h : s.itsCurrentState = .listeningConnected)
    (leaves : (tick (linked a) w s).itsCurrentState ≠ .listeningConnected) :
    (tick (linked a) w s).itsSinkProtocol.link = false ∧
      (tick (linked a) w s).itsSinkProtocol.protocol.isConnected = false := by
  rcases tick_listening_cases (linked a) h with hstays | ⟨-, hprotocol⟩
  · exact absurd hstays leaves
  · rw [hprotocol]
    exact ⟨rfl, rfl⟩

/-- The tick that calls `connect()`. -/
theorem tick_connects {s : SgmSink MqttLink} (w : TickWorld) (h : CallsConnect s) :
    (tick (linked a) w s).itsSinkProtocol = (connect a (s.itsSinkProtocol.pass a)).2 ∧
      ((tick (linked a) w s).itsCurrentState ≠ .listeningConnected ↔
        (connect a (s.itsSinkProtocol.pass a)).1 = false) := by
  have hcall : (linked a).connect s.itsSinkProtocol = connect a (s.itsSinkProtocol.pass a) := rfl
  rw [tick_connected h, hcall]
  cases hconnect : (connect a (s.itsSinkProtocol.pass a)).1 with
  | true => exact ⟨rfl, by simp⟩
  | false => exact ⟨rfl, iff_of_true (by simp [show s.itsCurrentState = _ from h]) rfl⟩

/-- A tick in another state leaves the protocol alone, or listens. -/
theorem tick_other {s : SgmSink MqttLink} (w : TickWorld) (hcall : ¬ CallsConnect s)
    (hlisten : s.itsCurrentState ≠ .listeningConnected) :
    (tick (linked a) w s).itsSinkProtocol = s.itsSinkProtocol ∧
      (tick (linked a) w s).itsCurrentState ≠ .listeningConnected := by
  cases hstate : s.itsCurrentState with
  | connected => exact absurd hstate hcall
  | listeningConnected => exact absurd hstate hlisten
  | noConnection =>
    rw [tick_noConnection hstate]
    split_ifs
    · exact ⟨rfl, by simp⟩
    · exact ⟨rfl, hlisten⟩
  | listeningDisconnected =>
    rw [tick_listeningDisconnected hstate]
    exact ⟨rfl, hlisten⟩

theorem UpWhileListening.step {s s' : SgmSink MqttLink} {w : TickWorld} (h : UpWhileListening s)
    (hs : (ticks (linked a)).step s w = some s') : UpWhileListening s' := by
  obtain ⟨-, rfl⟩ := ticks_eq_some _ hs
  intro hstate
  by_cases hlisten : s.itsCurrentState = .listeningConnected
  · exact (tick_leaves a hlisten hstate).1
  by_cases hcall : CallsConnect s
  · obtain ⟨hprotocol, hiff⟩ := tick_connects a w hcall
    have hfalse := hiff.1 hstate
    have hdown : (s.itsSinkProtocol.pass a).link = false := by
      simp [pass, h hlisten]
    rw [hprotocol]
    cases hflag : (s.itsSinkProtocol.pass a).protocol.isConnected with
    | true =>
      rw [connect_flagged hflag] at hfalse ⊢
      exact hfalse
    | false =>
      by_cases hrc : a.connect (s.itsSinkProtocol.pass a).attempts =
          MqttProtocol.MQTTCLIENT_SUCCESS
      · rw [connect_succeeded hflag hrc] at hfalse ⊢
        exact hfalse
      · rw [connect_failed hflag hrc]
        simp [pass, h hlisten]
  · rw [(tick_other a w hcall hlisten).1]
    exact h hlisten

/-- While the link is up only when the sink listens, a call tries exactly when the flag is clear. -/
theorem tries_iff {s : SgmSink MqttLink} (w : TickWorld) (h : UpWhileListening s) :
    Tries a s w ↔ (CallsConnect s → FlaggedWhileListening s) := by
  refine forall_congr' fun hcall => ?_
  have hlisten : s.itsCurrentState ≠ .listeningConnected := by
    rw [hcall]
    decide
  have hdown : (s.itsSinkProtocol.pass a).link = false := by
    simp [pass, h hlisten]
  rw [(tick_connects a w hcall).1, forall_prop_of_true hdown]
  show _ ↔ (_ → _)
  rw [forall_prop_of_true hlisten]
  cases hflag : s.itsSinkProtocol.protocol.isConnected with
  | true =>
    rw [connect_flagged (show (s.itsSinkProtocol.pass a).protocol.isConnected = true from hflag)]
    simp [pass]
  | false =>
    have hclear : (s.itsSinkProtocol.pass a).protocol.isConnected = false := hflag
    by_cases hrc : a.connect (s.itsSinkProtocol.pass a).attempts =
        MqttProtocol.MQTTCLIENT_SUCCESS
    · rw [connect_succeeded hclear hrc]
      exact iff_of_true rfl rfl
    · rw [connect_failed hclear hrc]
      exact iff_of_true rfl rfl

/-- Only the ticks that call `connect()` set the flag outside `LISTENING_CONNECTED`. -/
theorem flagged_other {s s' : SgmSink MqttLink} {w : TickWorld} (hcall : ¬ CallsConnect s)
    (hs : (ticks (linked a)).step s w = some s') :
    FlaggedWhileListening s' ↔ FlaggedWhileListening s := by
  obtain ⟨-, rfl⟩ := ticks_eq_some _ hs
  by_cases hlisten : s.itsCurrentState = .listeningConnected
  · exact iff_of_true (fun hstate => (tick_leaves a hlisten hstate).2) fun hstate =>
      absurd hlisten hstate
  · obtain ⟨hprotocol, hstate⟩ := tick_other a w hcall hlisten
    unfold FlaggedWhileListening
    rw [hprotocol, forall_prop_of_true hstate, forall_prop_of_true hlisten]

theorem flagged_connects {s s' : SgmSink MqttLink} {w : TickWorld}
    (h : FlaggedWhileListening s) (hcall : CallsConnect s)
    (hs : (ticks (linked a)).step s w = some s') :
    FlaggedWhileListening s' ↔ ¬ LosesLink a s := by
  obtain ⟨-, rfl⟩ := ticks_eq_some _ hs
  obtain ⟨hprotocol, hiff⟩ := tick_connects a w hcall
  have hlisten : s.itsCurrentState ≠ .listeningConnected := by
    rw [hcall]
    decide
  have hclear : (s.itsSinkProtocol.pass a).protocol.isConnected = false := h hlisten
  unfold FlaggedWhileListening LosesLink
  rw [hiff, hprotocol]
  by_cases hrc : a.connect (s.itsSinkProtocol.pass a).attempts = MqttProtocol.MQTTCLIENT_SUCCESS
  · rw [connect_succeeded hclear hrc]
    show ((!a.lost (s.itsSinkProtocol.moments + 2)) = false → true = false) ↔ ¬ (_ ∧ _)
    rw [and_iff_right (show a.connect s.itsSinkProtocol.attempts = _ from hrc)]
    cases a.lost (s.itsSinkProtocol.moments + 2) <;> simp
  · rw [connect_failed hclear hrc]
    exact iff_of_true (fun _ => hclear) fun hloses => hrc hloses.1

/-- In every run every call of `connect()` made while the link is down tries to connect if and only
if none is made after one in which the link was lost behind a successful `MQTTClient_connect`. -/
theorem connects_try_iff (packet : SgmProcessData) (acts : List TickWorld) :
    (ticks (linked a)).Obeys { itsSinkProtocol := {}, itsSgmDataPacket := packet } acts
        (Tries a) ↔
      ((ticks (linked a)).path { itsSinkProtocol := {}, itsSgmDataPacket := packet } acts).Pairwise
        fun t t' => CallsConnect t.before ∧ LosesLink a t.before → ¬ CallsConnect t'.before := by
  have hup : UpWhileListening { itsSinkProtocol := {}, itsSgmDataPacket := packet } := fun _ => rfl
  have hflag : FlaggedWhileListening { itsSinkProtocol := {}, itsSgmDataPacket := packet } :=
    fun _ => rfl
  refine (System.obeys_iff_obeys (I := UpWhileListening) (fun s w _ h _ => tries_iff a w h)
    (fun _ _ _ h _ => h.step a) hup acts).trans ?_
  exact System.obeys_iff_pairwise (A := fun s _ => CallsConnect s) (L := fun s _ => LosesLink a s)
    (fun _ _ _ => flagged_other a) (fun _ _ _ => flagged_connects a) hflag acts

/-- The link is lost right behind the first `MQTTClient_connect`, and the next call does not try. -/
theorem lost_link_not_tried :
    ¬ ∀ a packet acts, (ticks (linked a)).Obeys
      { itsSinkProtocol := {}, itsSgmDataPacket := packet } acts (Tries a) := by
  intro h
  have hticks := h { lost := fun n => n = 2 } (Vector.replicate _ 0) [{}, {}, {}]
  have hlast := (System.obeys_cons.1 (System.obeys_cons.1 hticks).2).2
  exact absurd ((System.obeys_cons.1 hlast).1 rfl rfl rfl) (by decide)

end MqttLink

end SgmDevice
