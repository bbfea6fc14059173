import SgmDevice.Concurrency.Channel
import SgmDevice.Site.Connection
import SgmDevice.Sink.IdleExit
import SgmDevice.Sink.Publications

/-!
# From the sensors to the MQTT library

A timer starts the service, which reads its sensor, connects to the socket of the sink and sends
its measurements.  The sink accepts the connections in their order, one in each tick, and hands
their packets to `publishMessage`.  Its process may end by itself or be killed at any statement; the
init system keeps the listening socket, with the connections that wait, and starts it again.

In every interleaving the device is a lossy channel from the sensors to `publishMessage`
(`refines`): what is handed over was measured, no measurement is handed over twice, and the order is
kept (`at_most_once`).
-/

namespace SgmDevice

open Sgm Concurrency SensorServiceApplication

namespace Site

/-- The two processes of the device and the socket between them. -/
structure State where
  sink : SgmSink MqttProtocol
  /-- What the MQTT library answers to this process of the sink. -/
  world : MqttProtocol.Answers
  /-- The connections that wait, each with what the sink will find on it, the first one first. -/
  backlog : List (List RecvOutcome) := []
  /-- The measurements of all services so far. -/
  acquired : List SgmProcessData := []
  /-- The packets that earlier processes of the sink handed to `publishMessage`, and what went
  there with them. -/
  earlier : List SgmProcessData := []
  earlierContents : List (String × List UInt8) := []

inductive Act (τ : Type) where
  /-- A service starts and ends. -/
  | service (ready : Bool) (answers : SinkAnswers) (w : τ)
  /-- A tick of the sink, on whose connection `recv` may fail. -/
  | tick (status : NetworkStatus) (listening : Listening) (interruption : Option (ℕ × Int))
  /-- The process of the sink is killed in a tick, when it has dealt with what the first `k` calls
  of `recv` returned, and is started again. -/
  | killed (status : NetworkStatus) (listening : Listening) (k : ℕ) (packet : SgmProcessData)
    (world : MqttProtocol.Answers)
  /-- The process of the sink ends between two ticks and is started again. -/
  | restart (packet : SgmProcessData) (world : MqttProtocol.Answers)

/-- What all processes of the sink handed to `publishMessage`, the topics as C strings, the first
call first. -/
def publications (s : State) : List (String × List UInt8) :=
  s.earlierContents ++ MqttProtocol.contents s.sink.itsSinkProtocol

/-- The packets that all processes of the sink handed to `publishMessage`: `sendMessage` reports
these as sent and no others, if it returns. -/
def delivered (s : State) : List SgmProcessData := s.earlier ++ SgmSink.reported s.sink.sent

/-- The call of `connect()` finds the listening socket and accepts a connection on it. -/
def accepts (l : Listening) : Bool :=
  match SinkSocket.search l, l.accept with
  | .ok _, .ok _ => true
  | _, _ => false

/-- The tick takes a connection off the backlog. -/
def takes (s : State) (l : Listening) : Bool :=
  s.sink.itsCurrentState = .listeningConnected && accepts l

variable {σ τ : Type} (dev : ISensorDevice σ τ) (clientId : String) (itsBmeSensor : σ)

/-- What a service measures. -/
def measurements (ready : Bool) (w : τ) : List SgmProcessData :=
  (SensorHub.acquireAll dev [] (SensorHub.registerSensor dev ready itsBmeSensor {}).2 w).1

/-- The sink has come to `sink` in a tick. -/
def ticked (s : State) (listening : Listening) (sink : SgmSink MqttProtocol) : State :=
  { s with sink, backlog := if takes s listening then s.backlog.tail else s.backlog }

/-- The process of the sink has ended and is started again. -/
def restarted (s : State) (packet : SgmProcessData) (world : MqttProtocol.Answers) : State :=
  { s with
    sink := SgmSink.start clientId packet
    world
    earlier := delivered s
    earlierContents := publications s }

/-- The device; nothing is accepted where nothing waits. -/
def system : System State (Act τ) where
  step s
    | .service ready answers w =>
      let routine := run dev ready answers itsBmeSensor w
      some { s with
        acquired := s.acquired ++ measurements dev itsBmeSensor ready w
        backlog := if routine.caught.isSome then s.backlog
          else s.backlog ++ [stream routine.attempts] }
    | .tick status listening interruption =>
      let outcomes := cutShort interruption (s.backlog.headD [])
      if takes s listening && s.backlog.isEmpty then none
      else
        ((SgmSink.operatorLoop (MqttProtocol.answered s.world)).step s.sink
          { status, listening, outcomes }).map (ticked s listening)
    | .killed status listening k packet world =>
      -- a packet on its way to `publishMessage` is as good as not received
      let outcomes := (s.backlog.headD []).take k
      if takes s listening && s.backlog.isEmpty then none
      else if SgmSink.MaxListenIterationsCount ≤ s.sink.listenIterationsCount then none
      else
        some (restarted clientId (ticked s listening
          (SgmSink.tick (MqttProtocol.answered s.world) { status, listening, outcomes } s.sink))
          packet world)
    | .restart packet world => some (restarted clientId s packet world)

def init (packet : SgmProcessData) (world : MqttProtocol.Answers) : State where
  sink := SgmSink.start clientId packet
  world

/-- The device as a channel. -/
def channel (s : State) : Channel SgmProcessData where
  offered := s.acquired
  inFlight := s.backlog.map packets
  delivered := delivered s

/-- What was handed to `publishMessage` is what the delivered packets are good for, and these and
the ones that wait were measured in this order, each of them once. -/
structure AtMostOnce (s : State) : Prop where
  published : (publications s).map some =
    (delivered s).map (MqttProtocol.publication clientId)
  ordered : (delivered s ++ (s.backlog.map packets).flatten).Sublist s.acquired

/-! ## One tick -/

section Tick

variable {P : IMessageProtocol MqttProtocol} {s s' : SgmSink MqttProtocol} {w : SgmSink.TickWorld}

theorem accepts_iff (l : Listening) :
    accepts l = true ↔ SinkSocket.Listens l ∧ ∃ accepted, l.accept = .ok accepted := by
  unfold accepts SinkSocket.Listens
  cases SinkSocket.search l <;> cases l.accept <;> simp

theorem sent_listened (q : SgmSink.Exit × SgmSink MqttProtocol) :
    (SgmSink.listened P q).sent = q.2.sent := by
  obtain ⟨exit, s⟩ := q
  cases exit <;> rfl

/-- Outside `LISTENING_CONNECTED` nothing is sent. -/
theorem sent_tick_outside (hstate : s.itsCurrentState ≠ .listeningConnected) :
    (SgmSink.tick P w s).sent = s.sent := by
  cases hcurrent : s.itsCurrentState with
  | listeningConnected => exact absurd hcurrent hstate
  | listeningDisconnected => rw [SgmSink.tick_listeningDisconnected hcurrent]
  | noConnection =>
    rw [SgmSink.tick_noConnection hcurrent]
    split_ifs <;> rfl
  | connected =>
    rw [SgmSink.tick_connected hcurrent]
    split_ifs <;> rfl

/-- Without an accepted connection nothing is sent. -/
theorem sent_tick_refused (listening : s.itsCurrentState = .listeningConnected)
    (h : (s.itsSinkSocket.connect w.listening).1 = .ok EAGAIN ∨
      ∃ what, (s.itsSinkSocket.connect w.listening).1 = .error what) :
    (SgmSink.tick P w s).sent = s.sent := by
  rw [SgmSink.tick_listening listening, sent_listened]
  rcases h with hagain | ⟨what, hwhat⟩
  · rw [SgmSink.processMessageQueue_again P w.outcomes hagain]
  · rw [SgmSink.processMessageQueue_thrown P w.outcomes hwhat]

/-- A tick that does not take a connection sends nothing. -/
theorem sent_tick_none
    (h : ¬ (s.itsCurrentState = .listeningConnected ∧ accepts w.listening = true)) :
    (SgmSink.tick P w s).sent = s.sent := by
  by_cases listening : s.itsCurrentState = .listeningConnected
  · have hnone : ¬ (SinkSocket.Listens w.listening ∧
        ∃ accepted, w.listening.accept = .ok accepted) :=
      fun haccepts => h ⟨listening, (accepts_iff _).2 haccepts⟩
    apply sent_tick_refused listening
    by_cases hlistens : SinkSocket.Listens w.listening
    · cases haccept : w.listening.accept with
      | ok accepted => exact absurd ⟨hlistens, accepted, haccept⟩ hnone
      | error errno =>
        obtain ⟨-, hresult, -⟩ := SinkSocket.connect_refused hlistens haccept s.itsSinkSocket
        exact hresult
    · exact Or.inr (SinkSocket.connect_of_not_listens hlistens s.itsSinkSocket).1
  · exact sent_tick_outside listening

/-- A tick that takes a connection hands on its packets, unless it mistakes what `connect()`
returns. -/
theorem sent_tick_takes (listening : s.itsCurrentState = .listeningConnected)
    (h : accepts w.listening = true) :
    (SgmSink.tick P w s).sent = s.sent ++
      if w.listening.leftover = EAGAIN then []
      else SgmSink.handedOn P (packets w.outcomes) s.itsSinkProtocol := by
  obtain ⟨hlistens, accepted, haccept⟩ := (accepts_iff w.listening).1 h
  obtain ⟨fd, hresult, -⟩ := SinkSocket.connect_accepted hlistens haccept s.itsSinkSocket
  by_cases hleftover : w.listening.leftover = EAGAIN
  · rw [hleftover] at hresult
    rw [sent_tick_refused listening (Or.inl hresult), if_pos hleftover, List.append_nil]
  · rw [SgmSink.tick_listening listening, sent_listened,
      SgmSink.processMessageQueue_accepted P w.listening w.outcomes s hresult hleftover,
      SgmSink.sent_receiveLoop, if_neg hleftover]
    rfl

end Tick

/-! ## Every step is a path of the channel -/

open Relation (ReflTransGen)

theorem run_eq (ready : Bool) (answers : SinkAnswers) (w : τ) :
    run dev ready answers itsBmeSensor w =
      match ClientSocket.construct answers with
      | .error what => ⟨[], some what⟩
      | .ok () => ⟨sendEach answers (measurements dev itsBmeSensor ready w) 0, none⟩ := rfl

variable {dev clientId itsBmeSensor} {s s' : State}

theorem channel_service {ready : Bool} {answers : SinkAnswers} {w : τ}
    (hs : (system dev clientId itsBmeSensor).step s (.service ready answers w) = some s') :
    Channel.Step (channel s) (channel s') := by
  obtain rfl := Option.some.inj hs
  rw [run_eq]
  cases ClientSocket.construct answers with
  | error what => exact Channel.Step.refuse (channel s) (measurements dev itsBmeSensor ready w)
  | ok connected =>
    have hkept : (packets (stream (sendEach answers (measurements dev itsBmeSensor ready w)
        0))).Sublist (measurements dev itsBmeSensor ready w) := by
      rw [packets_stream]
      exact sentWhole_sublist answers _ 0
    have hbacklog : (s.backlog ++
        [stream (sendEach answers (measurements dev itsBmeSensor ready w) 0)]).map packets =
          s.backlog.map packets ++
            [packets (stream (sendEach answers (measurements dev itsBmeSensor ready w) 0))] := by
      rw [List.map_append, List.map_singleton]
    have htake := Channel.Step.take (channel s) hkept
    dsimp only [channel] at htake ⊢
    rw [← hbacklog] at htake
    exact htake

theorem operatorLoop_eq_some {P : IMessageProtocol MqttProtocol} {s s' : SgmSink MqttProtocol}
    {w : SgmSink.TickWorld} (hs : (SgmSink.operatorLoop P).step s w = some s') :
    (SgmSink.ticks P).step s w = some s' ∧ SgmSink.tick P w s = s' := by
  have hticks : (SgmSink.ticks P).step s w = some s' := by
    simp only [SgmSink.operatorLoop] at hs
    split_ifs at hs
    exact hs
  exact ⟨hticks, (SgmSink.ticks_eq_some P hticks).2⟩

/-- What a tick does to the device. -/
theorem step_tick {status : NetworkStatus} {listening : Listening} {interruption : Option (ℕ × Int)}
    (hs : (system dev clientId itsBmeSensor).step s (.tick status listening interruption) =
      some s') :
    let w : SgmSink.TickWorld :=
      { status, listening, outcomes := cutShort interruption (s.backlog.headD []) }
    (takes s listening = true → s.backlog ≠ []) ∧
      (SgmSink.ticks (MqttProtocol.answered s.world)).step s.sink w = some s'.sink ∧
      s' = ticked s listening (SgmSink.tick (MqttProtocol.answered s.world) w s.sink) := by
  intro w
  simp only [system] at hs
  split at hs
  · cases hs
  · rename_i hwaits
    obtain ⟨sink, hsink, rfl⟩ := Option.map_eq_some_iff.1 hs
    obtain ⟨hticks, rfl⟩ := operatorLoop_eq_some hsink
    refine ⟨fun htakes hempty => hwaits ?_, hticks, rfl⟩
    rw [htakes, hempty]
    rfl

/-- What a tick does to the device in which the sink is killed. -/
theorem step_killed {status : NetworkStatus} {listening : Listening} {k : ℕ}
    {packet : SgmProcessData} {world : MqttProtocol.Answers}
    (hs : (system dev clientId itsBmeSensor).step s (.killed status listening k packet world) =
      some s') :
    let w : SgmSink.TickWorld := { status, listening, outcomes := (s.backlog.headD []).take k }
    (takes s listening = true → s.backlog ≠ []) ∧
      s' = restarted clientId
        (ticked s listening (SgmSink.tick (MqttProtocol.answered s.world) w s.sink)) packet
        world := by
  intro w
  simp only [system] at hs
  split_ifs at hs with hwaits hover
  obtain rfl := Option.some.inj hs
  refine ⟨fun htakes hempty => hwaits ?_, rfl⟩
  rw [htakes, hempty]
  rfl

/-- The packets that a tick hands to `publishMessage` when it takes a connection. -/
def handedOver (s : State) (listening : Listening) (outcomes : List RecvOutcome) :
    List SgmProcessData :=
  if listening.leftover = EAGAIN then []
  else SgmSink.reported (SgmSink.handedOn (MqttProtocol.answered s.world) (packets outcomes)
    s.sink.itsSinkProtocol)

theorem handedOver_sublist (s : State) (listening : Listening) (outcomes : List RecvOutcome) :
    (handedOver s listening outcomes).Sublist (packets outcomes) := by
  unfold handedOver
  split_ifs
  · exact List.nil_sublist _
  · exact SgmSink.reported_handedOn _ _

section Ticked

variable {w : SgmSink.TickWorld}

/-- A tick that takes a connection removes it from the backlog and delivers some of its packets. -/
theorem ticked_takes (waits : s.backlog ≠ []) (htakes : takes s w.listening = true)
    (hs : s' = ticked s w.listening (SgmSink.tick (MqttProtocol.answered s.world) w s.sink)) :
    ∃ first rest, s.backlog = first :: rest ∧ s'.backlog = rest ∧
      delivered s' = delivered s ++ handedOver s w.listening w.outcomes ∧
      s'.acquired = s.acquired := by
  subst hs
  obtain ⟨first, rest, hbacklog⟩ := List.exists_cons_of_ne_nil waits
  obtain ⟨hstate, haccepts⟩ := Bool.and_eq_true_iff.1 htakes
  have hsent := sent_tick_takes (P := MqttProtocol.answered s.world)
    (of_decide_eq_true hstate) haccepts
  refine ⟨first, rest, hbacklog, ?_, ?_, rfl⟩
  · change (if takes s w.listening = true then s.backlog.tail else s.backlog) = rest
    rw [if_pos htakes, hbacklog, List.tail_cons]
  · dsimp only [delivered, ticked]
    rw [hsent, SgmSink.reported_append, ← List.append_assoc, handedOver]
    split_ifs <;> rfl

theorem ticked_none (htakes : ¬ takes s w.listening = true)
    (hs : s' = ticked s w.listening (SgmSink.tick (MqttProtocol.answered s.world) w s.sink)) :
    s'.backlog = s.backlog ∧ delivered s' = delivered s ∧ s'.acquired = s.acquired := by
  subst hs
  have hnone : ¬ (s.sink.itsCurrentState = .listeningConnected ∧ accepts w.listening = true) := by
    simpa [takes] using htakes
  have hsent := sent_tick_none (P := MqttProtocol.answered s.world) hnone
  refine ⟨if_neg htakes, ?_, rfl⟩
  dsimp only [delivered, ticked]
  rw [hsent]

theorem channel_ticked (waits : takes s w.listening = true → s.backlog ≠ [])
    (received : (packets w.outcomes).Sublist (packets (s.backlog.headD [])))
    (hs : s' = ticked s w.listening (SgmSink.tick (MqttProtocol.answered s.world) w s.sink)) :
    ReflTransGen Channel.Step (channel s) (channel s') := by
  by_cases htakes : takes s w.listening = true
  · obtain ⟨first, rest, hbacklog, hbacklog', hdelivered, hacquired⟩ :=
      ticked_takes (waits htakes) htakes hs
    have hkept := (handedOver_sublist s w.listening w.outcomes).trans received
    rw [hbacklog, List.headD_cons] at hkept
    have hfirst : (channel s).inFlight = packets first :: rest.map packets := by
      rw [channel, hbacklog]
      rfl
    have hdeliver := Channel.Step.deliver (channel s) hfirst hkept
    have hafter : channel s' = { channel s with
        inFlight := rest.map packets
        delivered := delivered s ++ handedOver s w.listening w.outcomes } := by
      rw [channel, hbacklog', hdelivered, hacquired]
      rfl
    rw [hafter]
    exact ReflTransGen.single hdeliver
  · obtain ⟨hbacklog, hdelivered, hacquired⟩ := ticked_none htakes hs
    rw [channel, channel, hbacklog, hdelivered, hacquired]

end Ticked

/-- The packets before a kill are the first ones of the connection. -/
theorem packets_killed (k : ℕ) (outcomes : List RecvOutcome) :
    packets (outcomes.take k) = (packets outcomes).take k := by
  have hend : packets [] = [] := rfl
  have htake := packets_take k hend outcomes
  rwa [List.append_nil] at htake

theorem delivered_restarted (s : State) (packet : SgmProcessData) (world : MqttProtocol.Answers) :
    delivered (restarted clientId s packet world) = delivered s := List.append_nil _

theorem channel_restarted (s : State) (packet : SgmProcessData) (world : MqttProtocol.Answers) :
    channel (restarted clientId s packet world) = channel s := by
  rw [channel, delivered_restarted]
  rfl

theorem channel_step {a : Act τ} (hs : (system dev clientId itsBmeSensor).step s a = some s') :
    ReflTransGen Channel.Step (channel s) (channel s') := by
  cases a with
  | service ready answers w => exact ReflTransGen.single (channel_service hs)
  | tick status listening interruption =>
    obtain ⟨waits, -, hticked⟩ := step_tick hs
    exact channel_ticked waits (packets_cutShort interruption _) hticked
  | killed status listening k packet world =>
    obtain ⟨waits, rfl⟩ := step_killed hs
    rw [channel_restarted]
    refine channel_ticked waits ?_ rfl
    rw [packets_killed]
    exact List.take_sublist _ _
  | restart packet world =>
    obtain rfl := Option.some.inj hs
    rw [channel_restarted]

/-! ## Runs -/

/-- Whatever the services, the network and the ends of the processes, the device works as a lossy
channel from the sensors to `publishMessage`. -/
theorem refines (dev : ISensorDevice σ τ) (clientId : String) (itsBmeSensor : σ)
    (packet : SgmProcessData) (world : MqttProtocol.Answers) (acts : List (Act τ)) :
    ReflTransGen Channel.Step {}
      (channel ((system dev clientId itsBmeSensor).final (init clientId packet world) acts)) :=
  System.reaches_of_steps (I := fun _ => True) (s := init clientId packet world) channel
    (fun _ _ _ _ _ => trivial) (fun _ _ _ _ hs => channel_step hs) trivial acts

/-- The sink of the present process is faithful, and so were the earlier ones. -/
structure AllFaithful (clientId : String) (s : State) : Prop where
  present : SgmSink.Faithful clientId s.sink
  past : s.earlierContents.map some = s.earlier.map (MqttProtocol.publication clientId)

theorem AllFaithful.published (h : AllFaithful clientId s) :
    (publications s).map some = (delivered s).map (MqttProtocol.publication clientId) := by
  rw [publications, delivered, List.map_append, List.map_append, h.past, h.present.published]

theorem AllFaithful.ticked (h : AllFaithful clientId s) (w : SgmSink.TickWorld) :
    AllFaithful clientId
      (ticked s w.listening (SgmSink.tick (MqttProtocol.answered s.world) w s.sink)) :=
  ⟨h.present.tick w, h.past⟩

theorem AllFaithful.restarted (h : AllFaithful clientId s) (packet : SgmProcessData)
    (world : MqttProtocol.Answers) : AllFaithful clientId (restarted clientId s packet world) :=
  ⟨SgmSink.start_faithful clientId packet, h.published⟩

theorem AllFaithful.step {a : Act τ} (h : AllFaithful clientId s)
    (hs : (system dev clientId itsBmeSensor).step s a = some s') : AllFaithful clientId s' := by
  cases a with
  | service ready answers w =>
    obtain rfl := Option.some.inj hs
    exact ⟨h.present, h.past⟩
  | tick status listening interruption =>
    obtain ⟨-, -, rfl⟩ := step_tick hs
    exact h.ticked _
  | killed status listening k packet world =>
    obtain ⟨-, rfl⟩ := step_killed hs
    exact (h.ticked _).restarted packet world
  | restart packet world =>
    obtain rfl := Option.some.inj hs
    exact h.restarted packet world

/-- What holds of the device in every state of every run. -/
structure Invariant (clientId : String) (s : State) : Prop where
  faithful : AllFaithful clientId s
  inOrder : (channel s).InOrder

theorem Invariant.init (clientId : String) (packet : SgmProcessData)
    (world : MqttProtocol.Answers) : Invariant clientId (init clientId packet world) :=
  ⟨⟨SgmSink.start_faithful clientId packet, rfl⟩, Channel.inOrder_empty⟩

theorem Invariant.step {a : Act τ} (h : Invariant clientId s)
    (hs : (system dev clientId itsBmeSensor).step s a = some s') : Invariant clientId s' :=
  ⟨h.faithful.step hs, Channel.inOrder_of_reaches h.inOrder (channel_step hs)⟩

theorem always_invariant (dev : ISensorDevice σ τ) (clientId : String) (itsBmeSensor : σ)
    (packet : SgmProcessData) (world : MqttProtocol.Answers) (acts : List (Act τ)) :
    (system dev clientId itsBmeSensor).Always (init clientId packet world) acts
      (Invariant clientId) :=
  System.always_of_invariant (fun _ _ _ h hs => h.step hs) (.init clientId packet world) acts

/-- In every state of every run what was handed to `publishMessage` is what the delivered packets
are good for, and these were measured in this order, each measurement once. -/
theorem at_most_once (dev : ISensorDevice σ τ) (clientId : String) (itsBmeSensor : σ)
    (packet : SgmProcessData) (world : MqttProtocol.Answers) (acts : List (Act τ)) :
    (system dev clientId itsBmeSensor).Always (init clientId packet world) acts
      (AtMostOnce clientId) :=
  (always_invariant dev clientId itsBmeSensor packet world acts).mono fun _ h =>
    ⟨h.faithful.published, h.inOrder⟩

end Site

end SgmDevice
