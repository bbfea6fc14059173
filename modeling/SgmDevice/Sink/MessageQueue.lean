import SgmDevice.Sink.SgmSink

/-!
# The packets of one connection

What `processMessageQueue` hands on is said without its buffers: the packets of the full datagrams
that come first, one call each, up to the first one that finds no connection (`handedOn`,
`sent_processMessageQueue`).  A packet that could not be sent for another reason is passed over
(`none_passed_over_iff`).
-/

namespace SgmDevice

open Sgm

namespace SgmSink

/-! ## Datagrams -/

/-- A datagram that holds a packet. -/
abbrev FullDatagram := { bytes : List UInt8 // sizeofSgmProcessData ≤ bytes.length }

/-- The first `sizeof(SgmProcessData)` bytes of the datagram. -/
def FullDatagram.packet (d : FullDatagram) : SgmProcessData :=
  ⟨(d.1.take sizeofSgmProcessData).toArray, by simp [d.2]⟩

/-- The full datagrams before the first outcome of another kind. -/
def leadingDatagrams : List RecvOutcome → List FullDatagram
  | .datagram bytes :: outcomes =>
    if h : sizeofSgmProcessData ≤ bytes.length then ⟨bytes, h⟩ :: leadingDatagrams outcomes else []
  | _ => []

variable {τ : Type} (P : IMessageProtocol τ)

/-- The calls of `sendMessage` for some packets: one for each, up to the first `NO_CONNECTION`. -/
def handedOn : List SgmProcessData → τ → List (SgmProcessData × IMessageProtocol.Result)
  | [], _ => []
  | packet :: packets, t =>
    (packet, (P.sendMessage packet t).1) ::
      if (P.sendMessage packet t).1 = .noConnection then []
      else handedOn packets (P.sendMessage packet t).2

/-! ## The receive loop -/

/-- Nothing of the earlier buffer gets into the packet. -/
theorem translate_recv (d : FullDatagram) (rxBuffer : Vector UInt8 sizeofRxBuffer) :
    SinkSocket.translateByteStreamToStructure (SinkSocket.recv d.1 rxBuffer).2 = d.packet := by
  apply Vector.ext
  intro i hi
  have hlength : i < d.1.length := Nat.lt_of_lt_of_le hi d.2
  simp [SinkSocket.translateByteStreamToStructure, SinkSocket.recv, FullDatagram.packet, hlength]

/-- A full datagram is read into the packet object, whatever was there before. -/
theorem receive_full (d : FullDatagram) (s : SgmSink τ) :
    ∃ rxSize socket, (sizeofSgmProcessData : Int) ≤ rxSize ∧
      s.receive (.datagram d.1) =
        (rxSize, { s with itsSinkSocket := socket, itsSgmDataPacket := d.packet }) := by
  have hlength : 32 ≤ d.1.length := d.2
  have hsize : (sizeofSgmProcessData : Int) ≤ (SinkSocket.recv d.1 s.itsSinkSocket.rxBuffer).1 := by
    show (32 : Int) ≤ min (d.1.length : Int) 64
    omega
  have hne : (SinkSocket.recv d.1 s.itsSinkSocket.rxBuffer).1 ≠ 0 := by
    rintro hzero
    rw [hzero] at hsize
    exact absurd hsize (by decide)
  refine ⟨_, { s.itsSinkSocket with
    rxBuffer := (SinkSocket.recv d.1 s.itsSinkSocket.rxBuffer).2 }, hsize, ?_⟩
  simp only [receive, SinkSocket.receive, if_neg hne, translate_recv]

/-- The size of a datagram, cut off at the end of the buffer. -/
theorem receive_size (bytes : List UInt8) (s : SgmSink τ) :
    (s.receive (.datagram bytes)).1 = min (bytes.length : Int) sizeofRxBuffer := by
  by_cases hempty : (SinkSocket.recv bytes s.itsSinkSocket.rxBuffer).1 = 0
  · simp only [receive, SinkSocket.receive, if_pos hempty]
    exact hempty.symm
  · simp only [receive, SinkSocket.receive, if_neg hempty]
    rfl

theorem receive_error (errno : Int) (s : SgmSink τ) :
    (s.receive (.error errno)).1 = EAGAIN ∨ (s.receive (.error errno)).1 = 0 := by
  by_cases hagain : errno = EAGAIN ∨ errno = EWOULDBLOCK
  · simp only [receive, SinkSocket.receive, if_pos hagain]
    tauto
  · simp only [receive, SinkSocket.receive, if_neg hagain]
    tauto

/-- Any other outcome ends the loop before the next call. -/
theorem receive_other {outcome : RecvOutcome} (h : ∀ bytes, outcome = .datagram bytes →
    bytes.length < sizeofSgmProcessData) (s : SgmSink τ) :
    (s.receive outcome).2.sent = s.sent ∧
      ((s.receive outcome).1 = EAGAIN ∨ (s.receive outcome).1 = EWOULDBLOCK ∨
        (s.receive outcome).1 = 0 ∨ (s.receive outcome).1 < sizeofSgmProcessData) := by
  refine ⟨rfl, ?_⟩
  cases outcome with
  | error errno =>
    rcases receive_error errno s with hagain | hzero
    · exact .inl hagain
    · exact .inr (.inr (.inl hzero))
  | datagram bytes =>
    have hshort : bytes.length < 32 := h bytes rfl
    rw [receive_size]
    right; right; right
    show min (bytes.length : Int) 64 < 32
    omega

theorem not_stop_of_full {rxSize : Int} (h : (sizeofSgmProcessData : Int) ≤ rxSize) :
    ¬ (rxSize = EAGAIN ∨ rxSize = EWOULDBLOCK ∨ rxSize = 0) := by
  have hsize : (32 : Int) ≤ rxSize := h
  rintro (rfl | rfl | rfl) <;> exact absurd hsize (by decide)

/-- One turn of the loop for a full datagram. -/
theorem receiveLoop_full (d : FullDatagram) (outcomes : List RecvOutcome) (s : SgmSink τ) :
    ∃ s' : SgmSink τ,
      s'.sent = s.sent ++ [(d.packet, (P.sendMessage d.packet s.itsSinkProtocol).1)] ∧
      s'.itsSinkProtocol = (P.sendMessage d.packet s.itsSinkProtocol).2 ∧
      s'.itsSinkSocket.descriptors = s.itsSinkSocket.descriptors ∧
      receiveLoop P (.datagram d.1 :: outcomes) s =
        if (P.sendMessage d.packet s.itsSinkProtocol).1 = .noConnection then
          (.sendingException, s')
        else receiveLoop P outcomes s' := by
  obtain ⟨rxSize, socket, hsize, hreceive⟩ := receive_full d s
  refine ⟨(sendMessage P (s.receive (.datagram d.1)).2).2, ?_, ?_, ?_, ?_⟩
  · rw [hreceive]
    rfl
  · rw [hreceive]
    rfl
  · exact s.itsSinkSocket.receive_descriptors (.datagram d.1) s.itsSgmDataPacket
  · rw [receiveLoop, hreceive]
    simp only [if_neg (not_stop_of_full hsize), if_neg (not_lt.2 hsize), sendMessage]
    cases (P.sendMessage d.packet s.itsSinkProtocol).1 <;> rfl

/-- Any other outcome ends the loop without a call. -/
theorem receiveLoop_other {outcome : RecvOutcome} (h : ∀ bytes, outcome = .datagram bytes →
    bytes.length < sizeofSgmProcessData) (outcomes : List RecvOutcome) (s : SgmSink τ) :
    (receiveLoop P (outcome :: outcomes) s).2.sent = s.sent ∧
      (receiveLoop P (outcome :: outcomes) s).1 ≠ .sendingException := by
  obtain ⟨hsent, hstop⟩ := receive_other h s
  rw [receiveLoop]
  by_cases hend : (s.receive outcome).1 = EAGAIN ∨ (s.receive outcome).1 = EWOULDBLOCK ∨
      (s.receive outcome).1 = 0
  · simp only [if_pos hend]
    exact ⟨hsent, by decide⟩
  · have hshort : (s.receive outcome).1 < sizeofSgmProcessData := by tauto
    simp only [if_neg hend, if_pos hshort]
    exact ⟨hsent, by simp⟩

/-- The outcomes that are no full datagram are the ones that end the leading datagrams. -/
theorem full_or_other (outcome : RecvOutcome) :
    (∃ d : FullDatagram, outcome = .datagram d.1) ∨
      ∀ bytes, outcome = .datagram bytes → bytes.length < sizeofSgmProcessData := by
  by_cases hfull : ∃ d : FullDatagram, outcome = .datagram d.1
  · exact Or.inl hfull
  · right
    rintro bytes rfl
    by_contra hlong
    exact hfull ⟨⟨bytes, not_lt.1 hlong⟩, rfl⟩

theorem leadingDatagrams_full (d : FullDatagram) (outcomes : List RecvOutcome) :
    leadingDatagrams (.datagram d.1 :: outcomes) = d :: leadingDatagrams outcomes := by
  rw [leadingDatagrams, dif_pos d.2]

theorem leadingDatagrams_other {outcome : RecvOutcome} (h : ∀ bytes, outcome = .datagram bytes →
    bytes.length < sizeofSgmProcessData) (outcomes : List RecvOutcome) :
    leadingDatagrams (outcome :: outcomes) = [] := by
  cases outcome with
  | error errno => rfl
  | datagram bytes => exact dif_neg (not_le.2 (h bytes rfl))

theorem sent_receiveLoop (outcomes : List RecvOutcome) (s : SgmSink τ) :
    (receiveLoop P outcomes s).2.sent = s.sent ++
      handedOn P ((leadingDatagrams outcomes).map FullDatagram.packet) s.itsSinkProtocol := by
  induction outcomes generalizing s with
  | nil => simp [receiveLoop, leadingDatagrams, handedOn]
  | cons outcome outcomes ih =>
    rcases full_or_other outcome with ⟨d, rfl⟩ | hother
    · obtain ⟨s', hsent, hprotocol, -, hloop⟩ := receiveLoop_full P d outcomes s
      rw [hloop, leadingDatagrams_full, List.map_cons, handedOn]
      split
      · exact hsent
      · rw [ih, hsent, hprotocol, List.append_assoc]
        rfl
    · rw [(receiveLoop_other P hother outcomes s).1, leadingDatagrams_other hother]
      simp [handedOn]

/-- The loop leaves by the exception exactly when a packet finds no connection. -/
theorem exit_receiveLoop (outcomes : List RecvOutcome) (s : SgmSink τ) :
    (receiveLoop P outcomes s).1 = .sendingException ↔
      ∃ call ∈ handedOn P ((leadingDatagrams outcomes).map FullDatagram.packet) s.itsSinkProtocol,
        call.2 = .noConnection := by
  induction outcomes generalizing s with
  | nil => simp [receiveLoop, leadingDatagrams, handedOn]
  | cons outcome outcomes ih =>
    rcases full_or_other outcome with ⟨d, rfl⟩ | hother
    · obtain ⟨s', -, hprotocol, -, hloop⟩ := receiveLoop_full P d outcomes s
      rw [hloop, leadingDatagrams_full, List.map_cons, handedOn]
      split
      · rename_i hlost
        simp [hlost]
      · rename_i hgo
        rw [ih, hprotocol]
        simp [hgo]
    · have hexit := (receiveLoop_other P hother outcomes s).2
      rw [leadingDatagrams_other hother]
      simp [handedOn, hexit]

/-- On an accepted connection `processMessageQueue` is its receive loop. -/
theorem processMessageQueue_accepted (l : Listening) (outcomes : List RecvOutcome) (s : SgmSink τ)
    {rc : Int} (accepted : (s.itsSinkSocket.connect l).1 = .ok rc) (hrc : rc ≠ EAGAIN) :
    processMessageQueue P l outcomes s =
      receiveLoop P outcomes { s with
        itsSinkSocket := (s.itsSinkSocket.connect l).2
        listenIterationsCount := 0 } := by
  have hgo : ¬ (EWOULDBLOCK = rc ∨ EAGAIN = rc) := fun h => hrc (h.elim Eq.symm Eq.symm)
  have hconnect : s.itsSinkSocket.connect l = (.ok rc, (s.itsSinkSocket.connect l).2) :=
    Prod.ext accepted rfl
  rw [processMessageQueue, hconnect]
  exact if_neg hgo

/-- An accepted connection whose result is not mistaken gets into the loop. -/
theorem processMessageQueue_entered {l : Listening} (listens : SinkSocket.Listens l)
    {accepted : ℕ} (haccept : l.accept = .ok accepted) (hleftover : l.leftover ≠ EAGAIN)
    (outcomes : List RecvOutcome) (s : SgmSink τ) :
    processMessageQueue P l outcomes s = receiveLoop P outcomes { s with
      itsSinkSocket := (s.itsSinkSocket.connect l).2
      listenIterationsCount := 0 } := by
  obtain ⟨fd, hresult, -⟩ := SinkSocket.connect_accepted listens haccept s.itsSinkSocket
  exact processMessageQueue_accepted P l outcomes s hresult hleftover

/-- Without a connection, or with one whose result is mistaken, nothing is received. -/
theorem processMessageQueue_again {l : Listening} (outcomes : List RecvOutcome) {s : SgmSink τ}
    (h : (s.itsSinkSocket.connect l).1 = .ok EAGAIN) :
    processMessageQueue P l outcomes s =
      (.returned, { s with itsSinkSocket := (s.itsSinkSocket.connect l).2 }) := by
  have hconnect : s.itsSinkSocket.connect l = (.ok EAGAIN, (s.itsSinkSocket.connect l).2) :=
    Prod.ext h rfl
  rw [processMessageQueue, hconnect]
  exact if_pos (Or.inr rfl)

theorem processMessageQueue_thrown {l : Listening} (outcomes : List RecvOutcome) {s : SgmSink τ}
    {what : String} (h : (s.itsSinkSocket.connect l).1 = .error what) :
    processMessageQueue P l outcomes s =
      (.runtimeError what, { s with itsSinkSocket := (s.itsSinkSocket.connect l).2 }) := by
  have hconnect : s.itsSinkSocket.connect l = (.error what, (s.itsSinkSocket.connect l).2) :=
    Prod.ext h rfl
  rw [processMessageQueue, hconnect]

/-- On an accepted connection the packets of the leading full datagrams are handed on, in order and
once each, up to the first that finds no connection. -/
theorem sent_processMessageQueue (l : Listening) (outcomes : List RecvOutcome) (s : SgmSink τ)
    (listens : SinkSocket.Listens l) (haccept : ∃ accepted, l.accept = .ok accepted)
    (hleftover : l.leftover ≠ EAGAIN) :
    (processMessageQueue P l outcomes s).2.sent = s.sent ++
      handedOn P ((leadingDatagrams outcomes).map FullDatagram.packet) s.itsSinkProtocol := by
  obtain ⟨accepted, haccept⟩ := haccept
  rw [processMessageQueue_entered P listens haccept hleftover, sent_receiveLoop]

/-- The temperature of the air. -/
def airTemperature : FullDatagram :=
  ⟨[0, 0, 0, 0, 1, 0, 0, 0, 1, 0, 0, 0] ++ List.replicate 20 0, by decide⟩

def listeningSink : SgmSink MqttProtocol where
  itsCurrentState := .listeningConnected
  itsSinkProtocol := {}
  itsSgmDataPacket := Vector.replicate _ 0

theorem sent_airTemperature :
    (processMessageQueue (MqttProtocol.protocol fun _ => {}) {}
      [.datagram airTemperature.1, .datagram [7], .datagram airTemperature.1]
      listeningSink).2.sent = [(airTemperature.packet, .messageSent)] :=
  (sent_processMessageQueue (MqttProtocol.protocol fun _ => {}) {} _ listeningSink ⟨3, rfl⟩ ⟨4, rfl⟩
    (by decide)).trans rfl

/-! ## What the loop keeps -/

/-- What every call in the loop keeps, the loop keeps. -/
theorem receiveLoop_induction {J : SgmSink τ → Prop}
    (receives : ∀ outcome s, J s → J (s.receive outcome).2)
    (sends : ∀ s, J s → J (s.sendMessage P).2)
    (ends : ∀ s, J s → J { s with
      itsSinkSocket := s.itsSinkSocket.disconnect
      itsSinkProtocol := P.yield s.itsSinkProtocol })
    (outcomes : List RecvOutcome) {s : SgmSink τ} (h : J s) : J (receiveLoop P outcomes s).2 := by
  induction outcomes generalizing s with
  | nil => exact h
  | cons outcome outcomes ih =>
    have hreceived := receives outcome s h
    have hsent := sends _ hreceived
    rw [receiveLoop]
    dsimp only
    split_ifs
    · exact ends _ hreceived
    · exact hreceived
    · cases hresult : ((s.receive outcome).2.sendMessage P).1 with
      | noConnection => exact hsent
      | _ => exact ih hsent

/-- The loop touches neither the state nor the counter. -/
theorem receiveLoop_keeps (outcomes : List RecvOutcome) (s : SgmSink τ) :
    (receiveLoop P outcomes s).2.itsCurrentState = s.itsCurrentState ∧
      (receiveLoop P outcomes s).2.listenIterationsCount = s.listenIterationsCount := by
  let J : SgmSink τ → Prop := fun s' =>
    s'.itsCurrentState = s.itsCurrentState ∧
      s'.listenIterationsCount = s.listenIterationsCount
  have hstart : J s := ⟨rfl, rfl⟩
  exact receiveLoop_induction P (J := J) (fun _ _ h => h) (fun _ h => h) (fun _ h => h) outcomes
    hstart

theorem processMessageQueue_state (l : Listening) (outcomes : List RecvOutcome) (s : SgmSink τ) :
    (processMessageQueue P l outcomes s).2.itsCurrentState = s.itsCurrentState := by
  unfold processMessageQueue
  split
  · rfl
  · split_ifs
    · rfl
    · exact (receiveLoop_keeps P outcomes _).1

/-! ## Packets that could not be sent -/

/-- A result that says neither that the packet was sent nor that it was no packet to send. -/
def Unsent (result : IMessageProtocol.Result) : Prop :=
  result ≠ .messageSent ∧ result ≠ .inputDataInvalid

/-- A packet that could not be sent is the last one, and the loop leaves by the exception; `tick()`
then disconnects and starts again. -/
structure NonePassedOver (w : TickWorld) (s : SgmSink τ) : Prop where
  leaves : ∀ before call after,
    (processMessageQueue P w.listening w.outcomes s).2.sent = s.sent ++ (before ++ call :: after) →
    Unsent call.2 →
    after = [] ∧ (processMessageQueue P w.listening w.outcomes s).1 = .sendingException
  reconnects : (processMessageQueue P w.listening w.outcomes s).1 = .sendingException →
    (tick P w s).itsCurrentState = .noConnection ∧
      (tick P w s).itsSinkProtocol =
        (P.disconnect (processMessageQueue P w.listening w.outcomes s).2.itsSinkProtocol).2

/-- A call without connection is the last one. -/
theorem noConnection_last (packets : List SgmProcessData) (t : τ)
    {before after : List (SgmProcessData × IMessageProtocol.Result)}
    {call : SgmProcessData × IMessageProtocol.Result}
    (h : handedOn P packets t = before ++ call :: after) (hcall : call.2 = .noConnection) :
    after = [] := by
  induction packets generalizing t before with
  | nil => simp [handedOn] at h
  | cons packet packets ih =>
    rw [handedOn] at h
    cases before with
    | nil =>
      obtain ⟨rfl, hrest⟩ := List.cons.inj h
      rw [if_pos hcall] at hrest
      exact hrest.symm
    | cons first before =>
      obtain ⟨-, hrest⟩ := List.cons.inj h
      split at hrest
      · simp at hrest
      · exact ih _ hrest

/-- The exception of `processMessageQueue` makes `tick()` disconnect and start again. -/
theorem tick_sendingException {w : TickWorld} {s : SgmSink τ}
    (listening : s.itsCurrentState = .listeningConnected)
    (h : (processMessageQueue P w.listening w.outcomes s).1 = .sendingException) :
    (tick P w s).itsCurrentState = .noConnection ∧
      (tick P w s).itsSinkProtocol =
        (P.disconnect (processMessageQueue P w.listening w.outcomes s).2.itsSinkProtocol).2 := by
  have hqueue : processMessageQueue P w.listening w.outcomes s =
      (.sendingException, (processMessageQueue P w.listening w.outcomes s).2) := Prod.ext h rfl
  rw [tick_listening listening, hqueue]
  exact ⟨rfl, rfl⟩

/-- The sink stays in `LISTENING_CONNECTED`, or it disconnects and starts again. -/
theorem tick_listening_cases {w : TickWorld} {s : SgmSink τ}
    (h : s.itsCurrentState = .listeningConnected) :
    (tick P w s).itsCurrentState = .listeningConnected ∨
      (tick P w s).itsCurrentState = .noConnection ∧
        (tick P w s).itsSinkProtocol =
          (P.disconnect (processMessageQueue P w.listening w.outcomes s).2.itsSinkProtocol).2 := by
  have hstate := processMessageQueue_state P w.listening w.outcomes s
  rw [tick_listening h]
  rcases hqueue : processMessageQueue P w.listening w.outcomes s with ⟨exit, s'⟩
  rw [hqueue] at hstate
  cases exit with
  | sendingException => exact Or.inr ⟨rfl, rfl⟩
  | returned => exact Or.inl (hstate.trans h)
  | runtimeError what => exact Or.inl (hstate.trans h)
  | receiving => exact Or.inl (hstate.trans h)

/-- Where nothing is received, no packet is passed over. -/
theorem nonePassedOver_of_leftover {w : TickWorld} {s : SgmSink τ}
    (listens : SinkSocket.Listens w.listening) {accepted : ℕ}
    (haccept : w.listening.accept = .ok accepted) (hleftover : w.listening.leftover = EAGAIN) :
    NonePassedOver P w s := by
  obtain ⟨fd, hresult, -⟩ := SinkSocket.connect_accepted listens haccept s.itsSinkSocket
  rw [hleftover] at hresult
  have hqueue := processMessageQueue_again P w.outcomes hresult
  refine ⟨fun before call after hsent _ => ?_, fun hthrown => ?_⟩
  · rw [hqueue] at hsent
    simp at hsent
  · rw [hqueue] at hthrown
    cases hthrown

/-- No packet is passed over if and only if a missing connection is all that keeps packets from
being sent. -/
theorem nonePassedOver_iff (w : TickWorld) (s : SgmSink τ)
    (listening : s.itsCurrentState = .listeningConnected)
    (listens : SinkSocket.Listens w.listening) {accepted : ℕ}
    (haccept : w.listening.accept = .ok accepted) (hleftover : w.listening.leftover ≠ EAGAIN) :
    NonePassedOver P w s ↔
      ∀ call ∈ handedOn P ((leadingDatagrams w.outcomes).map FullDatagram.packet)
        s.itsSinkProtocol, Unsent call.2 → call.2 = .noConnection := by
  have hentered := processMessageQueue_entered P listens haccept hleftover w.outcomes s
  have hsent : (processMessageQueue P w.listening w.outcomes s).2.sent = s.sent ++
      handedOn P ((leadingDatagrams w.outcomes).map FullDatagram.packet) s.itsSinkProtocol := by
    rw [hentered, sent_receiveLoop]
  have hexit : (processMessageQueue P w.listening w.outcomes s).1 = .sendingException ↔
      ∃ call ∈ handedOn P ((leadingDatagrams w.outcomes).map FullDatagram.packet)
        s.itsSinkProtocol, call.2 = .noConnection := by
    rw [hentered]
    exact exit_receiveLoop P w.outcomes _
  constructor
  · intro h call hcall hunsent
    obtain ⟨before, after, hsplit⟩ := List.append_of_mem hcall
    obtain ⟨rfl, hthrown⟩ := h.leaves before call after (by rw [hsent, hsplit]) hunsent
    -- the call without connection is the last one, and so it is this one
    obtain ⟨lost, hlost, hresult⟩ := hexit.1 hthrown
    obtain ⟨before', after', hsplit'⟩ := List.append_of_mem hlost
    obtain rfl := noConnection_last P _ _ hsplit' hresult
    obtain ⟨-, hsame⟩ := List.append_inj' (hsplit.symm.trans hsplit') rfl
    rw [(List.cons.inj hsame).1]
    exact hresult
  · intro h
    refine ⟨fun before call after heq hunsent => ?_, tick_sendingException P listening⟩
    rw [hsent] at heq
    have hsplit := List.append_cancel_left heq
    have hcall : call ∈ handedOn P ((leadingDatagrams w.outcomes).map FullDatagram.packet)
        s.itsSinkProtocol := by
      rw [hsplit]
      simp
    have hresult := h call hcall hunsent
    exact ⟨noConnection_last P _ _ hsplit hresult, hexit.2 ⟨call, hcall, hresult⟩⟩

end SgmSink

namespace MqttProtocol

open SgmSink

/-- From the `n`-th call on: when a packet with a known pair finds the client connected, it finds
the network ready; a packet that finds it not connected is the last one. -/
def ReadyWhenConnected (w : ℕ → World) : ℕ → List SgmProcessData → Prop
  | _, [] => True
  | n, packet :: packets =>
    if (findMapper packet).isNone then ReadyWhenConnected w (n + 1) packets
    else if (w n).isClientConnected then
      (w n).networkStatus = .connected ∧ ReadyWhenConnected w (n + 1) packets
    else True

theorem readyWhenConnected_iff (w : ℕ → World) (packets : List SgmProcessData)
    (p : MqttProtocol) :
    (∀ call ∈ handedOn (protocol w) packets p, Unsent call.2 → call.2 = .noConnection) ↔
      ReadyWhenConnected w p.sends packets := by
  induction packets generalizing p with
  | nil => simp [handedOn, ReadyWhenConnected]
  | cons packet packets ih =>
    obtain ⟨hsends, hresult⟩ := protocol_sendMessage w packet p
    have hrest := ih ((protocol w).sendMessage packet p).2
    rw [hsends] at hrest
    rw [handedOn, List.forall_mem_cons, hresult, ReadyWhenConnected]
    -- one case for each of the four results
    by_cases hmapper : (findMapper packet).isNone
    · simp only [if_pos hmapper]
      rw [if_neg (by decide), hrest]
      exact and_iff_right fun hunsent => absurd rfl hunsent.2
    by_cases hconnected : (w p.sends).isClientConnected
    · by_cases hnetwork : (w p.sends).networkStatus = .connected
      · simp only [if_neg hmapper, if_pos hconnected, if_pos hnetwork]
        rw [if_neg (by decide), hrest, and_iff_right hnetwork]
        exact and_iff_right fun hunsent => absurd rfl hunsent.1
      · simp only [if_neg hmapper, if_pos hconnected, if_neg hnetwork]
        have hpassed : ¬ (Unsent .errorProtocol →
            IMessageProtocol.Result.errorProtocol = .noConnection) := by
          intro h
          exact absurd (h ⟨by decide, by decide⟩) (by decide)
        exact iff_of_false (fun h => hpassed h.1) fun h => hnetwork h.1
    · simp only [if_neg hmapper, if_neg hconnected]
      simp

/-- No packet is passed over if and only if `connect()` leaves `EAGAIN` behind, so that none is
received, or the packets that find the client connected find the network ready. -/
theorem none_passed_over_iff (w : ℕ → World) (tw : TickWorld) (s : SgmSink MqttProtocol)
    (listening : s.itsCurrentState = .listeningConnected)
    (listens : SinkSocket.Listens tw.listening)
    (haccept : ∃ accepted, tw.listening.accept = .ok accepted) :
    NonePassedOver (protocol w) tw s ↔
      tw.listening.leftover = EAGAIN ∨
        ReadyWhenConnected w s.itsSinkProtocol.sends
          ((leadingDatagrams tw.outcomes).map FullDatagram.packet) := by
  obtain ⟨accepted, haccept⟩ := haccept
  by_cases hleftover : tw.listening.leftover = EAGAIN
  · exact iff_of_true (nonePassedOver_of_leftover _ listens haccept hleftover) (Or.inl hleftover)
  · rw [or_iff_right hleftover,
      nonePassedOver_iff (protocol w) tw s listening listens haccept hleftover,
      readyWhenConnected_iff]

theorem none_passed_over_airTemperature :
    NonePassedOver (protocol fun _ => {}) { outcomes := [.datagram airTemperature.1] }
      listeningSink :=
  (none_passed_over_iff (fun _ => {}) _ listeningSink rfl ⟨3, rfl⟩ ⟨4, rfl⟩).2
    (Or.inr ⟨rfl, trivial⟩)

/-- While the network is away and the client still connected, a packet is lost, and the loop goes on
to the next one. -/
theorem unready_passed_over :
    ¬ NonePassedOver (protocol fun _ => { networkStatus := .disconnected })
      { outcomes := [.datagram airTemperature.1, .datagram airTemperature.1] } listeningSink := by
  intro h
  have hafter := (h.leaves [] (airTemperature.packet, .errorProtocol)
    [(airTemperature.packet, .errorProtocol)] rfl ⟨by decide, by decide⟩).1
  exact absurd hafter (by simp)

end MqttProtocol

end SgmDevice
