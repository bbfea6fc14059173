import SgmDevice.Sink.MqttProtocol
import SgmDevice.Sink.SinkSocket

/-!
# `SgmSink`

The sink takes packets from its socket and hands them to a message protocol.  `processMessageQueue`
runs on a list of what `recv` finds; where the list ends, the sink waits in `recv`.
-/

namespace SgmDevice

open Sgm

namespace SgmSink

inductive SinkState where
  | noConnection
  | connected
  | listeningConnected
  | listeningDisconnected
  deriving DecidableEq, Repr

/-- How `processMessageQueue` ends. -/
inductive Exit where
  | returned
  | sendingException
  | runtimeError (what : String)
  /-- It has not ended yet. -/
  | receiving
  deriving DecidableEq, Repr

end SgmSink

structure SgmSink (τ : Type) where
  listenIterationsCount : ℕ := 0
  itsCurrentState : SgmSink.SinkState := .noConnection
  itsSinkProtocol : τ
  itsSgmDataPacket : SgmProcessData
  itsSinkSocket : SinkSocket := {}
  /-- The calls of `sendMessage` with their results, the first one first. -/
  sent : List (SgmProcessData × IMessageProtocol.Result) := []

namespace SgmSink

variable {τ : Type} (P : IMessageProtocol τ)

/-- `itsSinkSocket.receive(& itsSgmDataPacket)`. -/
def receive (outcome : RecvOutcome) (s : SgmSink τ) : Int × SgmSink τ :=
  let (rxSize, socket, packet) := s.itsSinkSocket.receive outcome s.itsSgmDataPacket
  (rxSize, { s with itsSinkSocket := socket, itsSgmDataPacket := packet })

/-- `itsSinkProtocol.sendMessage(itsSgmDataPacket)`. -/
def sendMessage (s : SgmSink τ) : IMessageProtocol.Result × SgmSink τ :=
  let (result, protocol) := P.sendMessage s.itsSgmDataPacket s.itsSinkProtocol
  (result, { s with
    itsSinkProtocol := protocol
    sent := s.sent ++ [(s.itsSgmDataPacket, result)] })

/-- The `while (true)` loop of `processMessageQueue`. -/
def receiveLoop : List RecvOutcome → SgmSink τ → Exit × SgmSink τ
  | [], s => (.receiving, s)
  | outcome :: outcomes, s =>
    let (rxSize, s) := s.receive outcome
    if rxSize = EAGAIN ∨ rxSize = EWOULDBLOCK ∨ rxSize = 0 then
      (.returned, { s with
        itsSinkSocket := s.itsSinkSocket.disconnect
        itsSinkProtocol := P.yield s.itsSinkProtocol })
    else if rxSize < sizeofSgmProcessData then
      (.runtimeError "Bad packet received : size mismatch", s)
    else
      let (sendingResult, s) := s.sendMessage P
      match sendingResult with
      | .messageSent => receiveLoop outcomes s
      | .inputDataInvalid => receiveLoop outcomes s
      | .noConnection => (.sendingException, s)
      -- "Unhandled return code - ignoring"
      | _ => receiveLoop outcomes s

def processMessageQueue (l : Listening) (outcomes : List RecvOutcome) (s : SgmSink τ) :
    Exit × SgmSink τ :=
  match s.itsSinkSocket.connect l with
  | (.error what, socket) => (.runtimeError what, { s with itsSinkSocket := socket })
  | (.ok rc, socket) =>
    let s := { s with itsSinkSocket := socket }
    if EWOULDBLOCK = rc ∨ EAGAIN = rc then (.returned, s)
    else receiveLoop P outcomes { s with listenIterationsCount := 0 }

/-- What the network and the system answer to one `tick()`. -/
structure TickWorld where
  /-- What `itsPppConnection.connect()` returns. -/
  status : NetworkStatus := .connected
  listening : Listening := {}
  outcomes : List RecvOutcome := []

/-- One `tick()`; inside an unfinished `processMessageQueue` it stays where it is. -/
def tick (w : TickWorld) (s : SgmSink τ) : SgmSink τ :=
  match s.itsCurrentState with
  | .noConnection =>
    if w.status = .connected then { s with itsCurrentState := .connected } else s
  | .connected =>
    let (isConnected, protocol) := P.connect s.itsSinkProtocol
    let s := { s with itsSinkProtocol := protocol }
    if !isConnected then s
    else { s with listenIterationsCount := 0, itsCurrentState := .listeningConnected }
  | .listeningConnected =>
    match processMessageQueue P w.listening w.outcomes s with
    | (.returned, s) => { s with listenIterationsCount := s.listenIterationsCount + 1 }
    | (.sendingException, s) =>
      { s with
        itsSinkProtocol := (P.disconnect s.itsSinkProtocol).2
        listenIterationsCount := 0
        itsCurrentState := .noConnection }
    | (.runtimeError _, s) => s
    | (.receiving, s) => s
  | .listeningDisconnected => { s with listenIterationsCount := s.listenIterationsCount + 1 }

/-! ## The tick in each state -/

section Tick

variable {P} {s : SgmSink τ} {w : TickWorld}

theorem tick_noConnection (h : s.itsCurrentState = .noConnection) :
    tick P w s = if w.status = .connected then { s with itsCurrentState := .connected } else s := by
  unfold tick
  rw [h]

theorem tick_connected (h : s.itsCurrentState = .connected) :
    tick P w s =
      if (P.connect s.itsSinkProtocol).1 then
        { s with
          itsSinkProtocol := (P.connect s.itsSinkProtocol).2
          listenIterationsCount := 0
          itsCurrentState := .listeningConnected }
      else { s with itsSinkProtocol := (P.connect s.itsSinkProtocol).2 } := by
  unfold tick
  rw [h]
  rcases P.connect s.itsSinkProtocol with ⟨isConnected, protocol⟩
  cases isConnected <;> rfl

/-- The tick, behind `processMessageQueue`. -/
def listened (P : IMessageProtocol τ) : Exit × SgmSink τ → SgmSink τ
  | (.returned, s) => { s with listenIterationsCount := s.listenIterationsCount + 1 }
  | (.sendingException, s) =>
    { s with
      itsSinkProtocol := (P.disconnect s.itsSinkProtocol).2
      listenIterationsCount := 0
      itsCurrentState := .noConnection }
  | (.runtimeError _, s) => s
  | (.receiving, s) => s

theorem tick_listening (h : s.itsCurrentState = .listeningConnected) :
    tick P w s = listened P (processMessageQueue P w.listening w.outcomes s) := by
  unfold tick
  rw [h]
  rfl

theorem tick_listeningDisconnected (h : s.itsCurrentState = .listeningDisconnected) :
    tick P w s = { s with listenIterationsCount := s.listenIterationsCount + 1 } := by
  unfold tick
  rw [h]

end Tick

end SgmSink

end SgmDevice
