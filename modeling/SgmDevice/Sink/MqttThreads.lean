import SgmDevice.Concurrency.Atomicity
import SgmDevice.Sink.MqttLink
import SgmDevice.Sink.Publications

/-!
# The threads of a `MqttProtocol`

The thread of the sink calls the methods of the protocol, and the thread that monitors the power
reports the status of the network to it; so does the sink itself, where it connects.
`itsEventMutex` guards `isNetworkReady` and the publications, and nothing else.  A step is one
statement, and so is the return behind it.  All the same the calls act as if each of them ran alone,
in the order in which they take effect, which is where they give the mutex back (`calls_atomic`), so
that the sink may take the protocol for an `IMessageProtocol` (`calls_served`).
-/

namespace SgmDevice

open Sgm Concurrency

namespace MqttThreads

open MqttProtocol (World Publish PublishResult MQTTCLIENT_SUCCESS)

/-! ## The methods, statement by statement -/

inductive Op where
  | prepareTopic (data : SgmProcessData)
  | prepareMessage (data : SgmProcessData)
  /-- `itsEventMutex`. -/
  | lock
  | unlock
  | isClientConnected
  | isNetworkReady
  | setNetworkReady (b : Bool)
  | publishMessage (messageSize : ℕ)
  /-- The flag of `MqttClient`. -/
  | isConnected
  | setConnected (b : Bool)
  | MQTTClient_connect
  | MQTTClient_disconnect
  | MQTTClient_yield
  /-- Control goes back to the caller of a method. -/
  | returns
  deriving DecidableEq

@[reducible] def Op.Res : Op → Type
  | .prepareTopic _ | .isClientConnected | .isNetworkReady | .isConnected => Bool
  | .prepareMessage _ => ℕ
  | .publishMessage _ => PublishResult
  | .MQTTClient_connect => Int
  | _ => Unit

abbrev stmt (o : Op) : Program Op Op.Res o.Res := Program.perform o

def sendMessage (dataToSend : SgmProcessData) : Program Op Op.Res IMessageProtocol.Result := do
  let isMapperFound ← stmt (.prepareTopic dataToSend)
  if !isMapperFound then return .inputDataInvalid
  else do
    let messageSize ← stmt (.prepareMessage dataToSend)
    stmt .lock
    let isClientConnected ← stmt .isClientConnected
    if !isClientConnected then do
      stmt .unlock
      return .noConnection
    else do
      let isNetworkReady ← stmt .isNetworkReady
      if isNetworkReady then do
        let _ ← stmt (.publishMessage messageSize)
        stmt .unlock
        return .messageSent
      else do
        stmt .unlock
        return .errorProtocol

/-- `MqttClient::connect`. -/
def clientConnect : Program Op Op.Res MqttLink.ConnectResult := do
  let isConnected ← stmt .isConnected
  if isConnected then return .connected
  else do
    let rc ← stmt .MQTTClient_connect
    if rc ≠ MQTTCLIENT_SUCCESS then return .connectionError
    else do
      stmt (.setConnected true)
      return .connected

def connect : Program Op Op.Res Bool := do
  let result ← clientConnect
  if result = .connectionError then return false
  else stmt .isClientConnected

def disconnect : Program Op Op.Res Bool := do
  stmt .MQTTClient_disconnect
  stmt (.setConnected false)
  let isClientConnected ← stmt .isClientConnected
  return !isClientConnected

def yield : Program Op Op.Res Unit := stmt .MQTTClient_yield

def onNetworkStatusChange (status : NetworkStatus) : Program Op Op.Res Unit := do
  stmt .lock
  match status with
  | .connected => stmt (.setNetworkReady true)
  | _ => stmt (.setNetworkReady false)
  stmt .unlock

/-! ## The threads -/

inductive Call where
  | sendMessage (dataToSend : SgmProcessData)
  | connect
  | disconnect
  | yield
  | onNetworkStatusChange (status : NetworkStatus)
  deriving DecidableEq

@[reducible] def Call.Res : Call → Type
  | .sendMessage _ => IMessageProtocol.Result
  | .connect | .disconnect => Bool
  | .yield | .onNetworkStatusChange _ => Unit

def Call.method : (call : Call) → Program Op Op.Res call.Res
  | .sendMessage dataToSend => MqttThreads.sendMessage dataToSend
  | .connect => MqttThreads.connect
  | .disconnect => MqttThreads.disconnect
  | .yield => MqttThreads.yield
  | .onNetworkStatusChange status => MqttThreads.onNetworkStatusChange status

inductive Thread where
  | sink
  | monitor
  deriving DecidableEq, Repr

/-- What a thread may be asked to do. -/
@[reducible] def Thread.Ask : Thread → Type
  | .sink => Call
  | .monitor => NetworkStatus

def Thread.call : (t : Thread) → t.Ask → Call
  | .sink, call => call
  | .monitor, status => .onNetworkStatusChange status

/-- A call and what it returns. -/
abbrev Returned := Σ call : Call, call.Res

/-- A call; its `return` is a step of its own, before which the other thread may go on. -/
def Call.code (call : Call) : Program Op Op.Res (Option Returned) := do
  let res ← call.method
  stmt .returns
  return some ⟨call, res⟩

/-- What a statement does to the data; `w` is what the library answers. -/
def Op.exec (w : World) : (o : Op) → MqttProtocol → o.Res × MqttProtocol
  | .prepareTopic data, p => MqttProtocol.prepareTopic data p
  | .prepareMessage data, p => MqttProtocol.prepareMessage data p
  | .isClientConnected, p => (w.isClientConnected, p)
  | .isNetworkReady, p => (p.isNetworkReady, p)
  | .setNetworkReady b, p => ((), { p with isNetworkReady := b })
  | .publishMessage messageSize, p =>
    MqttProtocol.publishMessage w p.itsTopicBuffer (p.itsMesssageBuffer.take messageSize) p
  | .isConnected, p => (p.isConnected, p)
  | .setConnected b, p => ((), { p with isConnected := b })
  | .MQTTClient_connect, p => (w.connect, p)
  | .lock, p | .unlock, p | .MQTTClient_disconnect, p | .MQTTClient_yield, p | .returns, p =>
    ((), p)

def Op.mutexUse : Op → MutexUse Unit
  | .lock => .take ()
  | .unlock => .give ()
  | _ => .keep

structure Shared where
  data : MqttProtocol
  owner : Unit → Option Thread

def threads :
    Threads Thread Op Op.Res Shared World (fun _ => Option Returned) Thread.Ask Empty where
  exec t o w s := (o.mutexUse.exec s.owner t).map fun owner =>
    ((o.exec w s.data).1, ⟨(o.exec w s.data).2, owner⟩)
  entry t _ d := some (t.call d).code
  env e _ := e.elim

abbrev Config := Threads.Config Op Op.Res Shared fun _ : Thread => Option Returned

abbrev Act := Threads.Act World Thread.Ask Empty

/-- The protocol has been constructed. -/
def init (mqttClientId : String) : Config :=
  ⟨⟨{ mqttClientId }, fun _ => none⟩, fun _ => .ret none⟩

/-- Behind its other statements a method has nothing left but to return. -/
def silent : (o : Op) → Option o.Res
  | .returns => some ()
  | _ => none

/-- The calls that have taken effect in a run, each with its result, in the order in which they did
so. -/
def tookEffect (path : List (Taken Config Act)) : List Returned :=
  (effects silent path).filterMap Sigma.snd

/-! ## The same methods, each of them in one step -/

def Call.run : (call : Call) → World → MqttProtocol → call.Res × MqttProtocol
  | .sendMessage dataToSend, w, p => MqttProtocol.sendMessage w dataToSend p
  | .connect, w, p => MqttProtocol.connect w p
  | .disconnect, w, p => MqttProtocol.disconnect w p
  | .yield, _, p => ((), p)
  | .onNetworkStatusChange status, _, p => ((), MqttProtocol.onNetworkStatusChange status p)

/-- The calls of a log, one after the other, each with the result that it had. -/
def Sequential : List Returned → MqttProtocol → MqttProtocol → Prop
  | [], p, p' => p' = p
  | ⟨call, res⟩ :: log, p, p' =>
    ∃ w, (call.run w p).1 = res ∧ Sequential log (call.run w p).2 p'

end MqttThreads

end SgmDevice
