import SgmDevice.Sink.PppConnection
import SgmDevice.Utils.CStrings
import SgmDevice.Utils.SgmDataType

/-!
# `MqttProtocol`

The message protocol of the sink: a packet with a known pair of measurement point and quantity is
published, if the client is connected and the network is ready.  What the MQTT library answers, and
which network status was reported last, is given for each call.
-/

namespace SgmDevice

open Sgm

namespace IMessageProtocol

inductive Result where
  | messageSent
  | noConnection
  | errorProtocol
  | errorSocket
  | inputDataInvalid
  | errorUnknown
  deriving DecidableEq, Repr

end IMessageProtocol

/-- `IMessageProtocol`: the methods of a protocol with states `τ`. -/
structure IMessageProtocol (τ : Type) where
  sendMessage : SgmProcessData → τ → IMessageProtocol.Result × τ
  connect : τ → Bool × τ
  disconnect : τ → Bool × τ
  yield : τ → τ

namespace MqttProtocol

def MQTTCLIENT_SUCCESS : Int := 0
def MQTTCLIENT_FAILURE : Int := -1

/-- `MqttClient::Result`, as far as `publishMessage` returns it. -/
inductive PublishResult where
  | publishSuccess
  | publishError
  deriving DecidableEq, Repr

/-- A call of `publishMessage`: what it handed to `MQTTClient_publish`, and what the library
returned. -/
structure Publish where
  topic : String
  message : List UInt8
  publish : Int
  waitForCompletion : Int
  deriving DecidableEq, Repr

end MqttProtocol

structure MqttProtocol where
  mqttClientId : String := ""
  isNetworkReady : Bool := false
  itsTopicBuffer : String := ""
  itsMesssageBuffer : List UInt8 := List.replicate 100 0
  measPointStringMap : StringMap := Sgm.measPointStringMap
  physicalStringMap : StringMap := Sgm.physicalStringMap
  /-- The flag that `MqttClient` keeps of its own. -/
  isConnected : Bool := false
  /-- The publications, the latest one first. -/
  published : List MqttProtocol.Publish := []
  /-- How often each method has been called. -/
  sends : ℕ := 0
  connects : ℕ := 0
  disconnects : ℕ := 0
  deriving DecidableEq, Repr

namespace MqttProtocol

/-- What the library answers in one call. -/
structure World where
  /-- `MQTTClient_isConnected`. -/
  isClientConnected : Bool := true
  connect : Int := 0
  publish : Int := 0
  waitForCompletion : Int := 0
  /-- The status that `onNetworkStatusChange` was last told before the call. -/
  networkStatus : NetworkStatus := .connected
  deriving DecidableEq, Repr

def onNetworkStatusChange (status : NetworkStatus) (p : MqttProtocol) : MqttProtocol :=
  match status with
  | .connected => { p with isNetworkReady := true }
  | _ => { p with isNetworkReady := false }

/-- The entry of `unitMap` that fits a packet. -/
def findMapper (data : SgmProcessData) : Option (MeasurementPoint × PhysQuantity) :=
  unitMap.find? fun unitMapper =>
    unitMapper.1.word = data.measPoint && unitMapper.2.word = data.physQuantityType

def prepareTopic (data : SgmProcessData) (p : MqttProtocol) : Bool × MqttProtocol :=
  let topic := "sgm/" ++ p.mqttClientId ++ "/"
  -- the log statement reads both tables with `operator[]`
  let p := { p with
    physicalStringMap := p.physicalStringMap.index data.physQuantityType
    measPointStringMap := p.measPointStringMap.index data.measPoint }
  match findMapper data with
  | some (point, quantity) =>
    (true, { p with
      itsTopicBuffer := topic ++ p.measPointStringMap.at_ point.word ++ "/" ++
        p.physicalStringMap.at_ quantity.word })
  | none => (false, { p with itsTopicBuffer := topic })

/-- `prepareMessage`: the size of the message that it puts into the buffer. -/
def prepareMessage (data : SgmProcessData) (p : MqttProtocol) : ℕ × MqttProtocol :=
  let message := data.value ++ data.divider ++ data.unit ++ data.timestamp
  (message.length,
    { p with itsMesssageBuffer := message ++ p.itsMesssageBuffer.drop message.length })

/-- `MqttClient::publishMessage`; the library takes the topic as a C string. -/
def publishMessage (w : World) (topic : String) (message : List UInt8) (p : MqttProtocol) :
    PublishResult × MqttProtocol :=
  (if w.waitForCompletion = MQTTCLIENT_FAILURE then .publishError else .publishSuccess,
    { p with published :=
      ⟨CStrings.c_str topic, message, w.publish, w.waitForCompletion⟩ :: p.published })

/-- `sendMessage`; the size of a message is never negative, and the result of `publishMessage` is
not looked at. -/
def sendMessage (w : World) (dataToSend : SgmProcessData) (p : MqttProtocol) :
    IMessageProtocol.Result × MqttProtocol :=
  let (isMapperFound, p) := prepareTopic dataToSend p
  if !isMapperFound then (.inputDataInvalid, p)
  else
    let (messageSize, p) := prepareMessage dataToSend p
    if !w.isClientConnected then (.noConnection, p)
    else if p.isNetworkReady then
      (.messageSent,
        (publishMessage w p.itsTopicBuffer (p.itsMesssageBuffer.take messageSize) p).2)
    else (.errorProtocol, p)

/-- `connect()`; the client does not try when its own flag says that it is connected. -/
def connect (w : World) (p : MqttProtocol) : Bool × MqttProtocol :=
  if p.isConnected then (w.isClientConnected, p)
  else if w.connect ≠ MQTTCLIENT_SUCCESS then (false, p)
  else (w.isClientConnected, { p with isConnected := true })

def disconnect (w : World) (p : MqttProtocol) : Bool × MqttProtocol :=
  (!w.isClientConnected, { p with isConnected := false })

/-- The protocol as the sink sees it; `w` answers the calls of each method in turn. -/
def protocol (w : ℕ → World) : IMessageProtocol MqttProtocol where
  sendMessage data p :=
    let p' := onNetworkStatusChange (w p.sends).networkStatus p
    sendMessage (w p.sends) data { p' with sends := p.sends + 1 }
  connect p := connect (w p.connects) { p with connects := p.connects + 1 }
  disconnect p := disconnect (w p.disconnects) { p with disconnects := p.disconnects + 1 }
  yield p := p

/-! ## What the methods return -/

theorem isNetworkReady_onNetworkStatusChange (status : NetworkStatus) (p : MqttProtocol) :
    (onNetworkStatusChange status p).isNetworkReady = decide (status = .connected) := by
  cases status <;> rfl

theorem prepareTopic_eq (data : SgmProcessData) (p : MqttProtocol) :
    (prepareTopic data p).1 = (findMapper data).isSome ∧
      (prepareTopic data p).2.isNetworkReady = p.isNetworkReady ∧
      (prepareTopic data p).2.sends = p.sends := by
  unfold prepareTopic
  cases findMapper data <;> exact ⟨rfl, rfl, rfl⟩

/-- What `sendMessage` returns, for each of its tests in turn. -/
theorem sendMessage_eq (w : World) (data : SgmProcessData) (p : MqttProtocol) :
    (sendMessage w data p).2.sends = p.sends ∧
      (sendMessage w data p).1 =
        if (findMapper data).isNone then .inputDataInvalid
        else if w.isClientConnected then
          if p.isNetworkReady then .messageSent else .errorProtocol
        else .noConnection := by
  obtain ⟨hfound, hready, hsends⟩ := prepareTopic_eq data p
  rw [← hready, ← hsends]
  unfold sendMessage
  cases hmapper : findMapper data with
  | none =>
    rw [hmapper] at hfound
    simp [hfound]
  | some mapper =>
    rw [hmapper] at hfound
    cases hconnected : w.isClientConnected with
    | false => simp [hfound, prepareMessage]
    | true =>
      cases hnetwork : (prepareTopic data p).2.isNetworkReady <;>
        simp [hfound, hnetwork, prepareMessage, publishMessage]

/-- One call through the interface: it is counted, and it finds the network as last reported. -/
theorem protocol_sendMessage (w : ℕ → World) (packet : SgmProcessData) (p : MqttProtocol) :
    ((protocol w).sendMessage packet p).2.sends = p.sends + 1 ∧
      ((protocol w).sendMessage packet p).1 =
        if (findMapper packet).isNone then .inputDataInvalid
        else if (w p.sends).isClientConnected then
          if (w p.sends).networkStatus = .connected then .messageSent else .errorProtocol
        else .noConnection := by
  obtain ⟨hsends, hresult⟩ := sendMessage_eq (w p.sends) packet
    { onNetworkStatusChange (w p.sends).networkStatus p with sends := p.sends + 1 }
  refine ⟨hsends, hresult.trans ?_⟩
  rw [isNetworkReady_onNetworkStatusChange]
  simp only [decide_eq_true_eq]

end MqttProtocol

end SgmDevice
