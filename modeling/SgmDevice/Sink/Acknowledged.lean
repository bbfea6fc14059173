import SgmDevice.Sink.TopicAndPayload

/-!
# Messages reported as sent

`publishMessage` looks at what `MQTTClient_waitForCompletion` returned only, and takes every code
but one for a success; `sendMessage` does not look at the result at all.  A message that is reported
as sent was acknowledged exactly when it was not published or both codes are 0
(`acknowledged_iff`).
-/

namespace SgmDevice

open Sgm

namespace MqttProtocol

/-- The call published the topic and the payload of the packet, the topic as the C string that it
is for the library, and both library calls returned `MQTTCLIENT_SUCCESS`. -/
def Acknowledged (w : World) (data : SgmProcessData) (p : MqttProtocol) : Prop :=
  ∃ call, (sendMessage w data p).2.published = call :: p.published ∧
    call.topic = CStrings.c_str (topic data p) ∧ call.message = payload data p ∧
    call.publish = MQTTCLIENT_SUCCESS ∧ call.waitForCompletion = MQTTCLIENT_SUCCESS

/-- `sendMessage` comes to the call of `publishMessage`. -/
def Publishes (w : World) (data : SgmProcessData) (p : MqttProtocol) : Prop :=
  (findMapper data).isSome ∧ w.isClientConnected = true ∧ p.isNetworkReady = true

/-- What `sendMessage` returns does not depend on what the library returned. -/
theorem messageSent_iff (w : World) (data : SgmProcessData) (p : MqttProtocol) :
    (sendMessage w data p).1 = .messageSent ↔ Publishes w data p := by
  rw [(sendMessage_eq w data p).2]
  unfold Publishes
  cases findMapper data <;> cases w.isClientConnected <;> cases p.isNetworkReady <;> simp

/-- The one publication of a call. -/
theorem published_sendMessage {w : World} {data : SgmProcessData} {p : MqttProtocol}
    (h : Publishes w data p) :
    (sendMessage w data p).2.published =
      ⟨CStrings.c_str (topic data p), payload data p, w.publish, w.waitForCompletion⟩ ::
        p.published := by
  obtain ⟨hmapper, hconnected, hnetwork⟩ := h
  obtain ⟨hfound, hready, -⟩ := prepareTopic_eq data p
  rw [hmapper] at hfound
  rw [hnetwork] at hready
  have hkept : (prepareTopic data p).2.published = p.published := by
    unfold prepareTopic
    cases findMapper data <;> rfl
  have hmessage : payload data (prepareTopic data p).2 = payload data p := by
    rw [payload_eq, payload_eq]
  rw [← hmessage, ← hkept]
  simp [sendMessage, hfound, hconnected, hready, prepareMessage, publishMessage, topic, payload]

/-- A message reported as sent was acknowledged if and only if, in case the pair is known, the
client connected and the network ready, both library calls return `MQTTCLIENT_SUCCESS`. -/
theorem acknowledged_iff (w : World) (data : SgmProcessData) (p : MqttProtocol) :
    ((sendMessage w data p).1 = .messageSent → Acknowledged w data p) ↔
      (Publishes w data p →
        w.publish = MQTTCLIENT_SUCCESS ∧ w.waitForCompletion = MQTTCLIENT_SUCCESS) := by
  rw [messageSent_iff]
  refine forall_congr' fun hpublishes => ?_
  have hpublished := published_sendMessage hpublishes
  constructor
  · rintro ⟨call, hcall, -, -, hpublish, hwait⟩
    obtain rfl := (List.cons.inj (hpublished.symm.trans hcall)).1
    exact ⟨hpublish, hwait⟩
  · rintro ⟨hpublish, hwait⟩
    exact ⟨_, hpublished, rfl, rfl, hpublish, hwait⟩

/-- The client has lost the connection (-3), and the message counts as sent. -/
theorem lost_connection_counts_as_sent :
    ¬ ∀ w data p, (sendMessage w data p).1 = .messageSent → Acknowledged w data p := by
  intro h
  let w : World := { publish := -3, waitForCompletion := -3 }
  have hpublishes : Publishes w airPressure { isNetworkReady := true } :=
    ⟨by decide, rfl, rfl⟩
  obtain ⟨call, hcall, -, -, hpublish, -⟩ := h w airPressure { isNetworkReady := true }
    ((messageSent_iff _ _ _).2 hpublishes)
  obtain rfl := (List.cons.inj ((published_sendMessage hpublishes).symm.trans hcall)).1
  exact absurd hpublish (by decide)

end MqttProtocol

end SgmDevice
