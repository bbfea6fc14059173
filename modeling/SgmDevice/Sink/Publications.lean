import SgmDevice.Sink.AcceptedSocket
import SgmDevice.Sink.Acknowledged

/-!
# What the sink publishes

Over any run of ticks the publications are, in order, those of the packets that `sendMessage`
reported as sent: one for each of them, with the topic and the payload of its packet
(`Faithful.step`).
-/

namespace SgmDevice

open Sgm Concurrency

namespace MqttProtocol

/-- What the library answers to the calls of each method in turn. -/
structure Answers where
  sends : ℕ → World := fun _ => {}
  connects : ℕ → World := fun _ => {}
  disconnects : ℕ → World := fun _ => {}

/-- The protocol as the sink sees it, where the methods are answered apart from one another. -/
def answered (a : Answers) : IMessageProtocol MqttProtocol where
  sendMessage := (protocol a.sends).sendMessage
  connect := (protocol a.connects).connect
  disconnect := (protocol a.disconnects).disconnect
  yield p := p

/-- What a publication tells. -/
def Publish.content (call : Publish) : String × List UInt8 := (call.topic, call.message)

/-- The publication that a packet is good for, if its pair is known. -/
def publication (clientId : String) (data : SgmProcessData) : Option (String × List UInt8) :=
  (findMapper data).map fun pair =>
    (CStrings.c_str
        ("sgm/" ++ clientId ++ "/" ++ pointName pair.1 ++ "/" ++ quantityName pair.2),
      data.value ++ data.divider ++ data.unit ++ data.timestamp)

/-- The contents of the publications, the first one first. -/
def contents (p : MqttProtocol) : List (String × List UInt8) :=
  p.published.reverse.map Publish.content

theorem NamesKept.congr {clientId : String} {p p' : MqttProtocol} (h : NamesKept clientId p)
    (hclient : p'.mqttClientId = p.mqttClientId)
    (hpoints : p'.measPointStringMap = p.measPointStringMap)
    (hquantities : p'.physicalStringMap = p.physicalStringMap) : NamesKept clientId p' where
  client := hclient.trans h.client
  points := by
    rw [hpoints]
    exact h.points
  quantities := by
    rw [hquantities]
    exact h.quantities

/-- What a call through the interface finds. -/
def entered (w : ℕ → World) (p : MqttProtocol) : MqttProtocol :=
  { onNetworkStatusChange (w p.sends).networkStatus p with sends := p.sends + 1 }

theorem entered_published (w : ℕ → World) (p : MqttProtocol) :
    (entered w p).published = p.published := by
  unfold entered
  cases (w p.sends).networkStatus <;> rfl

theorem contents_entered (w : ℕ → World) (p : MqttProtocol) :
    contents (entered w p) = contents p := by
  rw [contents, entered_published, contents]

theorem NamesKept.entered {clientId : String} {p : MqttProtocol} (h : NamesKept clientId p)
    (w : ℕ → World) : NamesKept clientId (entered w p) := by
  apply h.congr <;> unfold MqttProtocol.entered <;> cases (w p.sends).networkStatus <;> rfl

theorem prepareTopic_published (data : SgmProcessData) (p : MqttProtocol) :
    (prepareTopic data p).2.published = p.published := by
  unfold prepareTopic
  cases findMapper data <;> rfl

/-- A packet that is not reported as sent is not published. -/
theorem published_of_not_sent {w : World} {data : SgmProcessData} {p : MqttProtocol}
    (h : (sendMessage w data p).1 ≠ .messageSent) :
    (sendMessage w data p).2.published = p.published := by
  rw [← prepareTopic_published data p]
  unfold sendMessage at h ⊢
  cases hfound : (prepareTopic data p).1 <;> cases hconnected : w.isClientConnected <;>
    cases hready : (prepareTopic data p).2.isNetworkReady <;>
    simp [hfound, hready, hconnected, prepareMessage] at h ⊢

/-- A packet that is reported as sent is published once. -/
theorem contents_of_sent {clientId : String} {w : World} {data : SgmProcessData} {p : MqttProtocol}
    (h : NamesKept clientId p) (sent : (sendMessage w data p).1 = .messageSent) :
    (contents (sendMessage w data p).2).map some =
      (contents p).map some ++ [publication clientId data] := by
  have hpublishes := (messageSent_iff w data p).1 sent
  obtain ⟨pair, hpair⟩ := Option.isSome_iff_exists.1 hpublishes.1
  have hpublication : publication clientId data =
      some (CStrings.c_str (topic data p), payload data p) := by
    rw [publication, hpair, Option.map_some, topic_eq h hpair, payload_eq]
  rw [contents, published_sendMessage hpublishes, hpublication]
  simp [contents, Publish.content]

end MqttProtocol

namespace SgmSink

open MqttProtocol

/-- The packets that `sendMessage` reported as sent. -/
def reported (calls : List (SgmProcessData × IMessageProtocol.Result)) : List SgmProcessData :=
  (calls.filter fun call => call.2 = .messageSent).map Prod.fst

theorem reported_append (calls calls' : List (SgmProcessData × IMessageProtocol.Result)) :
    reported (calls ++ calls') = reported calls ++ reported calls' := by
  simp [reported]

/-- The packets that are reported as sent are some of those that are handed on. -/
theorem reported_handedOn {τ : Type} {P : IMessageProtocol τ} (packets : List SgmProcessData)
    (t : τ) : (reported (handedOn P packets t)).Sublist packets := by
  induction packets generalizing t with
  | nil => exact List.Sublist.refl []
  | cons packet packets ih =>
    have hrest := ih (P.sendMessage packet t).2
    rw [handedOn, ← List.singleton_append, reported_append,
      ← List.singleton_append (l := packets)]
    apply List.Sublist.append
    · by_cases hsent : (P.sendMessage packet t).1 = .messageSent <;> simp [reported, hsent]
    · split_ifs
      · exact List.nil_sublist _
      · exact hrest

/-- The publications are those of the packets that were reported as sent. -/
structure Faithful (clientId : String) (s : SgmSink MqttProtocol) : Prop where
  names : NamesKept clientId s.itsSinkProtocol
  published : (contents s.itsSinkProtocol).map some =
    (reported s.sent).map (publication clientId)

variable {clientId : String} {a : Answers} {s : SgmSink MqttProtocol}

theorem Faithful.congr {s' : SgmSink MqttProtocol} (h : Faithful clientId s)
    (hnames : NamesKept clientId s'.itsSinkProtocol)
    (hpublished : s'.itsSinkProtocol.published = s.itsSinkProtocol.published)
    (hsent : s'.sent = s.sent) : Faithful clientId s' where
  names := hnames
  published := by
    rw [contents, hpublished, hsent]
    exact h.published

theorem Faithful.sendMessage (h : Faithful clientId s) :
    Faithful clientId (sendMessage (answered a) s).2 := by
  let world := a.sends s.itsSinkProtocol.sends
  let found := entered a.sends s.itsSinkProtocol
  let result := (MqttProtocol.sendMessage world s.itsSgmDataPacket found).1
  let p := (MqttProtocol.sendMessage world s.itsSgmDataPacket found).2
  have hnames : NamesKept clientId p :=
    (h.names.entered a.sends).sendMessage world s.itsSgmDataPacket
  have hpublished : (contents p).map some =
      (reported (s.sent ++ [(s.itsSgmDataPacket, result)])).map (publication clientId) := by
    rw [reported_append, List.map_append, ← h.published]
    by_cases hresult : result = .messageSent
    · have hreported : reported [(s.itsSgmDataPacket, result)] = [s.itsSgmDataPacket] := by
        simp [reported, hresult]
      rw [contents_of_sent (h.names.entered a.sends) hresult, contents_entered, hreported]
      rfl
    · have hreported : reported [(s.itsSgmDataPacket, result)] = [] := by
        simp [reported, hresult]
      have hkept : contents p = contents (entered a.sends s.itsSinkProtocol) := by
        rw [contents, published_of_not_sent hresult, contents]
      rw [hkept, contents_entered, hreported, List.map_nil, List.append_nil]
  exact ⟨hnames, hpublished⟩

theorem Faithful.processMessageQueue (h : Faithful clientId s) (l : Listening)
    (outcomes : List RecvOutcome) :
    Faithful clientId (processMessageQueue (answered a) l outcomes s).2 := by
  have hsocket : ∀ socket count, Faithful clientId
      { s with itsSinkSocket := socket, listenIterationsCount := count } := fun socket count =>
    h.congr h.names rfl rfl
  unfold SgmSink.processMessageQueue
  split
  · exact hsocket _ _
  · split_ifs
    · exact hsocket _ _
    · exact receiveLoop_induction (answered a) (J := Faithful clientId)
        (fun _ _ h => h.congr h.names rfl rfl) (fun _ h => h.sendMessage)
        (fun _ h => h.congr h.names rfl rfl) outcomes (hsocket _ _)

theorem Faithful.connect (h : Faithful clientId s) :
    NamesKept clientId ((answered a).connect s.itsSinkProtocol).2 ∧
      ((answered a).connect s.itsSinkProtocol).2.published = s.itsSinkProtocol.published := by
  dsimp only [answered, protocol, MqttProtocol.connect]
  split_ifs <;> exact ⟨h.names.congr rfl rfl rfl, rfl⟩

theorem Faithful.listened {exit : Exit} (h : Faithful clientId s) :
    Faithful clientId (listened (answered a) (exit, s)) := by
  cases exit with
  | sendingException => exact h.congr (h.names.congr rfl rfl rfl) rfl rfl
  | returned => exact h.congr h.names rfl rfl
  | runtimeError what => exact h
  | receiving => exact h

theorem Faithful.tick (h : Faithful clientId s) (tw : TickWorld) :
    Faithful clientId (tick (answered a) tw s) := by
  cases hstate : s.itsCurrentState with
  | noConnection =>
    rw [tick_noConnection hstate]
    split_ifs
    · exact h.congr h.names rfl rfl
    · exact h
  | connected =>
    obtain ⟨hnames, hpublished⟩ := h.connect (a := a)
    rw [tick_connected hstate]
    split_ifs <;> exact h.congr hnames hpublished rfl
  | listeningConnected =>
    rw [tick_listening hstate]
    exact (h.processMessageQueue tw.listening tw.outcomes).listened
  | listeningDisconnected =>
    rw [tick_listeningDisconnected hstate]
    exact h.congr h.names rfl rfl

theorem Faithful.step {s' : SgmSink MqttProtocol} {tw : TickWorld} (h : Faithful clientId s)
    (hs : (ticks (answered a)).step s tw = some s') : Faithful clientId s' := by
  obtain ⟨-, rfl⟩ := ticks_eq_some (answered a) hs
  exact h.tick tw

/-- A sink that has just been constructed. -/
def start (clientId : String) (packet : SgmProcessData) : SgmSink MqttProtocol where
  itsSinkProtocol := { mqttClientId := clientId }
  itsSgmDataPacket := packet

theorem start_faithful (clientId : String) (packet : SgmProcessData) :
    Faithful clientId (start clientId packet) :=
  ⟨⟨rfl, fun _ _ => rfl, fun _ _ => rfl⟩, rfl⟩

end SgmSink

end SgmDevice
