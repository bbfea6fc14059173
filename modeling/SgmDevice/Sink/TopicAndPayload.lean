import SgmDevice.Sink.MqttProtocol

/-!
# Topics and payloads

`prepareTopic` puts the names of the measurement point and of the quantity behind the client id,
which may hold slashes of its own; `prepareMessage` packs four fields without separators.  The names
hold no slash and differ, and the fields have fixed lengths, so topic and payload together tell the
client and the measurement (`topic_payload_identify`).
-/

namespace SgmDevice

open Sgm

/-- The last separator splits a list in one way only. -/
theorem append_sep_inj {α : Type} {sep : α} {xs ys as bs : List α} (has : sep ∉ as)
    (hbs : sep ∉ bs) (h : xs ++ sep :: as = ys ++ sep :: bs) : xs = ys ∧ as = bs := by
  rcases List.append_eq_append_iff.1 h with ⟨c, rfl, hc⟩ | ⟨c, rfl, hc⟩
  · cases c with
    | nil => exact ⟨by simp, (List.cons.inj hc).2⟩
    | cons x c =>
      have htail := (List.cons.inj hc).2
      exact absurd (by rw [htail]; simp) has
  · cases c with
    | nil => exact ⟨by simp, (List.cons.inj hc).2.symm⟩
    | cons x c =>
      have htail := (List.cons.inj hc).2
      exact absurd (by rw [htail]; simp) hbs

/-- The same for strings and the slash. -/
theorem append_slash_inj {s t a b : String} (ha : '/' ∉ a.toList) (hb : '/' ∉ b.toList)
    (h : s ++ "/" ++ a = t ++ "/" ++ b) : s = t ∧ a = b := by
  have hslash : "/".toList = ['/'] := rfl
  have hlists : s.toList ++ '/' :: a.toList = t.toList ++ '/' :: b.toList := by
    simpa [String.toList_append, hslash] using congrArg String.toList h
  obtain ⟨hfront, hback⟩ := append_sep_inj ha hb hlists
  exact ⟨String.toList_inj.1 hfront, String.toList_inj.1 hback⟩

namespace MqttProtocol

/-- The topic that `prepareTopic` leaves in its buffer. -/
def topic (data : SgmProcessData) (p : MqttProtocol) : String :=
  (prepareTopic data p).2.itsTopicBuffer

/-- The first `messageSize` bytes of the message buffer. -/
def payload (data : SgmProcessData) (p : MqttProtocol) : List UInt8 :=
  (prepareMessage data p).2.itsMesssageBuffer.take (prepareMessage data p).1

/-- The protocol of a client after some earlier packets. -/
def after (clientId : String) (w : ℕ → World) (earlier : List SgmProcessData) : MqttProtocol :=
  earlier.foldl (fun p packet => ((protocol w).sendMessage packet p).2) { mqttClientId := clientId }

/-! ## The name tables -/

/-- The tables still hold the names they began with, and the client is `clientId`. -/
structure NamesKept (clientId : String) (p : MqttProtocol) : Prop where
  client : p.mqttClientId = clientId
  points : ∀ key, (Sgm.measPointStringMap.lookup key).isSome →
    p.measPointStringMap.lookup key = Sgm.measPointStringMap.lookup key
  quantities : ∀ key, (Sgm.physicalStringMap.lookup key).isSome →
    p.physicalStringMap.lookup key = Sgm.physicalStringMap.lookup key

theorem NamesKept.prepareTopic {clientId : String} {p : MqttProtocol} (h : NamesKept clientId p)
    (data : SgmProcessData) : NamesKept clientId (prepareTopic data p).2 := by
  have hkept : NamesKept clientId { p with
      physicalStringMap := p.physicalStringMap.index data.physQuantityType
      measPointStringMap := p.measPointStringMap.index data.measPoint } := by
    refine ⟨h.client, fun key hkey => ?_, fun key hkey => ?_⟩
    · rw [StringMap.lookup_index (by rw [h.points key hkey]; exact hkey), h.points key hkey]
    · rw [StringMap.lookup_index (by rw [h.quantities key hkey]; exact hkey),
        h.quantities key hkey]
  unfold MqttProtocol.prepareTopic
  cases findMapper data <;> exact ⟨hkept.client, hkept.points, hkept.quantities⟩

/-- Behind `prepareTopic`, `sendMessage` leaves the client and the tables alone. -/
theorem sendMessage_names (w : World) (data : SgmProcessData) (p : MqttProtocol) :
    (sendMessage w data p).2.mqttClientId = (prepareTopic data p).2.mqttClientId ∧
      (sendMessage w data p).2.measPointStringMap = (prepareTopic data p).2.measPointStringMap ∧
      (sendMessage w data p).2.physicalStringMap = (prepareTopic data p).2.physicalStringMap := by
  unfold sendMessage
  cases hfound : (prepareTopic data p).1 <;> cases hconnected : w.isClientConnected <;>
    cases hready : (prepareTopic data p).2.isNetworkReady <;>
    simp [hfound, hready, prepareMessage, publishMessage]

theorem NamesKept.sendMessage {clientId : String} {p : MqttProtocol} (h : NamesKept clientId p)
    (w : World) (data : SgmProcessData) : NamesKept clientId (sendMessage w data p).2 := by
  obtain ⟨hclient, hpoints, hquantities⟩ := sendMessage_names w data p
  have hkept := h.prepareTopic data
  refine ⟨hclient.trans hkept.client, ?_, ?_⟩
  · rw [hpoints]
    exact hkept.points
  · rw [hquantities]
    exact hkept.quantities

theorem after_namesKept (clientId : String) (w : ℕ → World) (earlier : List SgmProcessData) :
    NamesKept clientId (after clientId w earlier) := by
  have keeps : ∀ p, NamesKept clientId p → NamesKept clientId
      (earlier.foldl (fun p packet => ((protocol w).sendMessage packet p).2) p) := by
    induction earlier with
    | nil => exact fun p h => h
    | cons packet earlier ih =>
      intro p h
      refine ih _ (NamesKept.sendMessage ⟨?_, ?_, ?_⟩ _ packet)
      all_goals
        cases hstatus : (w p.sends).networkStatus <;> simp only [onNetworkStatusChange]
      all_goals first | exact h.client | exact h.points | exact h.quantities
  exact keeps _ ⟨rfl, fun _ _ => rfl, fun _ _ => rfl⟩

/-! ## What a topic and a payload tell -/

/-- The name of a measured point, without the separator. -/
def pointName (point : MeasurementPoint) : String := Sgm.measPointStringMap.at_ point.word

def quantityName (quantity : PhysQuantity) : String := Sgm.physicalStringMap.at_ quantity.word

theorem mem_unitMap_of_findMapper {data : SgmProcessData} {pair : MeasurementPoint × PhysQuantity}
    (h : findMapper data = some pair) :
    pair ∈ unitMap ∧ pair.1.word = data.measPoint ∧ pair.2.word = data.physQuantityType := by
  refine ⟨List.mem_of_find?_eq_some h, ?_⟩
  have hfits := List.find?_some h
  simpa using hfits

/-- The names of the measured pairs differ, and no name holds a slash. -/
theorem names_inj : ∀ pair ∈ unitMap, ∀ pair' ∈ unitMap,
    (pointName pair.1 = pointName pair'.1 → pair.1 = pair'.1) ∧
      (quantityName pair.2 = quantityName pair'.2 → pair.2 = pair'.2) := by
  decide

theorem no_slash : ∀ pair ∈ unitMap,
    '/' ∉ (pointName pair.1).toList ∧ '/' ∉ (quantityName pair.2).toList := by
  decide

/-- The names of the measured pairs stand in the tables from the beginning. -/
theorem named : ∀ pair ∈ unitMap, (Sgm.measPointStringMap.lookup pair.1.word).isSome ∧
    (Sgm.physicalStringMap.lookup pair.2.word).isSome := by
  decide

theorem topic_eq {clientId : String} {p : MqttProtocol} (h : NamesKept clientId p)
    {data : SgmProcessData} {pair : MeasurementPoint × PhysQuantity}
    (hpair : findMapper data = some pair) :
    topic data p =
      "sgm/" ++ clientId ++ "/" ++ pointName pair.1 ++ "/" ++ quantityName pair.2 := by
  obtain ⟨hpoint, hquantity⟩ := named pair (mem_unitMap_of_findMapper hpair).1
  have hname : (p.measPointStringMap.index data.measPoint).at_ pair.1.word =
      pointName pair.1 := by
    have hkept := h.points pair.1.word hpoint
    rw [StringMap.at_, StringMap.lookup_index (by rw [hkept]; exact hpoint), hkept]
    rfl
  have hname' : (p.physicalStringMap.index data.physQuantityType).at_ pair.2.word =
      quantityName pair.2 := by
    have hkept := h.quantities pair.2.word hquantity
    rw [StringMap.at_, StringMap.lookup_index (by rw [hkept]; exact hquantity), hkept]
    rfl
  unfold topic prepareTopic
  simp only [hpair, hname, hname', h.client]

/-- Topics of two measured pairs are equal only for one client and one pair. -/
theorem topic_inj {c c' : String} {pair pair' : MeasurementPoint × PhysQuantity}
    (hmem : pair ∈ unitMap) (hmem' : pair' ∈ unitMap)
    (h : "sgm/" ++ c ++ "/" ++ pointName pair.1 ++ "/" ++ quantityName pair.2 =
      "sgm/" ++ c' ++ "/" ++ pointName pair'.1 ++ "/" ++ quantityName pair'.2) :
    c = c' ∧ pair = pair' := by
  obtain ⟨hpoint, hquantity⟩ := no_slash pair hmem
  obtain ⟨hpoint', hquantity'⟩ := no_slash pair' hmem'
  obtain ⟨hsame, hsame'⟩ := names_inj pair hmem pair' hmem'
  obtain ⟨hfront, hlast⟩ := append_slash_inj hquantity hquantity' h
  obtain ⟨hclient, hmiddle⟩ := append_slash_inj hpoint hpoint' hfront
  have hcancel : c.toList = c'.toList := by
    simpa [String.toList_append] using congrArg String.toList hclient
  exact ⟨String.toList_inj.1 hcancel, Prod.ext (hsame hmiddle) (hsame' hlast)⟩

theorem payload_eq (data : SgmProcessData) (p : MqttProtocol) :
    payload data p = data.value ++ data.divider ++ data.unit ++ data.timestamp :=
  List.take_left

/-- The packets agree in all that is published of them. -/
structure SameMeasurement (data data' : SgmProcessData) : Prop where
  measPoint : data.measPoint = data'.measPoint
  physQuantityType : data.physQuantityType = data'.physQuantityType
  value : data.value = data'.value
  divider : data.divider = data'.divider
  unit : data.unit = data'.unit
  timestamp : data.timestamp = data'.timestamp

theorem payload_inj {data data' : SgmProcessData} {p p' : MqttProtocol}
    (h : payload data p = payload data' p') :
    data.value = data'.value ∧ data.divider = data'.divider ∧ data.unit = data'.unit ∧
      data.timestamp = data'.timestamp := by
  rw [payload_eq, payload_eq] at h
  have length_field : ∀ {offset size : ℕ}, offset + size ≤ sizeofSgmProcessData →
      (data.field offset size).length = (data'.field offset size).length := fun hle => by
    rw [data.length_field hle, data'.length_field hle]
  -- the fields have fixed lengths, so the message splits at the same places
  obtain ⟨hfront, htimestamp⟩ := List.append_inj' h (length_field (by decide))
  obtain ⟨hfront, hunit⟩ := List.append_inj' hfront (length_field (by decide))
  obtain ⟨hvalue, hdivider⟩ := List.append_inj' hfront (length_field (by decide))
  exact ⟨hvalue, hdivider, hunit, htimestamp⟩

theorem prepareTopic_true_iff (data : SgmProcessData) (p : MqttProtocol) :
    (prepareTopic data p).1 = true ↔ ∃ pair ∈ unitMap,
      pair.1.word = data.measPoint ∧ pair.2.word = data.physQuantityType := by
  rw [(prepareTopic_eq data p).1, findMapper, List.find?_isSome]
  simp

/-- Whatever came before, topic and payload of a packet with a known pair tell the client and the
measurement; the known pairs are those of `unitMap`; and neither topic nor payload depends on what
the buffers held. -/
theorem topic_payload_identify (w w' : ℕ → World) (c c' : String)
    (earlier earlier' : List SgmProcessData) (data data' : SgmProcessData) :
    ((prepareTopic data (after c w earlier)).1 = true →
        (prepareTopic data' (after c' w' earlier')).1 = true →
        topic data (after c w earlier) = topic data' (after c' w' earlier') →
        payload data (after c w earlier) = payload data' (after c' w' earlier') →
        c = c' ∧ SameMeasurement data data') ∧
      ((prepareTopic data (after c w earlier)).1 = true ↔ ∃ pair ∈ unitMap,
        pair.1.word = data.measPoint ∧ pair.2.word = data.physQuantityType) ∧
      ∀ topicBuffer messageBuffer,
        topic data { after c w earlier with
            itsTopicBuffer := topicBuffer, itsMesssageBuffer := messageBuffer } =
          topic data (after c w earlier) ∧
        payload data { after c w earlier with
            itsTopicBuffer := topicBuffer, itsMesssageBuffer := messageBuffer } =
          payload data (after c w earlier) := by
  refine ⟨fun hfound hfound' htopic hpayload => ?_, prepareTopic_true_iff _ _,
    fun topicBuffer messageBuffer => ⟨?_, ?_⟩⟩
  · rw [(prepareTopic_eq _ _).1] at hfound hfound'
    obtain ⟨pair, hpair⟩ := Option.isSome_iff_exists.1 hfound
    obtain ⟨pair', hpair'⟩ := Option.isSome_iff_exists.1 hfound'
    obtain ⟨hmem, hpoint, hquantity⟩ := mem_unitMap_of_findMapper hpair
    obtain ⟨hmem', hpoint', hquantity'⟩ := mem_unitMap_of_findMapper hpair'
    rw [topic_eq (after_namesKept c w earlier) hpair,
      topic_eq (after_namesKept c' w' earlier') hpair'] at htopic
    obtain ⟨hclient, rfl⟩ := topic_inj hmem hmem' htopic
    obtain ⟨hvalue, hdivider, hunit, htimestamp⟩ := payload_inj hpayload
    exact ⟨hclient, hpoint.symm.trans hpoint', hquantity.symm.trans hquantity', hvalue, hdivider,
      hunit, htimestamp⟩
  · unfold topic prepareTopic
    cases findMapper data <;> rfl
  · rw [payload_eq, payload_eq]

/-- A packet with the pressure of the air. -/
def airPressure : SgmProcessData :=
  ⟨#[0, 0, 0, 0, 1, 0, 0, 0, 0, 0, 0, 0, 0, 0, 0, 0, 213, 3, 0, 0, 1, 0, 0, 0, 9, 0, 0, 0, 0, 0, 0,
    0], rfl⟩

theorem topic_payload_identify_airPressure :
    topic airPressure (after "a/b" (fun _ => {}) [airPressure]) = "sgm/a/b/air/press" ∧
      "a/b" = "a/b" ∧ SameMeasurement airPressure airPressure :=
  ⟨by decide, (topic_payload_identify (fun _ => {}) (fun _ => {}) "a/b" "a/b" [airPressure] []
    airPressure airPressure).1 (by decide) (by decide) (by decide) (by decide)⟩

end MqttProtocol

end SgmDevice
