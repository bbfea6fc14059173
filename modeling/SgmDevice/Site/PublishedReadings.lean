import SgmDevice.Site.Delivery

/-!
# The messages of the sensor

The device of the repository has one sensor, a BME280 at `AIR`.  A service that finds it ready takes
three conversions, of which the compensated values, the dividers, the units and the times become
the bytes of three messages.  In every run some of these messages are handed to the MQTT library, in
their order, and nothing else (`published_readings`).
-/

namespace SgmDevice

open Sgm Concurrency SensorServiceApplication Bme280Sensor

namespace Site

/-- The message of a reading at `AIR`. -/
def message (clientId : String) (quantity : PhysQuantity) (unit : SgmUnit) (value : UInt32)
    (divider : UInt16) (time : UInt32) : String × List UInt8 :=
  (CStrings.c_str ("sgm/" ++ clientId ++ "/air/" ++ MqttProtocol.quantityName quantity),
    SgmProcessData.toLE 4 value.toNat ++ SgmProcessData.toLE 2 divider.toNat ++
      SgmProcessData.toLE 4 unit.word.toNat ++ SgmProcessData.toLE 4 time.toNat)

variable {τ : Type} (drv : Bme280Driver τ) (clientId : String)

/-- The messages of a service: the pressure and the humidity are compensated with the fine
temperature of the same service. -/
def messages (w : Bme280State τ) : List (String × List UInt8) :=
  let uncomp := fun n => (drv.getForcedUncomp (w.conversions + n)).2
  let time := fun n => drv.time (w.timeReadings + n)
  let (temperature, t_fine) := drv.compensateTemperatureInt32 (uncomp 0).temperature
  [message clientId .TEMPERATURE .Celsius temperature.toUInt32 100 (time 0),
    message clientId .PRESSURE .hPa (drv.compensatePressureInt32 (uncomp 1).pressure t_fine) 100
      (time 1),
    message clientId .HUMIDITY .Percent (drv.compensateHumidityInt32 (uncomp 2).humidity t_fine)
      1024 (time 2)]

/-- The messages of a step: a service has some if it finds the sensor ready. -/
def messagesOfStep (t : Taken State (Act (Bme280State τ))) : List (String × List UInt8) :=
  match t.act with
  | .service true _ w => messages drv clientId w
  | _ => []

def messagesOf (run : List (Taken State (Act (Bme280State τ)))) : List (String × List UInt8) :=
  run.flatMap (messagesOfStep drv clientId)

variable {drv clientId}

/-- A measured pair is found in the table. -/
theorem find_unitMap : ∀ pair ∈ unitMap, unitMap.find? (fun unitMapper =>
    unitMapper.1.word = pair.1.word && unitMapper.2.word = pair.2.word) = some pair := by
  decide

/-- What is published of a packet with these fields. -/
theorem publication_ofFields {quantity : PhysQuantity} (h : (.AIR, quantity) ∈ unitMap)
    (packetId : UInt32) (unit : SgmUnit) (value : UInt32) (divider : UInt16) (timestamp : UInt32)
    (crc : UInt16) :
    MqttProtocol.publication clientId
        (.ofFields packetId .AIR quantity unit value divider timestamp crc) =
      some (message clientId quantity unit value divider timestamp) := by
  have hmapper : MqttProtocol.findMapper
      (.ofFields packetId .AIR quantity unit value divider timestamp crc) =
        some (.AIR, quantity) := by
    unfold MqttProtocol.findMapper
    rw [SgmProcessData.measPoint_ofFields, SgmProcessData.physQuantityType_ofFields]
    exact find_unitMap (.AIR, quantity) h
  have htopic : "sgm/" ++ clientId ++ "/" ++ MqttProtocol.pointName .AIR ++ "/" =
      "sgm/" ++ clientId ++ "/air/" := by
    rw [String.append_assoc, String.append_assoc]
    rfl
  rw [MqttProtocol.publication, hmapper, Option.map_some, SgmProcessData.value_ofFields,
    SgmProcessData.divider_ofFields, SgmProcessData.unit_ofFields,
    SgmProcessData.timestamp_ofFields, htopic]
  rfl

theorem publications_measurements (ready : Bool) (w : Bme280State τ) :
    (measurements (device drv) airSensor ready w).map (MqttProtocol.publication clientId) =
      if ready then (messages drv clientId w).map some else [] := by
  cases ready with
  | false => rfl
  | true =>
    let fine := drv.compensateTemperatureInt32 (drv.getForcedUncomp w.conversions).2.temperature
    have hmeasured : measurements (device drv) airSensor true w =
        [.ofFields 0 .AIR .TEMPERATURE .Celsius fine.1.toUInt32 100 (drv.time w.timeReadings) 0,
          .ofFields 0 .AIR .PRESSURE .hPa (drv.compensatePressureInt32
            (drv.getForcedUncomp (w.conversions + 1)).2.pressure fine.2) 100
            (drv.time (w.timeReadings + 1)) 0,
          .ofFields 0 .AIR .HUMIDITY .Percent (drv.compensateHumidityInt32
            (drv.getForcedUncomp (w.conversions + 2)).2.humidity fine.2) 1024
            (drv.time (w.timeReadings + 2)) 0] := rfl
    rw [hmeasured, if_pos rfl, List.map_cons, List.map_cons, List.map_cons, List.map_nil,
      publication_ofFields (by decide), publication_ofFields (by decide),
      publication_ofFields (by decide)]
    rfl

/-- All that was measured so far is good for the messages of the services so far. -/
theorem publications_acquired (packet : SgmProcessData) (world : MqttProtocol.Answers)
    (acts : List (Act (Bme280State τ))) :
    let S := system (device drv) clientId airSensor
    ((S.final (init clientId packet world) acts).acquired).map
        (MqttProtocol.publication clientId) =
      (messagesOf drv clientId (S.path (init clientId packet world) acts)).map some := by
  intro S
  let I : List (Taken State (Act (Bme280State τ))) → State → Prop := fun run s =>
    s.acquired.map (MqttProtocol.publication clientId) = (messagesOf drv clientId run).map some
  have hinit : I [] (init clientId packet world) := rfl
  refine System.path_final_induction (S := S) (I := I) ?_ hinit acts
  intro before s a s' h hs
  change _ = (messagesOf drv clientId (before ++ [⟨s, a, s'⟩])).map some
  rw [messagesOf, List.flatMap_append, List.flatMap_singleton, List.map_append,
    ← messagesOf, ← h]
  cases a with
  | service ready answers w =>
    obtain rfl := Option.some.inj hs
    rw [List.map_append, publications_measurements]
    cases ready <;> rfl
  | tick status listening interruption =>
    obtain ⟨-, -, rfl⟩ := step_tick hs
    exact (List.append_nil _).symm
  | killed status listening k packet world =>
    obtain ⟨-, rfl⟩ := step_killed hs
    exact (List.append_nil _).symm
  | restart packet world =>
    obtain rfl := Option.some.inj hs
    exact (List.append_nil _).symm

/-- In every run what is handed to the library is, in their order and each at most once, messages of
the services that found the sensor ready, and nothing else. -/
theorem published_readings (drv : Bme280Driver τ) (clientId : String) (packet : SgmProcessData)
    (world : MqttProtocol.Answers) (acts : List (Act (Bme280State τ))) :
    let S := system (device drv) clientId airSensor
    (publications (S.final (init clientId packet world) acts)).Sublist
      (messagesOf drv clientId (S.path (init clientId packet world) acts)) := by
  intro S
  have hfinal := (always_invariant (device drv) clientId airSensor packet world acts).final
  have hdelivered : (delivered (S.final (init clientId packet world) acts)).Sublist
      (S.final (init clientId packet world) acts).acquired :=
    (List.sublist_append_left _ _).trans hfinal.inOrder
  have hsublist := hdelivered.map (MqttProtocol.publication clientId)
  rw [← hfinal.faithful.published, publications_acquired packet world acts] at hsublist
  simpa using hsublist.filterMap id

end Site

end SgmDevice
