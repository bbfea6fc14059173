import SgmDevice.Sensor.Bme280Driver
import SgmDevice.Sensor.Readings

/-!
# `Bme280Sensor`

The sensor takes a forced conversion for each quantity and compensates the raw value with the
vendored driver, which keeps the fine temperature of the last compensated temperature in a global.
Only the readings of `TEMPERATURE` set it, so a pressure or a humidity that is asked for earlier is
compensated with what earlier calls have left (`order_free_iff`).
-/

namespace SgmDevice

open Sgm

/-- What the calls of the sensor change. -/
structure Bme280State (τ : Type) where
  t_fine : τ
  conversions : ℕ := 0
  timeReadings : ℕ := 0

structure Bme280Sensor where
  itsMeasurementPoint : MeasurementPoint

namespace Bme280Sensor

def itsCapabilities : List PhysQuantity := [.PRESSURE, .TEMPERATURE, .HUMIDITY]

def temperatureDivider : UInt16 := 100
def pressureDivider : UInt16 := 100
def humidityDivider : UInt16 := 1024

variable {τ : Type} (drv : Bme280Driver τ) (sensor : Bme280Sensor)

/-- The packet of a reading, with the current time. -/
def packet (physQuantity : PhysQuantity) (unit : SgmUnit) (value : UInt32) (divider : UInt16)
    (s : Bme280State τ) : SgmProcessData × Bme280State τ :=
  (.ofFields 0 sensor.itsMeasurementPoint physQuantity unit value divider
    (drv.time s.timeReadings) 0, { s with timeReadings := s.timeReadings + 1 })

def measurePressure (uncompVal : Int32) (s : Bme280State τ) : SgmProcessData × Bme280State τ :=
  let actualPressure := drv.compensatePressureInt32 uncompVal s.t_fine
  packet drv sensor .PRESSURE .hPa actualPressure pressureDivider s

def measureTemperature (uncompVal : Int32) (s : Bme280State τ) :
    SgmProcessData × Bme280State τ :=
  let (actualTemperature, t_fine) := drv.compensateTemperatureInt32 uncompVal
  packet drv sensor .TEMPERATURE .Celsius actualTemperature.toUInt32 temperatureDivider
    { s with t_fine }

def measureHumidity (uncompVal : Int32) (s : Bme280State τ) : SgmProcessData × Bme280State τ :=
  let actualHumidity := drv.compensateHumidityInt32 uncompVal s.t_fine
  packet drv sensor .HUMIDITY .Percent actualHumidity humidityDivider s

/-- What the conversion returned is not looked at. -/
def measure (quantity : PhysQuantity) (data : List SgmProcessData) (s : Bme280State τ) :
    List SgmProcessData × Bme280State τ :=
  let (_, uncomp) := drv.getForcedUncomp s.conversions
  let s := { s with conversions := s.conversions + 1 }
  match quantity with
  | .PRESSURE =>
    let (reading, s) := measurePressure drv sensor uncomp.pressure s
    (data ++ [reading], s)
  | .TEMPERATURE =>
    let (reading, s) := measureTemperature drv sensor uncomp.temperature s
    (data ++ [reading], s)
  | .HUMIDITY =>
    let (reading, s) := measureHumidity drv sensor uncomp.humidity s
    (data ++ [reading], s)
  | .LIGHT => (data, s)

/-- `acquire(quantities, data)`. -/
def acquireQuantities : List PhysQuantity → List SgmProcessData → Bme280State τ →
    List SgmProcessData × Bme280State τ
  | [], data, s => (data, s)
  | physQuantity :: quantities, data, s =>
    let (data, s) := measure drv sensor physQuantity data s
    acquireQuantities quantities data s

/-- `acquire(data)`. -/
def acquire (data : List SgmProcessData) (s : Bme280State τ) :
    List SgmProcessData × Bme280State τ :=
  let (data, s) := measure drv sensor .TEMPERATURE data s
  let (data, s) := measure drv sensor .PRESSURE data s
  measure drv sensor .HUMIDITY data s

/-- The sensor as the hub sees it; `acquire(quantity, data)` is still to be implemented. -/
def device : ISensorDevice Bme280Sensor (Bme280State τ) where
  queryMeasurementPoint sensor := sensor.itsMeasurementPoint
  queryCapabilities _ := itsCapabilities
  acquire sensor data s := acquire drv sensor data s
  acquireOne _ _ data s := (data, s)

/-! ## The readings -/

/-- The quantity and the value of a reading. -/
def quantityValue (data : SgmProcessData) : UInt32 × List UInt8 :=
  (data.physQuantityType, data.value)

/-- What the driver makes of the raw values with a fine temperature, for the quantities that are
measured. -/
def valueAt (uncomp : Uncomp) (t_fine : τ) : PhysQuantity → Option UInt32
  | .PRESSURE => some (drv.compensatePressureInt32 uncomp.pressure t_fine)
  | .TEMPERATURE => some (drv.compensateTemperatureInt32 uncomp.temperature).1.toUInt32
  | .HUMIDITY => some (drv.compensateHumidityInt32 uncomp.humidity t_fine)
  | .LIGHT => none

/-- The fine temperature behind a reading. -/
def fineAfter (uncomp : Uncomp) (t_fine : τ) : PhysQuantity → τ
  | .TEMPERATURE => (drv.compensateTemperatureInt32 uncomp.temperature).2
  | _ => t_fine

/-- A reading as quantity and value. -/
def entry (uncomp : Uncomp) (t_fine : τ) (quantity : PhysQuantity) :
    Option (UInt32 × List UInt8) :=
  (valueAt drv uncomp t_fine quantity).map fun value =>
    (quantity.word, SgmProcessData.toLE 4 value.toNat)

/-- The readings of a request. -/
def entries (uncomp : Uncomp) : τ → List PhysQuantity → List (UInt32 × List UInt8)
  | _, [] => []
  | t_fine, quantity :: quantities =>
    (entry drv uncomp t_fine quantity).toList ++
      entries uncomp (fineAfter drv uncomp t_fine quantity) quantities

/-- The requests `quantities` and `quantities'` append the same readings, and every one of them is a
reading of `acquire(data)`; each call starts from a state of its own. -/
def OrderFree (quantities quantities' : List PhysQuantity)
    (data data' data'' : List SgmProcessData) (s s' s'' : Bme280State τ) : Prop :=
  ∃ new new' all,
    (acquireQuantities drv sensor quantities data s).1 = data ++ new ∧
    (acquireQuantities drv sensor quantities' data' s').1 = data' ++ new' ∧
    (acquire drv sensor data'' s'').1 = data'' ++ all ∧
    (new.map quantityValue).Perm (new'.map quantityValue) ∧
    ∀ reading ∈ new, quantityValue reading ∈ all.map quantityValue

/-- What is asked for before the first `TEMPERATURE` has the same value with the fine temperature
that was left as with the one of the raw temperature. -/
def Calibrated (uncomp : Uncomp) (t_fine : τ) (quantities : List PhysQuantity) : Prop :=
  ∀ quantity ∈ quantities.takeWhile (· ≠ .TEMPERATURE),
    valueAt drv uncomp t_fine quantity =
      valueAt drv uncomp (drv.compensateTemperatureInt32 uncomp.temperature).2 quantity

theorem quantityValue_packet (physQuantity : PhysQuantity) (unit : SgmUnit) (value : UInt32)
    (divider : UInt16) (s : Bme280State τ) :
    quantityValue (packet drv sensor physQuantity unit value divider s).1 =
      (physQuantity.word, SgmProcessData.toLE 4 value.toNat) := by
  unfold quantityValue packet
  rw [SgmProcessData.physQuantityType_ofFields, SgmProcessData.value_ofFields]

section Constant

variable {drv} {uncomp : Uncomp}

/-- One reading. -/
theorem measure_entry (constant : ∀ n, (drv.getForcedUncomp n).2 = uncomp)
    (quantity : PhysQuantity) (data : List SgmProcessData) (s : Bme280State τ) :
    ∃ new, (measure drv sensor quantity data s).1 = data ++ new ∧
      new.map quantityValue = (entry drv uncomp s.t_fine quantity).toList ∧
      (measure drv sensor quantity data s).2.t_fine = fineAfter drv uncomp s.t_fine quantity := by
  have hraw : drv.getForcedUncomp s.conversions = ((drv.getForcedUncomp s.conversions).1, uncomp) :=
    Prod.ext rfl (constant s.conversions)
  unfold measure
  rw [hraw]
  cases quantity with
  | LIGHT => exact ⟨[], (List.append_nil _).symm, rfl, rfl⟩
  | PRESSURE | TEMPERATURE | HUMIDITY =>
    refine ⟨[_], rfl, ?_, rfl⟩
    exact congrArg (· :: []) (quantityValue_packet drv sensor ..)

theorem acquireQuantities_entries (constant : ∀ n, (drv.getForcedUncomp n).2 = uncomp)
    (quantities : List PhysQuantity) (data : List SgmProcessData) (s : Bme280State τ) :
    ∃ new, (acquireQuantities drv sensor quantities data s).1 = data ++ new ∧
      new.map quantityValue = entries drv uncomp s.t_fine quantities := by
  induction quantities generalizing data s with
  | nil => exact ⟨[], (List.append_nil _).symm, rfl⟩
  | cons quantity quantities ih =>
    obtain ⟨first, hfirst, hentry, hfine⟩ := measure_entry sensor constant quantity data s
    obtain ⟨rest, hrest, hentries⟩ := ih (measure drv sensor quantity data s).1
      (measure drv sensor quantity data s).2
    refine ⟨first ++ rest, ?_, ?_⟩
    · rw [acquireQuantities, hrest, hfirst, List.append_assoc]
    · rw [List.map_append, hentry, hentries, hfine, entries]

end Constant

/-! ## Readings that do not depend on the order -/

variable (uncomp : Uncomp)

/-- The entry with the fine temperature of the raw temperature. -/
def properEntry : PhysQuantity → Option (UInt32 × List UInt8) :=
  entry drv uncomp (drv.compensateTemperatureInt32 uncomp.temperature).2

theorem entry_eq_iff {t_fine t_fine' : τ} {quantity : PhysQuantity} :
    entry drv uncomp t_fine quantity = entry drv uncomp t_fine' quantity ↔
      valueAt drv uncomp t_fine quantity = valueAt drv uncomp t_fine' quantity := by
  unfold entry
  constructor
  · intro h
    refine Option.map_injective (fun v v' hv => ?_) h
    exact SgmProcessData.toLE_word_inj (Prod.ext_iff.1 hv).2
  · intro h
    rw [h]

variable {drv uncomp} {t_fine : τ} {quantity : PhysQuantity} {quantities : List PhysQuantity}

theorem word_of_entry {reading : UInt32 × List UInt8}
    (h : entry drv uncomp t_fine quantity = some reading) : reading.1 = quantity.word := by
  obtain ⟨value, -, rfl⟩ := Option.map_eq_some_iff.1 h
  rfl

theorem calibrated_temperature :
    Calibrated drv uncomp t_fine (.TEMPERATURE :: quantities) := by
  simp [Calibrated]

theorem calibrated_cons (h : quantity ≠ .TEMPERATURE) :
    Calibrated drv uncomp t_fine (quantity :: quantities) ↔
      entry drv uncomp t_fine quantity = properEntry drv uncomp quantity ∧
        Calibrated drv uncomp t_fine quantities := by
  rw [properEntry, entry_eq_iff, Calibrated, List.takeWhile_cons_of_pos (by simpa using h),
    List.forall_mem_cons]
  rfl

/-- Behind a temperature everything is calibrated. -/
theorem calibrated_fine :
    Calibrated drv uncomp (drv.compensateTemperatureInt32 uncomp.temperature).2 quantities :=
  fun _ _ => rfl

theorem entries_temperature :
    entries drv uncomp t_fine (.TEMPERATURE :: quantities) =
      (properEntry drv uncomp .TEMPERATURE).toList ++
        entries drv uncomp (drv.compensateTemperatureInt32 uncomp.temperature).2 quantities := rfl

theorem entries_cons (h : quantity ≠ .TEMPERATURE) :
    entries drv uncomp t_fine (quantity :: quantities) =
      (entry drv uncomp t_fine quantity).toList ++ entries drv uncomp t_fine quantities := by
  cases quantity with
  | TEMPERATURE => exact absurd rfl h
  | PRESSURE | HUMIDITY | LIGHT => rfl

theorem filterMap_cons_toList {α β : Type} (f : α → Option β) (x : α) (xs : List α) :
    (x :: xs).filterMap f = (f x).toList ++ xs.filterMap f := by
  cases h : f x <;> simp [h]

/-- A calibrated request reads every quantity properly. -/
theorem entries_of_calibrated (h : Calibrated drv uncomp t_fine quantities) :
    entries drv uncomp t_fine quantities = quantities.filterMap (properEntry drv uncomp) := by
  induction quantities generalizing t_fine with
  | nil => rfl
  | cons quantity quantities ih =>
    rw [filterMap_cons_toList]
    by_cases htemperature : quantity = .TEMPERATURE
    · rw [htemperature, entries_temperature, ih calibrated_fine]
    · obtain ⟨hentry, hrest⟩ := (calibrated_cons htemperature).1 h
      rw [entries_cons htemperature, hentry, ih hrest]

/-- A request whose readings are all proper ones is calibrated. -/
theorem calibrated_of_entries (h : ∀ reading ∈ entries drv uncomp t_fine quantities,
    ∃ quantity, properEntry drv uncomp quantity = some reading) :
    Calibrated drv uncomp t_fine quantities := by
  induction quantities with
  | nil => exact List.forall_mem_nil _
  | cons quantity quantities ih =>
    by_cases htemperature : quantity = .TEMPERATURE
    · rw [htemperature]
      exact calibrated_temperature
    · rw [entries_cons htemperature, List.forall_mem_append] at h
      refine (calibrated_cons htemperature).2 ⟨?_, ih h.2⟩
      cases hentry : entry drv uncomp t_fine quantity with
      | none =>
        have hlight : quantity = .LIGHT := by
          cases quantity <;> first | rfl | cases hentry
        rw [hlight]
        rfl
      | some reading =>
        rw [hentry] at h
        obtain ⟨quantity', hproper⟩ := h.1 reading (List.mem_singleton.2 rfl)
        -- the word of the reading tells the quantity
        obtain rfl : quantity = quantity' :=
          PhysQuantity.word_injective ((word_of_entry hentry).symm.trans (word_of_entry hproper))
        exact hproper.symm

/-- The readings of `acquire(data)` are the proper ones. -/
theorem mem_all_iff {reading : UInt32 × List UInt8} :
    reading ∈ entries drv uncomp t_fine [.TEMPERATURE, .PRESSURE, .HUMIDITY] ↔
      ∃ quantity, properEntry drv uncomp quantity = some reading := by
  rw [entries_of_calibrated calibrated_temperature, List.mem_filterMap]
  constructor
  · rintro ⟨quantity, -, hproper⟩
    exact ⟨quantity, hproper⟩
  · rintro ⟨quantity, hproper⟩
    refine ⟨quantity, ?_, hproper⟩
    cases quantity with
    | LIGHT => cases hproper
    | PRESSURE | TEMPERATURE | HUMIDITY => decide

/-- When every reading is one of `acquire(data)`, both requests are calibrated. -/
theorem calibrated_of_orderFree {quantities quantities' : List PhysQuantity}
    (constant : ∀ n, (drv.getForcedUncomp n).2 = uncomp)
    {data data' data'' : List SgmProcessData} {s s' s'' : Bme280State τ}
    (h : OrderFree drv sensor quantities quantities' data data' data'' s s' s'') :
    Calibrated drv uncomp s.t_fine quantities ∧ Calibrated drv uncomp s'.t_fine quantities' := by
  obtain ⟨new, hnew, hentries⟩ := acquireQuantities_entries sensor constant quantities data s
  obtain ⟨new', hnew', hentries'⟩ := acquireQuantities_entries sensor constant quantities' data' s'
  obtain ⟨all, hall, hproper⟩ := acquireQuantities_entries sensor constant
    [.TEMPERATURE, .PRESSURE, .HUMIDITY] data'' s''
  obtain ⟨new₁, new₂, all₁, h₁, h₂, h₃, hsame, hvalues⟩ := h
  obtain rfl := List.append_cancel_left (hnew.symm.trans h₁)
  obtain rfl := List.append_cancel_left (hnew'.symm.trans h₂)
  obtain rfl := List.append_cancel_left (hall.symm.trans h₃)
  have hread : ∀ reading ∈ entries drv uncomp s.t_fine quantities,
      ∃ quantity, properEntry drv uncomp quantity = some reading := by
    rw [← hentries, List.forall_mem_map]
    intro reading hmem
    rw [← mem_all_iff, ← hproper]
    exact hvalues reading hmem
  refine ⟨calibrated_of_entries hread, calibrated_of_entries fun reading hmem => ?_⟩
  rw [hentries, hentries'] at hsame
  exact hread reading (hsame.mem_iff.2 hmem)

theorem orderFree_of_calibrated {quantities quantities' : List PhysQuantity}
    (constant : ∀ n, (drv.getForcedUncomp n).2 = uncomp) (perm : quantities.Perm quantities')
    (data data' data'' : List SgmProcessData) {s s' : Bme280State τ} (s'' : Bme280State τ)
    (h : Calibrated drv uncomp s.t_fine quantities)
    (h' : Calibrated drv uncomp s'.t_fine quantities') :
    OrderFree drv sensor quantities quantities' data data' data'' s s' s'' := by
  obtain ⟨new, hnew, hentries⟩ := acquireQuantities_entries sensor constant quantities data s
  obtain ⟨new', hnew', hentries'⟩ := acquireQuantities_entries sensor constant quantities' data' s'
  obtain ⟨all, hall, hproper⟩ := acquireQuantities_entries sensor constant
    [.TEMPERATURE, .PRESSURE, .HUMIDITY] data'' s''
  rw [entries_of_calibrated h] at hentries
  rw [entries_of_calibrated h'] at hentries'
  refine ⟨new, new', all, hnew, hnew', hall, ?_, fun reading hmem => ?_⟩
  · rw [hentries, hentries']
    exact perm.filterMap _
  · have hreading := List.mem_map_of_mem (f := quantityValue) hmem
    rw [hentries, List.mem_filterMap] at hreading
    obtain ⟨quantity, -, hread⟩ := hreading
    rw [hproper]
    exact mem_all_iff.2 ⟨quantity, hread⟩

variable (drv)

/-- The readings of a request do not depend on its order nor on earlier requests if and only if, in
both orders, what is asked for before the first `TEMPERATURE` has the value that the current
temperature gives it. -/
theorem order_free_iff {quantities quantities' : List PhysQuantity}
    (constant : ∀ n, (drv.getForcedUncomp n).2 = uncomp) (perm : quantities.Perm quantities')
    (data data' data'' : List SgmProcessData) (s s' s'' : Bme280State τ) :
    OrderFree drv sensor quantities quantities' data data' data'' s s' s'' ↔
      Calibrated drv uncomp s.t_fine quantities ∧
        Calibrated drv uncomp s'.t_fine quantities' := by
  constructor
  · intro h
    exact calibrated_of_orderFree sensor constant h
  · rintro ⟨h, h'⟩
    exact orderFree_of_calibrated sensor constant perm data data' data'' s'' h h'

/-! ## A device -/

/-- About 25 degrees, 1007 hPa and 56 percent. -/
def someUncomp : Uncomp := ⟨415148, 519888, 30000⟩

/-- The device in a room that does not change. -/
def someDriver : Bme280Driver Int32 :=
  Bme280Driver.CalParam.usual.driver (fun _ => (0, someUncomp)) fun _ => 0

def airSensor : Bme280Sensor := ⟨.AIR⟩

/-- With the temperature first the two others may change places. -/
theorem order_free_temperatureFirst :
    OrderFree someDriver airSensor [.TEMPERATURE, .PRESSURE, .HUMIDITY]
      [.TEMPERATURE, .HUMIDITY, .PRESSURE] [] [] [] ⟨0, 0, 0⟩ ⟨96000, 3, 3⟩ ⟨0, 0, 0⟩ :=
  (order_free_iff someDriver airSensor (fun _ => rfl) (by decide) _ _ _ _ _ _).2
    ⟨calibrated_temperature, calibrated_temperature⟩

/-- The pressure that is asked for before the temperature is another one when the fine temperature
still is 0. -/
theorem pressure_first_differs :
    (∀ n, (someDriver.getForcedUncomp n).2 = someUncomp) ∧
      [PhysQuantity.PRESSURE, .TEMPERATURE].Perm [.TEMPERATURE, .PRESSURE] ∧
      ¬ OrderFree someDriver airSensor [.PRESSURE, .TEMPERATURE] [.TEMPERATURE, .PRESSURE]
        [] [] [] ⟨0, 0, 0⟩ ⟨0, 0, 0⟩ ⟨0, 0, 0⟩ := by
  refine ⟨fun _ => rfl, by decide, fun h => ?_⟩
  have hcalibrated : Calibrated someDriver someUncomp 0 [.PRESSURE, .TEMPERATURE] :=
    (calibrated_of_orderFree airSensor (fun _ => rfl) h).1
  have hpressure := hcalibrated .PRESSURE (by decide)
  exact absurd hpressure (by decide)

/-! ## One reading for each key -/

theorem isAt_packet (physQuantity : PhysQuantity) (unit : SgmUnit) (value : UInt32)
    (divider : UInt16) (s : Bme280State τ) (id : IdTuple) :
    (packet drv sensor physQuantity unit value divider s).1.isAt id =
      decide ((sensor.itsMeasurementPoint, physQuantity) = id) := by
  obtain ⟨point, quantity⟩ := id
  unfold SgmProcessData.isAt packet
  rw [SgmProcessData.measPoint_ofFields, SgmProcessData.physQuantityType_ofFields]
  simp [MeasurementPoint.word_injective.eq_iff, PhysQuantity.word_injective.eq_iff]

theorem measure_isAt {quantity : PhysQuantity} (h : quantity ∈ itsCapabilities)
    (data : List SgmProcessData) (s : Bme280State τ) :
    ∃ reading, (measure drv sensor quantity data s).1 = data ++ [reading] ∧
      ∀ id, reading.isAt id = decide ((sensor.itsMeasurementPoint, quantity) = id) := by
  cases quantity with
  | LIGHT => exact absurd h (by decide)
  | PRESSURE | TEMPERATURE | HUMIDITY =>
    exact ⟨(packet drv sensor ..).1, rfl, fun id => isAt_packet drv sensor _ _ _ _ _ id⟩

theorem acquireQuantities_isAt {quantities : List PhysQuantity} (h : quantities ⊆ itsCapabilities)
    (data : List SgmProcessData) (s : Bme280State τ) :
    ∃ new, (acquireQuantities drv sensor quantities data s).1 = data ++ new ∧
      ∀ id, new.map (SgmProcessData.isAt id) =
        quantities.map fun quantity => decide ((sensor.itsMeasurementPoint, quantity) = id) := by
  induction quantities generalizing data s with
  | nil => exact ⟨[], (List.append_nil _).symm, fun _ => rfl⟩
  | cons quantity quantities ih =>
    obtain ⟨hquantity, hquantities⟩ := List.cons_subset.1 h
    obtain ⟨reading, hreading, hat⟩ := measure_isAt drv sensor hquantity data s
    obtain ⟨new, hnew, hrest⟩ := ih hquantities (measure drv sensor quantity data s).1
      (measure drv sensor quantity data s).2
    refine ⟨reading :: new, ?_, fun id => ?_⟩
    · rw [acquireQuantities, hnew, hreading, List.append_assoc, List.singleton_append]
    · rw [List.map_cons, List.map_cons, hat, hrest]

/-- The sensor keeps what the hub takes for granted. -/
theorem device_readsOnce : (device drv).ReadsOnce := by
  intro sensor data s
  have hquantities : [.TEMPERATURE, .PRESSURE, .HUMIDITY] ⊆ itsCapabilities := by decide
  obtain ⟨new, hnew, hisAt⟩ := acquireQuantities_isAt drv sensor hquantities data s
  refine ⟨new, hnew, fun id => ?_⟩
  obtain ⟨point, quantity⟩ := id
  have hcount : new.countP (SgmProcessData.isAt (point, quantity)) =
      (new.map (SgmProcessData.isAt (point, quantity))).countP id := by
    rw [List.countP_map, Function.id_comp]
  have hprovides : SensorHub.provides (device drv) sensor (point, quantity) =
      (decide (sensor.itsMeasurementPoint = point) && itsCapabilities.contains quantity) := rfl
  rw [hcount, hisAt, hprovides]
  by_cases hpoint : sensor.itsMeasurementPoint = point
  · cases quantity <;> simp [hpoint, itsCapabilities]
  · simp [hpoint]

end Bme280Sensor

end SgmDevice
