import SgmDevice.Sensor.Bme280Sensor

/-!
# The bus of the BME280

A forced conversion is a sequence of transfers, for each of which the vendored driver calls
`AdapterBme280::read` or `AdapterBme280::write`, and it adds up what they return.  A read returns
the count of mraa where the driver takes 0 for success, and `Bme280Sensor::measure` looks at no
result at all (`failuresReported_iff`).
-/

namespace SgmDevice

open Sgm

/-- The bus for one transfer, as mraa gives it: `readBytesReg` returns the number of bytes read or
-1, `write` returns 0 on success. -/
structure I2c where
  readBytesReg (devAddress regAddress length : UInt8) : Int
  write (devAddress : UInt8) (buffer : List UInt8) : Int32
  readBytesReg_count : ∀ devAddress regAddress length,
    readBytesReg devAddress regAddress length = -1 ∨
      0 ≤ readBytesReg devAddress regAddress length ∧
        readBytesReg devAddress regAddress length ≤ length.toNat

namespace AdapterBme280

variable (itsI2cDevice : I2c)

/-- The count is narrowed to `s8`. -/
def read (devAddress regAddress lengthToRead : UInt8) : Int8 :=
  Int8.ofInt (itsI2cDevice.readBytesReg devAddress regAddress lengthToRead)

def write (devAddress regAddress : UInt8) (writeBuffer : List UInt8) : Int8 :=
  (itsI2cDevice.write devAddress (regAddress :: writeBuffer)).toInt8

theorem narrow_eq_zero_iff {count : Int} (hlow : -1 ≤ count) (hhigh : count < 256) :
    Int8.ofInt count = 0 ↔ count = 0 := by
  rw [← Int8.toInt_inj, Int8.toInt_ofInt]
  change count.bmod 256 = 0 ↔ count = 0
  rw [Int.bmod_def]
  omega

theorem toInt8_eq_zero_iff (result : Int32) : result.toInt8 = 0 ↔ 256 ∣ result.toInt := by
  rw [← Int8.toInt_inj, Int32.toInt_toInt8]
  change result.toInt.bmod 256 = 0 ↔ 256 ∣ result.toInt
  rw [Int.bmod_def]
  omega

/-- A read returns 0 for every byte and for nothing else, if it fails as a whole, stops in between
or asks for nothing. -/
theorem read_iff (devAddress regAddress lengthToRead : UInt8) :
    let count := itsI2cDevice.readBytesReg devAddress regAddress lengthToRead
    (read itsI2cDevice devAddress regAddress lengthToRead = 0 ↔ count = lengthToRead.toNat) ↔
      count = -1 ∨ 0 < count ∧ count < lengthToRead.toNat ∨ lengthToRead = 0 := by
  have hcount := itsI2cDevice.readBytesReg_count devAddress regAddress lengthToRead
  have hlength := lengthToRead.toNat_lt
  have hzero : lengthToRead = 0 ↔ lengthToRead.toNat = 0 := UInt8.toNat_inj.symm
  intro count
  rw [read, narrow_eq_zero_iff (by omega) (by omega), hzero]
  omega

theorem write_iff (devAddress regAddress : UInt8) (writeBuffer : List UInt8) :
    let result := itsI2cDevice.write devAddress (regAddress :: writeBuffer)
    (write itsI2cDevice devAddress regAddress writeBuffer = 0 ↔ result = 0) ↔
      result = 0 ∨ ¬ 256 ∣ result.toInt := by
  intro result
  have hzero : result = 0 ↔ result.toInt = 0 := Int32.toInt_inj.symm
  have hwrite : write itsI2cDevice devAddress regAddress writeBuffer = 0 ↔ 256 ∣ result.toInt :=
    toInt8_eq_zero_iff result
  rw [hwrite, hzero]
  omega

end AdapterBme280

/-- What the driver calls one of its two callbacks with. -/
inductive BusRequest where
  | read (devAddress regAddress lengthToRead : UInt8)
  | write (devAddress regAddress : UInt8) (writeBuffer : List UInt8)

/-- A request and the bus that it finds. -/
structure Transfer where
  itsI2cDevice : I2c
  request : BusRequest

namespace Transfer

variable (transfer : Transfer)

/-- What the callback returns to the driver. -/
def callback : Int8 :=
  match transfer.request with
  | .read devAddress regAddress lengthToRead =>
    AdapterBme280.read transfer.itsI2cDevice devAddress regAddress lengthToRead
  | .write devAddress regAddress writeBuffer =>
    AdapterBme280.write transfer.itsI2cDevice devAddress regAddress writeBuffer

/-- Every byte was transferred. -/
def Succeeded : Prop :=
  match transfer.request with
  | .read devAddress regAddress lengthToRead =>
    transfer.itsI2cDevice.readBytesReg devAddress regAddress lengthToRead = lengthToRead.toNat
  | .write devAddress regAddress writeBuffer =>
    transfer.itsI2cDevice.write devAddress (regAddress :: writeBuffer) = 0

instance : Decidable transfer.Succeeded :=
  match h : transfer.request with
  | .read .. => decidable_of_iff (_ = _) (by rw [Succeeded, h])
  | .write .. => decidable_of_iff (_ = _) (by rw [Succeeded, h])

/-- The transfer brought bytes from the device. -/
def HasRead : Prop :=
  match transfer.request with
  | .read devAddress regAddress lengthToRead =>
    0 < transfer.itsI2cDevice.readBytesReg devAddress regAddress lengthToRead
  | .write .. => False

/-- A read that fails as a whole, stops in between or asks for nothing, and a write that succeeds
or whose error is no multiple of 256. -/
def Told : Prop :=
  match transfer.request with
  | .read devAddress regAddress lengthToRead =>
    let count := transfer.itsI2cDevice.readBytesReg devAddress regAddress lengthToRead
    count = -1 ∨ 0 < count ∧ count < lengthToRead.toNat ∨ lengthToRead = 0
  | .write devAddress regAddress writeBuffer =>
    let result := transfer.itsI2cDevice.write devAddress (regAddress :: writeBuffer)
    result = 0 ∨ ¬ 256 ∣ result.toInt

theorem callback_iff : (transfer.callback = 0 ↔ transfer.Succeeded) ↔ transfer.Told := by
  obtain ⟨itsI2cDevice, request⟩ := transfer
  cases request with
  | read devAddress regAddress lengthToRead =>
    exact AdapterBme280.read_iff itsI2cDevice devAddress regAddress lengthToRead
  | write devAddress regAddress writeBuffer =>
    exact AdapterBme280.write_iff itsI2cDevice devAddress regAddress writeBuffer

end Transfer

/-- A forced conversion, whose raw values are 0 where nothing was read. -/
structure Conversion where
  transfers : List Transfer
  uncomp : Uncomp
  unread : (∀ transfer ∈ transfers, ¬ transfer.HasRead) → uncomp = ⟨0, 0, 0⟩

namespace Conversion

/-- What `bme280_get_forced_uncomp_pressure_temperature_humidity` returns and stores. -/
def forced (conversion : Conversion) : Int × Uncomp :=
  ((conversion.transfers.map Transfer.callback).sum.toInt, conversion.uncomp)

def Succeeded (conversion : Conversion) : Prop :=
  ∀ transfer ∈ conversion.transfers, transfer.Succeeded

instance (conversion : Conversion) : Decidable conversion.Succeeded :=
  inferInstanceAs (Decidable (∀ transfer ∈ conversion.transfers, transfer.Succeeded))

end Conversion

namespace Bme280Sensor

variable {τ : Type} (drv : Bme280Driver τ) (conversions : ℕ → Conversion) (sensor : Bme280Sensor)

/-- The driver on a bus on which the conversions go like this. -/
def busDriver : Bme280Driver τ :=
  { drv with getForcedUncomp := fun n => (conversions n).forced }

/-- The supported quantities of a request behind which the conversion succeeded, when `n`
conversions went before. -/
def succeeding : ℕ → List PhysQuantity → List PhysQuantity
  | _, [] => []
  | n, quantity :: quantities =>
    if quantity ∈ itsCapabilities ∧ (conversions n).Succeeded then
      quantity :: succeeding (n + 1) quantities
    else succeeding (n + 1) quantities

/-- A request has the readings of the conversions that succeeded and no others. -/
def ReadsSucceeding (quantities : List PhysQuantity) (data : List SgmProcessData)
    (s : Bme280State τ) : Prop :=
  ∃ new,
    (acquireQuantities (busDriver drv conversions) sensor quantities data s).1 = data ++ new ∧
      new.map SgmProcessData.physQuantityType =
        (succeeding conversions s.conversions quantities).map PhysQuantity.word

/-- The transfers of the conversions of a request, when `n` conversions went before. -/
def transfersOf (n : ℕ) (quantities : List PhysQuantity) : List Transfer :=
  (List.range quantities.length).flatMap fun k => (conversions (n + k)).transfers

/-- Failed transfers never become measurements: none is behind a reading, and a callback returns 0
exactly for a transfer that succeeded. -/
structure FailuresReported (quantities : List PhysQuantity) (data : List SgmProcessData)
    (s : Bme280State τ) : Prop where
  readings : ReadsSucceeding drv conversions sensor quantities data s
  callback : ∀ transfer ∈ transfersOf conversions s.conversions quantities,
    (transfer.callback = 0 ↔ transfer.Succeeded)

/-- Every conversion behind a supported quantity succeeded. -/
def AllSucceeded (n : ℕ) (quantities : List PhysQuantity) : Prop :=
  ∀ k quantity, quantities[k]? = some quantity → quantity ∈ itsCapabilities →
    (conversions (n + k)).Succeeded

theorem measure_quantity (quantity : PhysQuantity) (data : List SgmProcessData)
    (s : Bme280State τ) :
    ∃ new, (measure drv sensor quantity data s).1 = data ++ new ∧
      new.map SgmProcessData.physQuantityType =
        ([quantity].filter (· ∈ itsCapabilities)).map PhysQuantity.word := by
  cases quantity with
  | LIGHT => exact ⟨[], (List.append_nil _).symm, rfl⟩
  | PRESSURE | TEMPERATURE | HUMIDITY =>
    exact ⟨[(packet drv sensor ..).1], rfl,
      congrArg (· :: []) (SgmProcessData.physQuantityType_ofFields ..)⟩

/-- Whatever the conversions return, a request reads every supported quantity. -/
theorem acquireQuantities_quantities (quantities : List PhysQuantity)
    (data : List SgmProcessData) (s : Bme280State τ) :
    ∃ new, (acquireQuantities drv sensor quantities data s).1 = data ++ new ∧
      new.map SgmProcessData.physQuantityType =
        (quantities.filter (· ∈ itsCapabilities)).map PhysQuantity.word := by
  induction quantities generalizing data s with
  | nil => exact ⟨[], (List.append_nil _).symm, rfl⟩
  | cons quantity quantities ih =>
    obtain ⟨first, hfirst, hquantity⟩ := measure_quantity drv sensor quantity data s
    obtain ⟨rest, hrest, hquantities⟩ := ih (measure drv sensor quantity data s).1
      (measure drv sensor quantity data s).2
    refine ⟨first ++ rest, ?_, ?_⟩
    · rw [acquireQuantities, hrest, hfirst, List.append_assoc]
    · rw [List.map_append, hquantity, hquantities, ← List.map_append, ← List.filter_append,
        List.singleton_append]

variable {conversions}

theorem succeeding_sublist (n : ℕ) (quantities : List PhysQuantity) :
    (succeeding conversions n quantities).Sublist (quantities.filter (· ∈ itsCapabilities)) := by
  induction quantities generalizing n with
  | nil => exact List.Sublist.refl _
  | cons quantity quantities ih =>
    rw [succeeding, List.filter_cons]
    by_cases hquantity : quantity ∈ itsCapabilities
    · by_cases hconversion : (conversions n).Succeeded
      · simpa [hquantity, hconversion] using ih (n + 1)
      · simpa [hquantity, hconversion] using (ih (n + 1)).cons quantity
    · simpa [hquantity] using ih (n + 1)

theorem allSucceeded_cons (n : ℕ) (quantity : PhysQuantity) (quantities : List PhysQuantity) :
    AllSucceeded conversions n (quantity :: quantities) ↔
      (quantity ∈ itsCapabilities → (conversions n).Succeeded) ∧
        AllSucceeded conversions (n + 1) quantities := by
  constructor
  · intro h
    refine ⟨h 0 quantity rfl, fun k quantity' hget => ?_⟩
    rw [show n + 1 + k = n + (k + 1) by omega]
    exact h (k + 1) quantity' hget
  · rintro ⟨hfirst, hrest⟩ k quantity' hget
    cases k with
    | zero =>
      obtain rfl : quantity = quantity' := Option.some.inj hget
      exact hfirst
    | succ k =>
      rw [show n + (k + 1) = n + 1 + k by omega]
      exact hrest k quantity' hget

/-- Nothing is dropped if and only if every conversion behind a supported quantity succeeded. -/
theorem succeeding_eq_iff (n : ℕ) (quantities : List PhysQuantity) :
    succeeding conversions n quantities = quantities.filter (· ∈ itsCapabilities) ↔
      AllSucceeded conversions n quantities := by
  induction quantities generalizing n with
  | nil => simp [succeeding, AllSucceeded]
  | cons quantity quantities ih =>
    rw [allSucceeded_cons, ← ih, succeeding, List.filter_cons]
    by_cases hquantity : quantity ∈ itsCapabilities
    · by_cases hconversion : (conversions n).Succeeded
      · simp [hquantity, hconversion]
      · -- the reading that is to be dropped is one too many
        have hlength : (succeeding conversions (n + 1) quantities).length ≤
            (quantities.filter (· ∈ itsCapabilities)).length :=
          (succeeding_sublist (n + 1) quantities).length_le
        have hne : succeeding conversions (n + 1) quantities ≠
            quantity :: quantities.filter (· ∈ itsCapabilities) := by
          intro h
          rw [h, List.length_cons] at hlength
          omega
        simpa [hquantity, hconversion] using hne
    · simp [hquantity]

variable (conversions)

theorem readsSucceeding_iff (quantities : List PhysQuantity) (data : List SgmProcessData)
    (s : Bme280State τ) :
    ReadsSucceeding drv conversions sensor quantities data s ↔
      AllSucceeded conversions s.conversions quantities := by
  obtain ⟨new, hnew, hread⟩ :=
    acquireQuantities_quantities (busDriver drv conversions) sensor quantities data s
  rw [← succeeding_eq_iff]
  constructor
  · rintro ⟨new', hnew', hwords⟩
    obtain rfl := List.append_cancel_left (hnew.symm.trans hnew')
    exact PhysQuantity.word_injective.list_map (hwords.symm.trans hread)
  · intro h
    exact ⟨new, hnew, by rw [h, hread]⟩

/-- Failures are kept out of the measurements if and only if there are none, every conversion behind
a supported quantity having succeeded, and the callback tells the truth of the transfers that are
`Told`; the readings alone need the first, and the callback of any transfer the second. -/
theorem failuresReported_iff (quantities : List PhysQuantity) (data : List SgmProcessData)
    (s : Bme280State τ) :
    (FailuresReported drv conversions sensor quantities data s ↔
      AllSucceeded conversions s.conversions quantities ∧
        ∀ transfer ∈ transfersOf conversions s.conversions quantities, transfer.Told) ∧
    (ReadsSucceeding drv conversions sensor quantities data s ↔
      AllSucceeded conversions s.conversions quantities) ∧
    ∀ transfer : Transfer, (transfer.callback = 0 ↔ transfer.Succeeded) ↔ transfer.Told := by
  have hreadings := readsSucceeding_iff drv conversions sensor quantities data s
  refine ⟨?_, hreadings, Transfer.callback_iff⟩
  simp only [← Transfer.callback_iff, ← hreadings]
  exact ⟨fun h => ⟨h.readings, h.callback⟩, fun h => ⟨h.1, h.2⟩⟩

/-! ## A device that is pulled off -/

/-- Nothing answers any more. -/
def deadBus : I2c where
  readBytesReg _ _ _ := -1
  write _ _ := 99
  readBytesReg_count _ _ _ := .inl rfl

/-- Everything answers. -/
def soundBus : I2c where
  readBytesReg _ _ length := length.toNat
  write _ _ := 0
  readBytesReg_count _ _ _ := .inr ⟨Int.natCast_nonneg _, Int.le_refl _⟩

/-- The requests of a forced conversion out of the sleep mode. -/
def forcedRequests : List BusRequest :=
  [.read 0x76 0xF4 1, .write 0x76 0xF2 [1], .write 0x76 0xF4 [0x6D], .read 0x76 0xF7 8,
    .read 0x76 0xF2 1, .read 0x76 0xF5 1, .read 0x76 0xF4 1]

/-- A conversion without a device. -/
def pulledOff : Conversion where
  transfers := forcedRequests.map (Transfer.mk deadBus)
  uncomp := ⟨0, 0, 0⟩
  unread _ := rfl

/-- A conversion in which everything answers. -/
def answered : Conversion where
  transfers := forcedRequests.map (Transfer.mk soundBus)
  uncomp := someUncomp
  unread h := absurd (by decide : (0 : Int) < 1) (h _ List.mem_cons_self)

/-- Without a device the temperature is measured all the same, though every callback of the
conversion tells a failure; and with one the callback of a read that brings all bytes tells one
too. -/
theorem pulledOff_measured :
    (∀ transfer ∈ pulledOff.transfers, transfer.callback ≠ 0) ∧
      ¬ FailuresReported someDriver (fun _ => pulledOff) airSensor [.TEMPERATURE] [] ⟨0, 0, 0⟩ ∧
      ¬ FailuresReported someDriver (fun _ => answered) airSensor [.TEMPERATURE] []
        ⟨0, 0, 0⟩ := by
  refine ⟨by decide, fun h => ?_, fun h => ?_⟩
  · have hsucceeded := (readsSucceeding_iff ..).1 h.readings
    exact absurd (hsucceeded 0 .TEMPERATURE rfl (by decide)) (by decide)
  · have hcallback := h.callback ⟨soundBus, .read 0x76 0xF7 8⟩
      (List.mem_flatMap.2 ⟨0, by decide, by simp [answered, forcedRequests]⟩)
    exact absurd (hcallback.2 rfl) (by decide)

end Bme280Sensor

end SgmDevice
