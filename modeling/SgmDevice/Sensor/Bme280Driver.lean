import Mathlib.Data.List.Basic

/-!
# The driver of the BME280

The compensations of `bme280.c` for 32 bits.  The signed arithmetic wraps around where C leaves an
overflow undefined.
-/

namespace SgmDevice

/-- The raw values of one conversion. -/
structure Uncomp where
  pressure : Int32
  temperature : Int32
  humidity : Int32
  deriving DecidableEq, Repr

/-- The driver, the device and the clock: what each conversion returns and stores, the
compensations, of which the one of the temperature also gives the new fine temperature `τ`, and what
`std::time` answers. -/
structure Bme280Driver (τ : Type) where
  getForcedUncomp : ℕ → Int × Uncomp
  compensateTemperatureInt32 : Int32 → Int32 × τ
  compensatePressureInt32 : Int32 → τ → UInt32
  compensateHumidityInt32 : Int32 → τ → UInt32
  time : ℕ → UInt32

namespace Bme280Driver

/-- `bme280_calibration_param_t` without `t_fine`. -/
structure CalParam where
  dig_T1 : UInt16
  dig_T2 : Int16
  dig_T3 : Int16
  dig_P1 : UInt16
  dig_P2 : Int16
  dig_P3 : Int16
  dig_P4 : Int16
  dig_P5 : Int16
  dig_P6 : Int16
  dig_P7 : Int16
  dig_P8 : Int16
  dig_P9 : Int16
  dig_H1 : UInt8
  dig_H2 : Int16
  dig_H3 : UInt8
  dig_H4 : Int16
  dig_H5 : Int16
  dig_H6 : Int8

def BME280_INVALID_DATA : UInt32 := 0

namespace CalParam

variable (cal : CalParam)

/-- `bme280_compensate_temperature_int32`, with the `t_fine` that it sets. -/
def compensateTemperatureInt32 (uncomp : Int32) : Int32 × Int32 :=
  let dig_T1 := cal.dig_T1.toUInt32.toInt32
  let x1 := (((uncomp >>> 3) - (dig_T1 <<< 1)) * cal.dig_T2.toInt32) >>> 11
  let x2 := (((((uncomp >>> 4) - dig_T1) * ((uncomp >>> 4) - dig_T1)) >>> 12) *
    cal.dig_T3.toInt32) >>> 14
  let t_fine := x1 + x2
  ((t_fine * 5 + 128) >>> 8, t_fine)

/-- `bme280_compensate_pressure_int32`. -/
def compensatePressureInt32 (uncomp t_fine : Int32) : UInt32 :=
  let x1 := (t_fine >>> 1) - 64000
  let x2 := (((x1 >>> 2) * (x1 >>> 2)) >>> 11) * cal.dig_P6.toInt32
  let x2 := x2 + ((x1 * cal.dig_P5.toInt32) <<< 1)
  let x2 := (x2 >>> 2) + (cal.dig_P4.toInt32 <<< 16)
  let x1 := (((cal.dig_P3.toInt32 * (((x1 >>> 2) * (x1 >>> 2)) >>> 13)) >>> 3) +
    ((cal.dig_P2.toInt32 * x1) >>> 1)) >>> 18
  let x1 := ((32768 + x1) * cal.dig_P1.toUInt32.toInt32) >>> 15
  let pressure := ((1048576 - uncomp).toUInt32 - (x2 >>> 12).toUInt32) * 3125
  -- the source tests for the division by zero in each of the two branches
  if x1 = 0 then BME280_INVALID_DATA else
  let pressure := if pressure < 0x80000000 then (pressure <<< 1) / x1.toUInt32
    else (pressure / x1.toUInt32) * 2
  let x1 := (cal.dig_P9.toInt32 *
    (((pressure >>> 3) * (pressure >>> 3)) >>> 13).toInt32) >>> 12
  let x2 := ((pressure >>> 2).toInt32 * cal.dig_P8.toInt32) >>> 13
  (pressure.toInt32 + ((x1 + x2 + cal.dig_P7.toInt32) >>> 4)).toUInt32

/-- `bme280_compensate_humidity_int32`. -/
def compensateHumidityInt32 (uncomp t_fine : Int32) : UInt32 :=
  let x1 := t_fine - 76800
  let x1 := (((uncomp <<< 14) - (cal.dig_H4.toInt32 <<< 20) - (cal.dig_H5.toInt32 * x1) +
    16384) >>> 15) *
    (((((((x1 * cal.dig_H6.toInt32) >>> 10) *
      (((x1 * cal.dig_H3.toUInt32.toInt32) >>> 11) + 32768)) >>> 10) + 2097152) *
      cal.dig_H2.toInt32 + 8192) >>> 14)
  let x1 := x1 - (((((x1 >>> 15) * (x1 >>> 15)) >>> 7) * cal.dig_H1.toUInt32.toInt32) >>> 4)
  let x1 := if x1 < 0 then 0 else x1
  let x1 := if x1 > 419430400 then 419430400 else x1
  (x1 >>> 12).toUInt32

/-- The driver with these parameters. -/
def driver (getForcedUncomp : ℕ → Int × Uncomp) (time : ℕ → UInt32) : Bme280Driver Int32 where
  getForcedUncomp
  compensateTemperatureInt32 := cal.compensateTemperatureInt32
  compensatePressureInt32 := cal.compensatePressureInt32
  compensateHumidityInt32 := cal.compensateHumidityInt32
  time

theorem toInt_shiftRight (x : Int32) : (x >>> 12).toInt = x.toInt / 4096 := by
  have hbits : (x >>> 12).toBitVec = x.toBitVec.sshiftRight 12 := by
    rw [Int32.toBitVec_shiftRight]
    rfl
  rw [← Int32.toInt_toBitVec, hbits, BitVec.toInt_sshiftRight, Int32.toInt_toBitVec,
    Int.shiftRight_eq_div_pow]
  rfl

theorem toUInt32_shiftRight_le {x : Int32} (hlow : 0 ≤ x) (hhigh : x ≤ 419430400) :
    (x >>> 12).toUInt32 ≤ 102400 := by
  rw [Int32.le_iff_toInt_le] at hlow hhigh
  have hlow' : (0 : Int32) ≤ x >>> 12 := by
    rw [Int32.le_iff_toInt_le, toInt_shiftRight]
    exact Int.ediv_nonneg hlow (by decide)
  have hhigh' : x >>> 12 ≤ 102400 := by
    rw [Int32.le_iff_toInt_le, toInt_shiftRight]
    exact Int.ediv_le_ediv (b := 419430400) (by decide) hhigh
  exact Int32.toUInt32_le hlow' hhigh'

/-- The humidity is at most 100 %, in the units of `humidityDivider`. -/
theorem compensateHumidityInt32_le (uncomp t_fine : Int32) :
    cal.compensateHumidityInt32 uncomp t_fine ≤ 102400 := by
  unfold compensateHumidityInt32
  extract_lets _ _ x positive clamped
  have hpositive : 0 ≤ positive := by
    unfold positive
    split
    · exact Int32.le_refl 0
    · exact Int32.not_lt.1 ‹_›
  have hclamped : 0 ≤ clamped ∧ clamped ≤ 419430400 := by
    unfold clamped
    split
    · decide
    · exact ⟨hpositive, Int32.not_lt.1 ‹_›⟩
  exact toUInt32_shiftRight_le hclamped.1 hclamped.2

/-- A calibration of the size that devices have. -/
def usual : CalParam where
  dig_T1 := 27504
  dig_T2 := 26435
  dig_T3 := -1000
  dig_P1 := 36477
  dig_P2 := -10685
  dig_P3 := 3024
  dig_P4 := 2855
  dig_P5 := 140
  dig_P6 := -7
  dig_P7 := 15500
  dig_P8 := -14600
  dig_P9 := 6000
  dig_H1 := 75
  dig_H2 := 370
  dig_H3 := 0
  dig_H4 := 313
  dig_H5 := 50
  dig_H6 := 30

end CalParam

end Bme280Driver

end SgmDevice
