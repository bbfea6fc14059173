import SgmDevice.Arith.Wrapping
import SgmDevice.Sensor.Bme280Driver

/-!
# Compensations that do not overflow

The compensations of `bme280.c` are written for signed integers of 32 bits, in which C leaves an
overflow undefined.  Whether a calibration can make one overflow is decided from the bounds of the
raw values; if not, the compensations are the formulas in the integers (`compensations_exact`).
-/

namespace SgmDevice

open Arith (Bounds Expr)

namespace Bme280Driver

/-- What the compensations depend on beside the calibration. -/
inductive Raw where
  | uncomp
  | t_fine
  deriving DecidableEq, Repr

/-- The raw value and the fine temperature. -/
def rawOf {α : Type} (uncomp t_fine : α) : Raw → α
  | .uncomp => uncomp
  | .t_fine => t_fine

namespace CalParam

variable (cal : CalParam)

/-! ## The compensations as expressions -/

/-- `t_fine`. -/
def fineExpr : Expr Raw :=
  let uncomp : Expr Raw := .var .uncomp
  let dig_T1 : Expr Raw := .const cal.dig_T1.toUInt32.toInt32
  let dig_T2 : Expr Raw := .const cal.dig_T2.toInt32
  let dig_T3 : Expr Raw := .const cal.dig_T3.toInt32
  let x1 := (((uncomp >>> 3) - (dig_T1 <<< 1)) * dig_T2) >>> 11
  let x2 := (((((uncomp >>> 4) - dig_T1) * ((uncomp >>> 4) - dig_T1)) >>> 12) * dig_T3) >>> 14
  x1 + x2

def temperatureExpr : Expr Raw := (cal.fineExpr * 5 + 128) >>> 8

/-- The humidity before it is limited. -/
def humidityExpr : Expr Raw :=
  let uncomp : Expr Raw := .var .uncomp
  let t_fine : Expr Raw := .var .t_fine
  let dig_H1 : Expr Raw := .const cal.dig_H1.toUInt32.toInt32
  let dig_H2 : Expr Raw := .const cal.dig_H2.toInt32
  let dig_H3 : Expr Raw := .const cal.dig_H3.toUInt32.toInt32
  let dig_H4 : Expr Raw := .const cal.dig_H4.toInt32
  let dig_H5 : Expr Raw := .const cal.dig_H5.toInt32
  let dig_H6 : Expr Raw := .const cal.dig_H6.toInt32
  let x1 := t_fine - 76800
  let x1 := (((uncomp <<< 14) - (dig_H4 <<< 20) - (dig_H5 * x1) + 16384) >>> 15) *
    (((((((x1 * dig_H6) >>> 10) * (((x1 * dig_H3) >>> 11) + 32768)) >>> 10) + 2097152) * dig_H2 +
      8192) >>> 14)
  x1 - (((((x1 >>> 15) * (x1 >>> 15)) >>> 7) * dig_H1) >>> 4)

/-- What the uncompensated pressure is taken from. -/
def fallExpr : Expr Raw := 1048576 - .var .uncomp

/-- The last `x2` in front of the division. -/
def offsetExpr : Expr Raw :=
  let t_fine : Expr Raw := .var .t_fine
  let dig_P4 : Expr Raw := .const cal.dig_P4.toInt32
  let dig_P5 : Expr Raw := .const cal.dig_P5.toInt32
  let dig_P6 : Expr Raw := .const cal.dig_P6.toInt32
  let x1 := (t_fine >>> 1) - 64000
  let x2 := (((x1 >>> 2) * (x1 >>> 2)) >>> 11) * dig_P6
  let x2 := x2 + ((x1 * dig_P5) <<< 1)
  (x2 >>> 2) + (dig_P4 <<< 16)

/-- The divisor. -/
def divisorExpr : Expr Raw :=
  let t_fine : Expr Raw := .var .t_fine
  let dig_P1 : Expr Raw := .const cal.dig_P1.toUInt32.toInt32
  let dig_P2 : Expr Raw := .const cal.dig_P2.toInt32
  let dig_P3 : Expr Raw := .const cal.dig_P3.toInt32
  let x1 := (t_fine >>> 1) - 64000
  let x1 := (((dig_P3 * (((x1 >>> 2) * (x1 >>> 2)) >>> 13)) >>> 3) + ((dig_P2 * x1) >>> 1)) >>> 18
  ((32768 + x1) * dig_P1) >>> 15

/-- The values behind the division that the result depends on. -/
inductive Divided where
  | pressure
  | square
  | quarter
  deriving DecidableEq, Repr

def dividedOf {α : Type} (pressure square quarter : α) : Divided → α
  | .pressure => pressure
  | .square => square
  | .quarter => quarter

def pressureExpr : Expr Divided :=
  let pressure : Expr Divided := .var .pressure
  let dig_P7 : Expr Divided := .const cal.dig_P7.toInt32
  let dig_P8 : Expr Divided := .const cal.dig_P8.toInt32
  let dig_P9 : Expr Divided := .const cal.dig_P9.toInt32
  let x1 := (dig_P9 * .var .square) >>> 12
  let x2 := (.var .quarter * dig_P8) >>> 13
  pressure + ((x1 + x2 + dig_P7) >>> 4)

/-- The unsigned arithmetic of the pressure. -/
def scaled (fall x2 : Int32) : UInt32 := (fall.toUInt32 - (x2 >>> 12).toUInt32) * 3125

def divided (pressure : UInt32) (x1 : Int32) : UInt32 :=
  if pressure < 0x80000000 then (pressure <<< 1) / x1.toUInt32 else (pressure / x1.toUInt32) * 2

def dividedInt32 (pressure : UInt32) : Divided → Int32 :=
  dividedOf pressure.toInt32 (((pressure >>> 3) * (pressure >>> 3)) >>> 13).toInt32
    (pressure >>> 2).toInt32

theorem pressure_wrapped (uncomp t_fine : Int32) :
    cal.compensatePressureInt32 uncomp t_fine =
      let env := rawOf uncomp t_fine
      let x1 := cal.divisorExpr.wrapped env
      if x1 = 0 then BME280_INVALID_DATA
      else (cal.pressureExpr.wrapped (dividedInt32
        (divided (scaled (fallExpr.wrapped env) (cal.offsetExpr.wrapped env)) x1))).toUInt32 := rfl

theorem temperature_wrapped (uncomp t_fine : Int32) :
    cal.compensateTemperatureInt32 uncomp =
      (cal.temperatureExpr.wrapped (rawOf uncomp t_fine),
        cal.fineExpr.wrapped (rawOf uncomp t_fine)) := rfl

/-- The limits of the humidity. -/
def limited (x1 : Int32) : UInt32 :=
  let x1 := if x1 < 0 then 0 else x1
  let x1 := if x1 > 419430400 then 419430400 else x1
  (x1 >>> 12).toUInt32

theorem humidity_wrapped (uncomp t_fine : Int32) :
    cal.compensateHumidityInt32 uncomp t_fine =
      limited (cal.humidityExpr.wrapped (rawOf uncomp t_fine)) := rfl

/-! ## The compensations in the integers -/

def exactFine (uncomp : ℤ) : ℤ :=
  let dig_T1 : ℤ := cal.dig_T1.toNat
  (uncomp / 8 - dig_T1 * 2) * cal.dig_T2.toInt / 2048 +
    (uncomp / 16 - dig_T1) * (uncomp / 16 - dig_T1) / 4096 * cal.dig_T3.toInt / 16384

def exactTemperature (uncomp : ℤ) : ℤ := (cal.exactFine uncomp * 5 + 128) / 256

def exactHumidity (uncomp t_fine : ℤ) : ℤ :=
  let x1 := t_fine - 76800
  let x1 := (uncomp * 16384 - cal.dig_H4.toInt * 1048576 - cal.dig_H5.toInt * x1 + 16384) / 32768 *
    (((x1 * cal.dig_H6.toInt / 1024 * (x1 * cal.dig_H3.toNat / 2048 + 32768) / 1024 + 2097152) *
      cal.dig_H2.toInt + 8192) / 16384)
  let x1 := x1 - x1 / 32768 * (x1 / 32768) / 128 * cal.dig_H1.toNat / 16
  min 419430400 (max 0 x1) / 4096

/-- The divisor of the pressure and what is taken from it. -/
def exactDivisor (t_fine : ℤ) : ℤ :=
  let x1 := t_fine / 2 - 64000
  let x1 := (cal.dig_P3.toInt * (x1 / 4 * (x1 / 4) / 8192) / 8 + cal.dig_P2.toInt * x1 / 2) / 262144
  (32768 + x1) * cal.dig_P1.toNat / 32768

def exactOffset (t_fine : ℤ) : ℤ :=
  let x1 := t_fine / 2 - 64000
  let x2 := x1 / 4 * (x1 / 4) / 2048 * cal.dig_P6.toInt
  let x2 := x2 + x1 * cal.dig_P5.toInt * 2
  x2 / 4 + cal.dig_P4.toInt * 65536

/-- The quotient, which loses its last bit where the doubled dividend has more than 32. -/
def quotient (dividend divisor : ℤ) : ℤ :=
  if dividend < 2147483648 then dividend * 2 / divisor else dividend / divisor * 2

def exactPressure (uncomp t_fine : ℤ) : ℤ :=
  let pressure := quotient ((1048576 - uncomp - cal.exactOffset t_fine / 4096) * 3125)
    (cal.exactDivisor t_fine)
  let x1 := cal.dig_P9.toInt * (pressure / 8 * (pressure / 8) / 8192) / 4096
  let x2 := pressure / 4 * cal.dig_P8.toInt / 8192
  pressure + (x1 + x2 + cal.dig_P7.toInt) / 16

theorem toInt_word (x : UInt16) : x.toUInt32.toInt32.toInt = x.toNat := by
  have hx := x.toNat_lt
  change (x.toBitVec.setWidth 32).toInt = (x.toBitVec.toNat : ℤ)
  rw [BitVec.toInt_eq_toNat_cond, BitVec.toNat_setWidth, UInt16.toNat_toBitVec]
  split <;> omega

theorem toInt_byte (x : UInt8) : x.toUInt32.toInt32.toInt = x.toNat := by
  have hx := x.toNat_lt
  change (x.toBitVec.setWidth 32).toInt = (x.toBitVec.toNat : ℤ)
  rw [BitVec.toInt_eq_toNat_cond, BitVec.toNat_setWidth, UInt8.toNat_toBitVec]
  split <;> omega

theorem exact_fineExpr (v : Raw → ℤ) : cal.fineExpr.exact v = cal.exactFine (v .uncomp) := by
  rw [exactFine, ← toInt_word, ← Int16.toInt_toInt32, ← Int16.toInt_toInt32]
  rfl

theorem exact_temperatureExpr (v : Raw → ℤ) :
    cal.temperatureExpr.exact v = cal.exactTemperature (v .uncomp) := by
  rw [exactTemperature, ← exact_fineExpr]
  rfl

theorem exact_humidityExpr (v : Raw → ℤ) :
    min 419430400 (max 0 (cal.humidityExpr.exact v)) / 4096 =
      cal.exactHumidity (v .uncomp) (v .t_fine) := by
  rw [exactHumidity, ← toInt_byte, ← toInt_byte, ← Int16.toInt_toInt32, ← Int16.toInt_toInt32,
    ← Int16.toInt_toInt32, ← Int8.toInt_toInt32]
  rfl

theorem exact_divisorExpr (v : Raw → ℤ) :
    cal.divisorExpr.exact v = cal.exactDivisor (v .t_fine) := by
  rw [exactDivisor, ← toInt_word, ← Int16.toInt_toInt32, ← Int16.toInt_toInt32]
  rfl

theorem exact_offsetExpr (v : Raw → ℤ) :
    cal.offsetExpr.exact v = cal.exactOffset (v .t_fine) := by
  rw [exactOffset, ← Int16.toInt_toInt32, ← Int16.toInt_toInt32, ← Int16.toInt_toInt32]
  rfl

/-- The values of which the pressure is made in the integers. -/
def exactDivided (pressure : ℤ) : Divided → ℤ :=
  dividedOf pressure (pressure / 8 * (pressure / 8) / 8192) (pressure / 4)

theorem exact_pressureExpr (uncomp t_fine : ℤ) :
    cal.pressureExpr.exact (exactDivided (quotient
      ((1048576 - uncomp - cal.exactOffset t_fine / 4096) * 3125) (cal.exactDivisor t_fine))) =
        cal.exactPressure uncomp t_fine := by
  rw [exactPressure, ← Int16.toInt_toInt32, ← Int16.toInt_toInt32, ← Int16.toInt_toInt32]
  rfl

theorem toNat_shifted {x1 : Int32} (h : 0 ≤ x1) :
    ((x1 >>> 12).toUInt32.toNat : ℤ) = x1.toInt / 4096 := by
  rw [Int32.le_iff_toInt_le] at h
  have hshifted : 0 ≤ (x1 >>> 12).toInt := by
    rw [toInt_shiftRight]
    exact Int.ediv_nonneg h (by decide)
  rw [Int32.toNat_toUInt32_of_le (Int32.le_iff_toInt_le.2 hshifted), ← toInt_shiftRight]
  exact Int.toNat_of_nonneg hshifted

theorem limited_eq (x1 : Int32) :
    ((limited x1).toNat : ℤ) = min 419430400 (max 0 x1.toInt) / 4096 := by
  unfold limited
  dsimp only
  split_ifs with hneg hbig hbig
  · exact absurd hbig (by decide)
  · have hneg' : x1.toInt < 0 := Int32.lt_iff_toInt_lt.1 hneg
    rw [max_eq_left hneg'.le]
    rfl
  · have hbig' : 419430400 < x1.toInt := Int32.lt_iff_toInt_lt.1 hbig
    rw [max_eq_right (by omega), min_eq_left hbig'.le]
    rfl
  · have hlow : 0 ≤ x1.toInt := Int32.le_iff_toInt_le.1 (Int32.not_lt.1 hneg)
    have hhigh : x1.toInt ≤ 419430400 := Int32.le_iff_toInt_le.1 (Int32.not_lt.1 hbig)
    rw [max_eq_right hlow, min_eq_right hhigh]
    exact toNat_shifted (Int32.not_lt.1 hneg)

/-! ## The unsigned arithmetic -/

theorem toInt_toInt32_of_lt {x : UInt32} (h : x.toNat < 2147483648) :
    x.toInt32.toInt = x.toNat := by
  change x.toBitVec.toInt = (x.toBitVec.toNat : ℤ)
  change x.toBitVec.toNat < 2147483648 at h
  rw [BitVec.toInt_eq_toNat_cond]
  split <;> omega

theorem toNat_toUInt32_of_nonneg {x : Int32} (h : 0 ≤ x.toInt) :
    (x.toUInt32.toNat : ℤ) = x.toInt := by
  rw [Int32.toNat_toUInt32_of_le (Int32.le_iff_toInt_le.2 h)]
  exact Int.toNat_of_nonneg h

theorem toNat_scaled {fall x2 : Int32} (hlow : 0 ≤ fall.toInt - x2.toInt / 4096)
    (hhigh : fall.toInt - x2.toInt / 4096 ≤ 1374389) :
    ((scaled fall x2).toNat : ℤ) = (fall.toInt - x2.toInt / 4096) * 3125 := by
  have hdifference : (fall - (x2 >>> 12)).toInt = fall.toInt - x2.toInt / 4096 := by
    rw [Int32.toInt_sub, toInt_shiftRight]
    exact Expr.bmod_of_mem ⟨by change -2147483648 ≤ _; omega, by change _ ≤ 2147483647; omega⟩
  have hunsigned := toNat_toUInt32_of_nonneg (hdifference ▸ hlow)
  rw [hdifference, Int32.toUInt32_sub] at hunsigned
  rw [scaled, UInt32.toNat_mul, ← hunsigned]
  rw [← hunsigned] at hhigh
  change ((_ * 3125 % 4294967296 : ℕ) : ℤ) = _
  omega

theorem toNat_doubled {x : UInt32} (h : x.toNat < 2147483648) : (x <<< 1).toNat = x.toNat * 2 := by
  rw [UInt32.toNat_shiftLeft, Nat.shiftLeft_eq]
  change x.toNat * 2 % 4294967296 = _
  omega

theorem toNat_divided {pressure : UInt32} {x1 : Int32} (h : 2 ≤ x1.toInt) :
    ((divided pressure x1).toNat : ℤ) = quotient pressure.toNat x1.toInt := by
  have hx1 : (x1.toUInt32.toNat : ℤ) = x1.toInt := toNat_toUInt32_of_nonneg (by omega)
  have hsmall : pressure < 0x80000000 ↔ (pressure.toNat : ℤ) < 2147483648 :=
    UInt32.lt_iff_toNat_lt.trans Int.ofNat_lt.symm
  rw [divided, quotient, ← hx1]
  by_cases hp : pressure < 0x80000000
  · rw [if_pos hp, if_pos (hsmall.1 hp), UInt32.toNat_div,
      toNat_doubled (UInt32.lt_iff_toNat_lt.1 hp)]
    rfl
  · have hhalf : pressure.toNat / x1.toUInt32.toNat ≤ pressure.toNat / 2 :=
      Nat.div_le_div_left (by omega) (by decide)
    have hbound := pressure.toNat_lt
    rw [if_neg hp, if_neg (fun hlt => hp (hsmall.2 hlt)), UInt32.toNat_mul, UInt32.toNat_div]
    change ((_ * 2 % 4294967296 : ℕ) : ℤ) = _
    rw [Nat.mod_eq_of_lt (by omega)]
    rfl

theorem toNat_eighth (x : UInt32) : (x >>> 3).toNat = x.toNat / 8 := by
  rw [UInt32.toNat_shiftRight, Nat.shiftRight_eq_div_pow]
  rfl

theorem toInt_dividedInt32 {pressure : UInt32} (h : pressure.toNat ≤ 524287) (i : Divided) :
    (dividedInt32 pressure i).toInt = exactDivided pressure.toNat i := by
  cases i with
  | pressure => exact toInt_toInt32_of_lt (by omega)
  | square =>
    have heighth : pressure.toNat / 8 ≤ 65535 := by omega
    have hle : pressure.toNat / 8 * (pressure.toNat / 8) ≤ 65535 * 65535 :=
      Nat.mul_le_mul heighth heighth
    have hsquare : ((pressure >>> 3) * (pressure >>> 3)).toNat =
        pressure.toNat / 8 * (pressure.toNat / 8) := by
      rw [UInt32.toNat_mul, toNat_eighth]
      exact Nat.mod_eq_of_lt (by omega)
    have hshifted : (((pressure >>> 3) * (pressure >>> 3)) >>> 13).toNat =
        pressure.toNat / 8 * (pressure.toNat / 8) / 8192 := by
      rw [UInt32.toNat_shiftRight, Nat.shiftRight_eq_div_pow, hsquare]
      rfl
    refine (toInt_toInt32_of_lt (by omega)).trans ?_
    rw [hshifted]
    rfl
  | quarter =>
    have hshifted : (pressure >>> 2).toNat = pressure.toNat / 4 := by
      rw [UInt32.toNat_shiftRight, Nat.shiftRight_eq_div_pow]
      rfl
    refine (toInt_toInt32_of_lt (by omega)).trans ?_
    rw [hshifted]
    rfl

theorem quotient_nonneg {dividend divisor : ℤ} (hdividend : 0 ≤ dividend) (hdivisor : 0 < divisor) :
    0 ≤ quotient dividend divisor := by
  unfold quotient
  split_ifs
  · exact Int.ediv_nonneg (by omega) hdivisor.le
  · exact Int.mul_nonneg (Int.ediv_nonneg hdividend hdivisor.le) (by decide)

theorem quotient_le {dividend divisor high low : ℤ} (hdividend : 0 ≤ dividend)
    (hhigh : dividend * 2 ≤ high) (hlow : 0 < low) (hdivisor : low ≤ divisor) :
    quotient dividend divisor ≤ high / low := by
  have hpos : 0 < divisor := by omega
  have hnonneg := quotient_nonneg hdividend hpos
  have hback : quotient dividend divisor * divisor ≤ dividend * 2 := by
    unfold quotient
    split_ifs
    · exact Int.ediv_mul_le _ hpos.ne'
    · have hfloor := Int.ediv_mul_le dividend hpos.ne'
      rw [Int.mul_right_comm]
      omega
  apply Int.le_ediv_of_mul_le hlow
  calc quotient dividend divisor * low
      ≤ quotient dividend divisor * divisor := Int.mul_le_mul_of_nonneg_left hdivisor hnonneg
    _ ≤ dividend * 2 := hback
    _ ≤ high := hhigh

/-! ## Calibrations without an overflow -/

/-- Bounds of the values behind the division. -/
def dividedBounds (highest : ℤ) : Divided → Bounds :=
  dividedOf ⟨0, highest⟩ ⟨0, highest / 8 * (highest / 8) / 8192⟩ ⟨0, highest / 4⟩

theorem mem_dividedBounds {pressure highest : ℤ} (hlow : 0 ≤ pressure) (hhigh : pressure ≤ highest)
    (i : Divided) : (dividedBounds highest i).Mem (exactDivided pressure i) := by
  have heighth : 0 ≤ pressure / 8 := Int.ediv_nonneg hlow (by decide)
  have hle : pressure / 8 ≤ highest / 8 := Int.ediv_le_ediv (by decide) hhigh
  cases i with
  | pressure => exact ⟨hlow, hhigh⟩
  | square =>
    have hsquare := Int.mul_le_mul hle hle heighth (heighth.trans hle)
    exact ⟨Int.ediv_nonneg (Int.mul_nonneg heighth heighth) (by decide),
      Int.ediv_le_ediv (by decide) hsquare⟩
  | quarter => exact ⟨Int.ediv_nonneg hlow (by decide), Int.ediv_le_ediv (by decide) hhigh⟩

/-- No raw pressure and fine temperature between these bounds make the pressure overflow. -/
def pressureFree (uncomp t_fine : Bounds) : Bool :=
  let v := rawOf uncomp t_fine
  match fallExpr.bounds v, cal.offsetExpr.bounds v, cal.divisorExpr.bounds v with
  | some fall, some offset, some divisor =>
    let difference := fall.sub (offset.divide 4096)
    let highest := difference.high * 6250 / divisor.low
    0 ≤ difference.low && difference.high ≤ 1374389 && 2 ≤ divisor.low && highest ≤ 524287 &&
      (cal.pressureExpr.bounds (dividedBounds highest)).isSome
  | _, _, _ => false

/-- No signed operation of the pressure overflows. -/
structure PressureFits (uncomp t_fine : ℤ) : Prop where
  fall : fallExpr.Fits (rawOf uncomp t_fine)
  offset : cal.offsetExpr.Fits (rawOf uncomp t_fine)
  divisor : cal.divisorExpr.Fits (rawOf uncomp t_fine)
  pressure : cal.pressureExpr.Fits (exactDivided (quotient
    ((1048576 - uncomp - cal.exactOffset t_fine / 4096) * 3125) (cal.exactDivisor t_fine)))

theorem rawExpr_exact {e : Expr Raw} {b c r : Bounds} (h : e.bounds (rawOf b c) = some r)
    {x y : Int32} (hx : b.Mem x.toInt) (hy : c.Mem y.toInt) :
    e.Fits (rawOf x.toInt y.toInt) ∧ r.Mem (e.exact (rawOf x.toInt y.toInt)) ∧
      (e.wrapped (rawOf x y)).toInt = e.exact (rawOf x.toInt y.toInt) := by
  have henv : (fun i => (rawOf x y i).toInt) = rawOf x.toInt y.toInt := by
    funext i
    cases i <;> rfl
  have hmem : ∀ i, (rawOf b c i).Mem (rawOf x y i).toInt := by
    intro i
    cases i with
    | uncomp => exact hx
    | t_fine => exact hy
  rw [← henv]
  exact Expr.exact_of_bounds hmem h

/-- What is divided, and how large it is at most. -/
theorem toNat_divided_scaled {fall x2 x1 : Int32} {difference : Bounds} {low : ℤ}
    (hdifference : difference.Mem (fall.toInt - x2.toInt / 4096)) (hlow : 0 ≤ difference.low)
    (hhigh : difference.high ≤ 1374389) (htwo : 2 ≤ low) (hx1 : low ≤ x1.toInt) :
    ((divided (scaled fall x2) x1).toNat : ℤ) =
        quotient ((fall.toInt - x2.toInt / 4096) * 3125) x1.toInt ∧
      ((divided (scaled fall x2) x1).toNat : ℤ) ≤ difference.high * 6250 / low := by
  obtain ⟨hmemlow, hmemhigh⟩ := hdifference
  have hdivided := @toNat_divided (scaled fall x2) x1 (htwo.trans hx1)
  rw [toNat_scaled (hlow.trans hmemlow) (hmemhigh.trans hhigh)] at hdivided
  refine ⟨hdivided, ?_⟩
  rw [hdivided]
  exact quotient_le (by omega) (by omega) (by omega) hx1

theorem pressure_exact {b c : Bounds} (h : cal.pressureFree b c = true) {uncomp t_fine : Int32}
    (huncomp : b.Mem uncomp.toInt) (hfine : c.Mem t_fine.toInt) :
    cal.PressureFits uncomp.toInt t_fine.toInt ∧
      (cal.compensatePressureInt32 uncomp t_fine).toInt32.toInt =
        cal.exactPressure uncomp.toInt t_fine.toInt := by
  unfold pressureFree at h
  dsimp only at h
  split at h
  next fall offset divisor hfall hoffset hdivisor =>
    simp only [Bool.and_eq_true, decide_eq_true_eq] at h
    obtain ⟨⟨⟨⟨hlow, hhigh⟩, htwo⟩, hhighest⟩, hbounds⟩ := h
    obtain ⟨fallFits, fallMem, fallEq⟩ := rawExpr_exact hfall huncomp hfine
    obtain ⟨offsetFits, offsetMem, offsetEq⟩ := rawExpr_exact hoffset huncomp hfine
    obtain ⟨divisorFits, divisorMem, divisorEq⟩ := rawExpr_exact hdivisor huncomp hfine
    obtain ⟨r, hr⟩ := Option.isSome_iff_exists.1 hbounds
    have hdifference :=
      Bounds.mem_sub fallMem (Bounds.mem_divide offsetMem (show 0 < 4096 by decide))
    rw [exact_offsetExpr] at offsetEq hdifference
    rw [exact_divisorExpr] at divisorEq divisorMem
    rw [← offsetEq, ← fallEq] at hdifference
    rw [← divisorEq] at divisorMem
    obtain ⟨hquotient, hle⟩ := toNat_divided_scaled hdifference hlow hhigh htwo divisorMem.1
    have hfallen : fallExpr.exact (rawOf uncomp.toInt t_fine.toInt) = 1048576 - uncomp.toInt := rfl
    rw [fallEq, offsetEq, divisorEq, hfallen] at hquotient
    have hnonzero : cal.divisorExpr.wrapped (rawOf uncomp t_fine) ≠ 0 := by
      intro hzero
      rw [hzero] at divisorMem
      exact absurd (htwo.trans divisorMem.1) (by decide)
    rw [pressure_wrapped]
    dsimp only
    rw [if_neg hnonzero, Int32.toInt32_toUInt32]
    generalize divided (scaled (fallExpr.wrapped (rawOf uncomp t_fine))
      (cal.offsetExpr.wrapped (rawOf uncomp t_fine)))
      (cal.divisorExpr.wrapped (rawOf uncomp t_fine)) = pressure at hquotient hle ⊢
    have hvalues : (fun i => (dividedInt32 pressure i).toInt) = exactDivided pressure.toNat :=
      funext (toInt_dividedInt32 (Int.ofNat_le.1 (hle.trans hhighest)))
    have hmem : ∀ i, (dividedBounds _ i).Mem (dividedInt32 pressure i).toInt := fun i =>
      congrFun hvalues i ▸ mem_dividedBounds (Int.natCast_nonneg _) hle i
    obtain ⟨pressureFits, -, pressureEq⟩ := Expr.exact_of_bounds hmem hr
    rw [hvalues, hquotient] at pressureFits pressureEq
    rw [exact_pressureExpr] at pressureEq
    exact ⟨⟨fallFits, offsetFits, divisorFits, pressureFits⟩, pressureEq⟩
  next => exact absurd h (by decide)

/-- No raw values between these bounds make a compensation overflow. -/
def overflowFree (temperature pressure humidity : Bounds) : Bool :=
  match cal.fineExpr.bounds (rawOf temperature .int32) with
  | some fine => (cal.temperatureExpr.bounds (rawOf temperature .int32)).isSome &&
      cal.pressureFree pressure fine && (cal.humidityExpr.bounds (rawOf humidity fine)).isSome
  | none => false

/-- No operation overflows when a raw temperature is compensated and then, with its fine
temperature, a raw pressure and a raw humidity, and the results are those in the integers. -/
structure Exact (temperature pressure humidity : Int32) : Prop where
  temperature_fits : cal.temperatureExpr.Fits (rawOf temperature.toInt 0)
  pressure_fits : cal.PressureFits pressure.toInt (cal.exactFine temperature.toInt)
  humidity_fits : cal.humidityExpr.Fits
    (rawOf humidity.toInt (cal.exactFine temperature.toInt))
  temperature_eq : (cal.compensateTemperatureInt32 temperature).1.toInt =
    cal.exactTemperature temperature.toInt
  pressure_eq : (cal.compensatePressureInt32 pressure
      (cal.compensateTemperatureInt32 temperature).2).toInt32.toInt =
    cal.exactPressure pressure.toInt (cal.exactFine temperature.toInt)
  humidity_eq : ((cal.compensateHumidityInt32 humidity
      (cal.compensateTemperatureInt32 temperature).2).toNat : ℤ) =
    cal.exactHumidity humidity.toInt (cal.exactFine temperature.toInt)

/-- A calibration that passes the test compensates all raw values between the bounds without an
overflow, as the formulas in the integers do. -/
theorem compensations_exact {b c d : Bounds} (h : cal.overflowFree b c d = true)
    {temperature pressure humidity : Int32} (ht : b.Mem temperature.toInt)
    (hp : c.Mem pressure.toInt) (hh : d.Mem humidity.toInt) :
    cal.Exact temperature pressure humidity := by
  unfold overflowFree at h
  split at h
  next fine hfine =>
    simp only [Bool.and_eq_true, Option.isSome_iff_exists] at h
    obtain ⟨⟨⟨r, hr⟩, hpressure⟩, ⟨r', hr'⟩⟩ := h
    have hzero : Bounds.int32.Mem (0 : Int32).toInt := ⟨by decide, by decide⟩
    obtain ⟨-, fineMem, fineEq⟩ := rawExpr_exact hfine ht hzero
    obtain ⟨temperatureFits, -, temperatureEq⟩ := rawExpr_exact hr ht hzero
    rw [exact_fineExpr] at fineMem fineEq
    rw [exact_temperatureExpr] at temperatureEq
    replace fineEq : (cal.compensateTemperatureInt32 temperature).2.toInt =
        cal.exactFine temperature.toInt := by
      rw [cal.temperature_wrapped temperature 0]
      exact fineEq
    change fine.Mem (cal.exactFine temperature.toInt) at fineMem
    rw [← fineEq] at fineMem
    obtain ⟨pressureFits, pressureEq⟩ := cal.pressure_exact hpressure hp fineMem
    obtain ⟨humidityFits, -, humidityEq⟩ := rawExpr_exact hr' hh fineMem
    rw [fineEq] at pressureFits pressureEq humidityFits humidityEq
    refine ⟨temperatureFits, pressureFits, humidityFits, temperatureEq, pressureEq, ?_⟩
    rw [humidity_wrapped, limited_eq, humidityEq]
    exact cal.exact_humidityExpr _
  next => exact absurd h (by decide)

theorem compensations_exact_usual : usual.Exact 519888 415148 30000 :=
  @compensations_exact usual ⟨330000, 650000⟩ ⟨300000, 700000⟩ ⟨0, 45000⟩ (by decide) 519888 415148
    30000 (by decide) (by decide) (by decide)

end CalParam

end Bme280Driver

end SgmDevice
