import SgmDevice.Sensor.Bme280Registers

/-!
# What the BME280 keeps in its memory

The calibration and the raw values stand in the registers of the device in parts of 4 and 8 bits;
`bme280_init` reads the calibration and every conversion the raw values.  The driver reads back
exactly the calibrations whose `dig_H4` and `dig_H5` have 12 bits and the raw values that have 20
and 16 bits, and no byte that belongs to them is lost (`memory_round_trip`).
-/

namespace SgmDevice

open BitVec
open Bme280Driver (CalParam)

namespace Bme280

def BME280_CHIP_ID_REG : UInt8 := 0xD0
def BME280_TEMPERATURE_CALIB_DIG_T1_LSB_REG : UInt8 := 0x88
def BME280_HUMIDITY_CALIB_DIG_H2_LSB_REG : UInt8 := 0xE1
def BME280_PRESSURE_TEMPERATURE_CALIB_DATA_LENGTH : ℕ := 26
def BME280_HUMIDITY_CALIB_DATA_LENGTH : ℕ := 7

/-! ## The calibration in the bytes that are read -/

def unsignedWord (msb lsb : UInt8) : UInt16 := (msb.toUInt16 <<< 8) ||| lsb.toUInt16

def signedWord (msb lsb : UInt8) : Int16 :=
  (msb.toInt8.toInt16 <<< 8) ||| lsb.toUInt16.toInt16

/-- A value of 12 bits, the lower four of which are in `nibble`. -/
def signedTwelve (msb nibble : UInt8) : Int16 :=
  (msb.toInt8.toInt16 <<< 4) ||| nibble.toUInt16.toInt16

/-- `cal_param`, from the buffer behind the first read and behind the second one. -/
def calParamOf (first second : List UInt8) : CalParam :=
  let a_data_u8 := fun i => first.getD i 0
  let b_data_u8 := fun i => second.getD i 0
  { dig_T1 := unsignedWord (a_data_u8 1) (a_data_u8 0)
    dig_T2 := signedWord (a_data_u8 3) (a_data_u8 2)
    dig_T3 := signedWord (a_data_u8 5) (a_data_u8 4)
    dig_P1 := unsignedWord (a_data_u8 7) (a_data_u8 6)
    dig_P2 := signedWord (a_data_u8 9) (a_data_u8 8)
    dig_P3 := signedWord (a_data_u8 11) (a_data_u8 10)
    dig_P4 := signedWord (a_data_u8 13) (a_data_u8 12)
    dig_P5 := signedWord (a_data_u8 15) (a_data_u8 14)
    dig_P6 := signedWord (a_data_u8 17) (a_data_u8 16)
    dig_P7 := signedWord (a_data_u8 19) (a_data_u8 18)
    dig_P8 := signedWord (a_data_u8 21) (a_data_u8 20)
    dig_P9 := signedWord (a_data_u8 23) (a_data_u8 22)
    dig_H1 := a_data_u8 25
    dig_H2 := signedWord (b_data_u8 1) (b_data_u8 0)
    dig_H3 := b_data_u8 2
    dig_H4 := signedTwelve (b_data_u8 3) ((0x0F : UInt8) &&& b_data_u8 4)
    dig_H5 := signedTwelve (b_data_u8 5) (b_data_u8 4 >>> 4)
    dig_H6 := (b_data_u8 6).toInt8 }

section Init

variable (answers : ℕ → Answer) (memory : UInt8 → UInt8)

/-- What stands behind a register in the memory of the device. -/
def stored (regAddress : UInt8) : Device → Answer → ℕ → UInt8 :=
  fun _ _ i => memory (regAddress + .ofNat i)

/-- `bme280_get_calib_param`: the second read goes into the buffer of the first one. -/
def getCalibParam : Driver (Int8 × CalParam) := do
  let (com_rslt, first) ← busRead answers BME280_TEMPERATURE_CALIB_DIG_T1_LSB_REG
    (stored memory BME280_TEMPERATURE_CALIB_DIG_T1_LSB_REG)
    (List.replicate BME280_PRESSURE_TEMPERATURE_CALIB_DATA_LENGTH 0)
  let (humidity_rslt, second) ← busRead answers BME280_HUMIDITY_CALIB_DIG_H2_LSB_REG
    (stored memory BME280_HUMIDITY_CALIB_DIG_H2_LSB_REG)
    (first.take BME280_HUMIDITY_CALIB_DATA_LENGTH)
  return (com_rslt + humidity_rslt,
    calParamOf first (second ++ first.drop BME280_HUMIDITY_CALIB_DATA_LENGTH))

/-- `bme280_init`, with the `chip_id` that nobody looks at. -/
def init : Driver (Int8 × UInt8 × CalParam) := do
  let (com_rslt, chip_id) ←
    busRead answers BME280_CHIP_ID_REG (stored memory BME280_CHIP_ID_REG) [0]
  let (calib_rslt, cal_param) ← getCalibParam answers memory
  return (com_rslt + calib_rslt, chip_id.headD 0, cal_param)

end Init

/-! ## The images -/

def lowByte (word : UInt16) : UInt8 := word.toUInt8
def highByte (word : UInt16) : UInt8 := (word >>> 8).toUInt8

/-- The registers from `dig_T1` on; the one before `dig_H1` belongs to no parameter. -/
def calibImage (cal : CalParam) (spare : UInt8) : List UInt8 :=
  [cal.dig_T1, cal.dig_T2.toUInt16, cal.dig_T3.toUInt16, cal.dig_P1, cal.dig_P2.toUInt16,
    cal.dig_P3.toUInt16, cal.dig_P4.toUInt16, cal.dig_P5.toUInt16, cal.dig_P6.toUInt16,
    cal.dig_P7.toUInt16, cal.dig_P8.toUInt16, cal.dig_P9.toUInt16].flatMap
      (fun word => [lowByte word, highByte word]) ++ [spare, cal.dig_H1]

/-- The registers from `dig_H2` on; `dig_H4` and `dig_H5` share one of them. -/
def humidityImage (cal : CalParam) : List UInt8 :=
  let dig_H4 := cal.dig_H4.toUInt16
  let dig_H5 := cal.dig_H5.toUInt16
  [lowByte cal.dig_H2.toUInt16, highByte cal.dig_H2.toUInt16, cal.dig_H3, (dig_H4 >>> 4).toUInt8,
    ((0x0F : UInt8) &&& lowByte dig_H4) ||| (lowByte dig_H5 <<< 4), (dig_H5 >>> 4).toUInt8,
    cal.dig_H6.toUInt8]

/-! ## Reading back -/

theorem toBitVec_unsignedWord (msb lsb : UInt8) : (unsignedWord msb lsb).toBitVec =
    msb.toBitVec.setWidth 16 <<< 8 ||| lsb.toBitVec.setWidth 16 := rfl

theorem toBitVec_signedWord (msb lsb : UInt8) : (signedWord msb lsb).toBitVec =
    msb.toBitVec.signExtend 16 <<< 8 ||| lsb.toBitVec.setWidth 16 := rfl

theorem toBitVec_signedTwelve (msb nibble : UInt8) : (signedTwelve msb nibble).toBitVec =
    msb.toBitVec.signExtend 16 <<< 4 ||| nibble.toBitVec.setWidth 16 := rfl

theorem getLsbD_lowByte (word : UInt16) (i : ℕ) :
    (lowByte word).toBitVec.getLsbD i = (decide (i < 8) && word.toBitVec.getLsbD i) := by
  change (word.toBitVec.setWidth 8).getLsbD i = _
  rw [getLsbD_setWidth]

theorem getLsbD_highByte (word : UInt16) (i : ℕ) :
    (highByte word).toBitVec.getLsbD i = (decide (i < 8) && word.toBitVec.getLsbD (8 + i)) := by
  change ((word.toBitVec >>> 8).setWidth 8).getLsbD i = _
  rw [getLsbD_setWidth, getLsbD_ushiftRight]

/-- A byte below a word. -/
theorem getLsbD_below {byte : UInt8} {i : ℕ} (hi : i < 16) :
    (byte.toBitVec.setWidth 16).getLsbD i = byte.toBitVec.getLsbD i := by
  simp only [getLsbD_setWidth, hi, decide_true, Bool.true_and]

/-- A signed byte above a byte. -/
theorem getLsbD_above {byte : UInt8} {i : ℕ} (hi : i < 8) :
    (byte.toBitVec.signExtend 16).getLsbD i = byte.toBitVec.getLsbD i := by
  have hword : i < 16 := by omega
  simp only [getLsbD_signExtend, hi, hword, decide_true, Bool.true_and, if_true]

theorem unsignedWord_bytes (word : UInt16) :
    unsignedWord (highByte word) (lowByte word) = word := by
  apply UInt16.toBitVec_inj.1
  rw [toBitVec_unsignedWord]
  apply Bits.join_eq
  · intro i hi
    have hbyte : i < 8 := by omega
    rw [getLsbD_below (by omega), getLsbD_highByte, decide_eq_true hbyte, Bool.true_and]
  · intro i hi
    rw [getLsbD_below hi, getLsbD_lowByte]

theorem signedWord_bytes (word : Int16) :
    signedWord (highByte word.toUInt16) (lowByte word.toUInt16) = word := by
  apply Int16.toBitVec_inj.1
  rw [toBitVec_signedWord]
  apply Bits.join_eq
  · intro i hi
    have hbyte : i < 8 := by omega
    rw [getLsbD_above hbyte, getLsbD_highByte, decide_eq_true hbyte, Bool.true_and]
    rfl
  · intro i hi
    rw [getLsbD_below hi, getLsbD_lowByte]
    rfl

/-- The value fits into 12 bits: the bits above are those of its sign. -/
def Twelve (word : Int16) : Prop := -2048 ≤ word ∧ word < 2048

instance (word : Int16) : Decidable (Twelve word) := inferInstanceAs (Decidable (_ ∧ _))

/-- Twelve bits of a word, with the sign of the twelfth. -/
theorem toInt_twelve (word : BitVec 16) :
    ((word.setWidth 12).signExtend 16).toInt = word.toInt.bmod 4096 := by
  rw [toInt_signExtend_eq_toNat_bmod, toNat_setWidth, toInt_eq_toNat_bmod]
  change ((word.toNat % 4096 : ℕ) : Int).bmod 4096 = ((word.toNat : Int).bmod 65536).bmod 4096
  simp only [Int.bmod_def]
  omega

/-- The bits of a value that is extended by its sign. -/
theorem getLsbD_extended {w : ℕ} (value : BitVec (w + 1)) {i : ℕ} (hi : i < 16) :
    (value.signExtend 16).getLsbD i = value.getLsbD (min i w) := by
  rw [getLsbD_signExtend, decide_eq_true hi, Bool.true_and, msb_eq_getLsbD_last]
  by_cases hlow : i < w + 1
  · rw [if_pos hlow, Nat.min_eq_left (Nat.le_of_lt_succ hlow)]
  · rw [if_neg hlow, Nat.min_eq_right (by omega), Nat.add_sub_cancel]

/-- The byte above a nibble and the nibble make 12 bits. -/
theorem signedTwelve_parts {word : Int16} {nibble : UInt8}
    (hnibble : ∀ i, nibble.toBitVec.getLsbD i = (decide (i < 4) && word.toBitVec.getLsbD i)) :
    (signedTwelve (word.toUInt16 >>> 4).toUInt8 nibble).toBitVec =
      (word.toBitVec.setWidth 12).signExtend 16 := by
  rw [toBitVec_signedTwelve]
  apply Bits.join_eq
  · intro i hi
    change (((word.toBitVec >>> 4).setWidth 8).signExtend 16).getLsbD i = _
    have hbyte : min i 7 < 8 := by omega
    have htwelve : min (4 + i) 11 < 12 := by omega
    have hsame : 4 + min i 7 = min (4 + i) 11 := by omega
    rw [getLsbD_extended _ (by omega), getLsbD_extended _ hi, getLsbD_setWidth, getLsbD_setWidth,
      getLsbD_ushiftRight, decide_eq_true hbyte, decide_eq_true htwelve, hsame]
  · intro i hi
    rw [getLsbD_below hi, hnibble, getLsbD_extended _ hi, getLsbD_setWidth]
    by_cases hlow : i < 4
    · have htwelve : i < 12 := by omega
      rw [Nat.min_eq_left (by omega), decide_eq_true htwelve, Bool.true_and]
    · rw [decide_eq_false hlow, Bool.false_and, Bool.false_and]

theorem signedTwelve_iff {word : Int16} {nibble : UInt8}
    (hnibble : ∀ i, nibble.toBitVec.getLsbD i = (decide (i < 4) && word.toBitVec.getLsbD i)) :
    signedTwelve (word.toUInt16 >>> 4).toUInt8 nibble = word ↔ Twelve word := by
  rw [← Int16.toBitVec_inj, signedTwelve_parts hnibble, ← BitVec.toInt_inj, toInt_twelve]
  change word.toInt.bmod 4096 = word.toInt ↔ _
  rw [Twelve, Int16.le_iff_toInt_le, Int16.lt_iff_toInt_lt, Int.bmod_def]
  change _ ↔ -2048 ≤ word.toInt ∧ word.toInt < 2048
  omega

/-! ## Round trips -/

theorem getLsbD_nibble (byte : UInt8) (i : ℕ) :
    ((0x0F : UInt8) &&& byte).toBitVec.getLsbD i =
      (decide (i < 4) && byte.toBitVec.getLsbD i) := by
  have hmask : ∀ i < 8, (0x0F#8).getLsbD i = decide (i < 4) := by decide
  rw [UInt8.toBitVec_and, getLsbD_and]
  by_cases hi : i < 8
  · rw [← hmask i hi]
    rfl
  · rw [getLsbD_of_ge byte.toBitVec i (Nat.le_of_not_lt hi), Bool.and_false, Bool.and_false]

/-- Two nibbles in one byte. -/
theorem getLsbD_nibbles (low high : UInt8) (i : ℕ) :
    (((0x0F : UInt8) &&& low) ||| (high <<< 4)).toBitVec.getLsbD i =
      if i < 4 then low.toBitVec.getLsbD i
      else decide (i < 8) && high.toBitVec.getLsbD (i - 4) := by
  change (((0x0F : UInt8) &&& low).toBitVec ||| high.toBitVec <<< 4).getLsbD i = _
  rw [getLsbD_or, getLsbD_nibble, getLsbD_shiftLeft]
  by_cases hi : i < 4 <;> simp [hi]

/-- What is masked out of the byte that `dig_H4` and `dig_H5` share. -/
theorem getLsbD_dig_H4 (dig_H4 dig_H5 : UInt16) (i : ℕ) :
    ((0x0F : UInt8) &&& (((0x0F : UInt8) &&& lowByte dig_H4) |||
      (lowByte dig_H5 <<< 4))).toBitVec.getLsbD i =
        (decide (i < 4) && dig_H4.toBitVec.getLsbD i) := by
  rw [getLsbD_nibble, getLsbD_nibbles, getLsbD_lowByte]
  by_cases hi : i < 4
  · have hbyte : i < 8 := by omega
    simp only [hi, hbyte, if_true, decide_true, Bool.true_and]
  · simp only [hi, decide_false, Bool.false_and]

/-- What is shifted out of it. -/
theorem getLsbD_dig_H5 (dig_H4 dig_H5 : UInt16) (i : ℕ) :
    ((((0x0F : UInt8) &&& lowByte dig_H4) ||| (lowByte dig_H5 <<< 4)) >>> 4).toBitVec.getLsbD i =
      (decide (i < 4) && dig_H5.toBitVec.getLsbD i) := by
  change ((((0x0F : UInt8) &&& lowByte dig_H4) ||| (lowByte dig_H5 <<< 4)).toBitVec >>> 4).getLsbD
    i = _
  have habove : ¬ 4 + i < 4 := by omega
  rw [getLsbD_ushiftRight, getLsbD_nibbles, if_neg habove, Nat.add_sub_cancel_left,
    getLsbD_lowByte]
  by_cases hi : i < 4
  · have hbyte : i < 8 := by omega
    have hshifted : 4 + i < 8 := by omega
    simp only [hi, hbyte, hshifted, decide_true, Bool.true_and]
  · have hshifted : ¬ 4 + i < 8 := by omega
    simp only [hi, hshifted, decide_false, Bool.false_and]

/-- A calibration is read back from its image if and only if its two parameters of 12 bits fit. -/
theorem calParamOf_image_iff (cal : CalParam) (spare : UInt8) :
    calParamOf (calibImage cal spare) (humidityImage cal) = cal ↔
      Twelve cal.dig_H4 ∧ Twelve cal.dig_H5 := by
  have hH4 := signedTwelve_iff (getLsbD_dig_H4 cal.dig_H4.toUInt16 cal.dig_H5.toUInt16)
  have hH5 := signedTwelve_iff (getLsbD_dig_H5 cal.dig_H4.toUInt16 cal.dig_H5.toUInt16)
  constructor
  · intro h
    exact ⟨hH4.1 (congrArg CalParam.dig_H4 h), hH5.1 (congrArg CalParam.dig_H5 h)⟩
  · rintro ⟨h4, h5⟩
    have h4' := hH4.2 h4
    have h5' := hH5.2 h5
    obtain ⟨T1, T2, T3, P1, P2, P3, P4, P5, P6, P7, P8, P9, H1, H2, H3, H4, H5, H6⟩ := cal
    rw [calParamOf, CalParam.mk.injEq]
    exact ⟨unsignedWord_bytes T1, signedWord_bytes T2, signedWord_bytes T3, unsignedWord_bytes P1,
      signedWord_bytes P2, signedWord_bytes P3, signedWord_bytes P4, signedWord_bytes P5,
      signedWord_bytes P6, signedWord_bytes P7, signedWord_bytes P8, signedWord_bytes P9, rfl,
      signedWord_bytes H2, rfl, h4', h5', rfl⟩

theorem getLsbD_below_of_ge (byte : UInt8) {i : ℕ} (hi : 8 ≤ i) :
    (byte.toBitVec.setWidth 16).getLsbD i = false := by
  rw [getLsbD_setWidth, getLsbD_of_ge byte.toBitVec i hi, Bool.and_false]

/-- The bytes of a word that was put together. -/
theorem bytes_join {word : UInt16} {upper : BitVec 16} {msb lsb : UInt8}
    (hword : word.toBitVec = upper <<< 8 ||| lsb.toBitVec.setWidth 16)
    (hupper : ∀ i < 8, upper.getLsbD i = msb.toBitVec.getLsbD i) :
    lowByte word = lsb ∧ highByte word = msb := by
  constructor <;> apply UInt8.toBitVec_inj.1 <;> apply BitVec.eq_of_getLsbD_eq <;> intro i hi
  · rw [getLsbD_lowByte, decide_eq_true hi, Bool.true_and, hword,
      Bits.getLsbD_join (fun i _ => getLsbD_below_of_ge lsb) (by omega), if_pos hi,
      getLsbD_below (by omega)]
  · rw [getLsbD_highByte, decide_eq_true hi, Bool.true_and, hword,
      Bits.getLsbD_join (fun i _ => getLsbD_below_of_ge lsb) (by omega), if_neg (by omega),
      Nat.add_sub_cancel_left, hupper i hi]

theorem bytes_unsignedWord (msb lsb : UInt8) :
    lowByte (unsignedWord msb lsb) = lsb ∧ highByte (unsignedWord msb lsb) = msb :=
  bytes_join (toBitVec_unsignedWord msb lsb) fun _ hi => getLsbD_below (by omega)

theorem bytes_signedWord (msb lsb : UInt8) :
    lowByte (signedWord msb lsb).toUInt16 = lsb ∧ highByte (signedWord msb lsb).toUInt16 = msb :=
  bytes_join (toBitVec_signedWord msb lsb) fun _ hi => getLsbD_above hi

section Nibble

variable {msb nibble : UInt8}

theorem getLsbD_signedTwelve (hnibble : ∀ i, 4 ≤ i → nibble.toBitVec.getLsbD i = false) {i : ℕ}
    (hi : i < 12) : (signedTwelve msb nibble).toBitVec.getLsbD i =
      if i < 4 then nibble.toBitVec.getLsbD i else msb.toBitVec.getLsbD (i - 4) := by
  have hbelow : ∀ j < 16, 4 ≤ j → (nibble.toBitVec.setWidth 16).getLsbD j = false := by
    intro j hj hfour
    rw [getLsbD_below hj, hnibble j hfour]
  rw [toBitVec_signedTwelve, Bits.getLsbD_join hbelow (by omega), getLsbD_below (by omega),
    getLsbD_above (by omega)]

theorem msb_signedTwelve (hnibble : ∀ i, 4 ≤ i → nibble.toBitVec.getLsbD i = false) :
    ((signedTwelve msb nibble).toUInt16 >>> 4).toUInt8 = msb := by
  apply UInt8.toBitVec_inj.1
  apply BitVec.eq_of_getLsbD_eq
  intro i hi
  change (((signedTwelve msb nibble).toBitVec >>> 4).setWidth 8).getLsbD i = _
  rw [getLsbD_setWidth, decide_eq_true hi, Bool.true_and, getLsbD_ushiftRight,
    getLsbD_signedTwelve hnibble (by omega), if_neg (by omega), Nat.add_sub_cancel_left]

theorem getLsbD_lowByte_signedTwelve
    (hnibble : ∀ i, 4 ≤ i → nibble.toBitVec.getLsbD i = false) {i : ℕ} (hi : i < 4) :
    (lowByte (signedTwelve msb nibble).toUInt16).toBitVec.getLsbD i =
      nibble.toBitVec.getLsbD i := by
  have hbyte : i < 8 := by omega
  rw [getLsbD_lowByte, decide_eq_true hbyte, Bool.true_and]
  change (signedTwelve msb nibble).toBitVec.getLsbD i = _
  rw [getLsbD_signedTwelve hnibble (by omega), if_pos hi]

end Nibble

theorem low_nibble (shared : UInt8) (i : ℕ) (hi : 4 ≤ i) :
    ((0x0F : UInt8) &&& shared).toBitVec.getLsbD i = false := by
  rw [getLsbD_nibble, decide_eq_false (Nat.not_lt.2 hi), Bool.false_and]

theorem getLsbD_shifted (shared : UInt8) (i : ℕ) :
    (shared >>> 4).toBitVec.getLsbD i = shared.toBitVec.getLsbD (4 + i) :=
  getLsbD_ushiftRight ..

theorem high_nibble (shared : UInt8) (i : ℕ) (hi : 4 ≤ i) :
    (shared >>> 4).toBitVec.getLsbD i = false := by
  rw [getLsbD_shifted, getLsbD_of_ge shared.toBitVec (4 + i) (by omega)]

/-- The shared byte is put together from the two parameters that are read from it. -/
theorem shared_eq (msb msb' shared : UInt8) :
    ((0x0F : UInt8) &&& lowByte (signedTwelve msb ((0x0F : UInt8) &&& shared)).toUInt16) |||
      (lowByte (signedTwelve msb' (shared >>> 4)).toUInt16 <<< 4) = shared := by
  apply UInt8.toBitVec_inj.1
  apply BitVec.eq_of_getLsbD_eq
  intro i hi
  rw [getLsbD_nibbles]
  by_cases hlow : i < 4
  · rw [if_pos hlow, getLsbD_lowByte_signedTwelve (low_nibble shared) hlow, getLsbD_nibble,
      decide_eq_true hlow, Bool.true_and]
  · have hfour : 4 + (i - 4) = i := by omega
    rw [if_neg hlow, decide_eq_true hi, Bool.true_and,
      getLsbD_lowByte_signedTwelve (high_nibble shared) (by omega), getLsbD_shifted, hfour]

/-- What is read keeps every byte of the memory. -/
theorem image_calParamOf (first : Fin 26 → UInt8) (second : Fin 7 → UInt8) :
    calibImage (calParamOf (List.ofFn first) (List.ofFn second)) (first 24) = List.ofFn first ∧
      humidityImage (calParamOf (List.ofFn first) (List.ofFn second)) = List.ofFn second := by
  have hsecond : List.ofFn second =
      [second 0, second 1, second 2, second 3, second 4, second 5, second 6] := rfl
  have hfirst : List.ofFn first =
      [first 0, first 1, first 2, first 3, first 4, first 5, first 6, first 7, first 8, first 9,
        first 10, first 11, first 12, first 13, first 14, first 15, first 16, first 17, first 18,
        first 19, first 20, first 21, first 22, first 23, first 24, first 25] := rfl
  constructor
  · rw [hfirst]
    simp only [calibImage, calParamOf, List.getD_cons_zero, List.getD_cons_succ,
      List.flatMap_cons, List.flatMap_nil, List.cons_append, List.nil_append, bytes_unsignedWord,
      bytes_signedWord]
  · rw [hsecond]
    simp only [humidityImage, calParamOf, List.getD_cons_zero, List.getD_cons_succ,
      bytes_signedWord, msb_signedTwelve (low_nibble _), msb_signedTwelve (high_nibble _),
      shared_eq]
    rfl

/-! ## Raw values -/

/-- The eight data registers, where the bits below the raw values are clear. -/
def dataImage (uncomp : Uncomp) : List UInt8 :=
  let three := fun value : UInt32 =>
    [(value >>> 12).toUInt8, (value >>> 4).toUInt8, (value <<< 4).toUInt8]
  three uncomp.pressure.toUInt32 ++ three uncomp.temperature.toUInt32 ++
    [(uncomp.humidity.toUInt32 >>> 8).toUInt8, uncomp.humidity.toUInt32.toUInt8]

/-- Twenty bits in three bytes. -/
theorem three_bytes (value : BitVec 32) :
    ((value >>> 12).setWidth 8).setWidth 32 <<< 12 |||
        ((value >>> 4).setWidth 8).setWidth 32 <<< 4 |||
      (((value <<< 4).setWidth 8).setWidth 32 >>> 4) = (value.setWidth 20).setWidth 32 := by
  apply BitVec.eq_of_getLsbD_eq
  intro i hi
  simp only [getLsbD_or, getLsbD_shiftLeft, getLsbD_setWidth, getLsbD_ushiftRight]
  grind

/-- Sixteen bits in two bytes. -/
theorem two_bytes (value : BitVec 32) :
    ((value >>> 8).setWidth 8).setWidth 32 <<< 8 ||| (value.setWidth 8).setWidth 32 =
      (value.setWidth 16).setWidth 32 := by
  apply BitVec.eq_of_getLsbD_eq
  intro i hi
  simp only [getLsbD_or, getLsbD_shiftLeft, getLsbD_setWidth, getLsbD_ushiftRight]
  grind

theorem toNat_lt_iff (value : Int32) {bound : ℕ} (hbound : bound ≤ 2147483648) :
    value.toBitVec.toNat < bound ↔ 0 ≤ value.toInt ∧ value.toInt < bound := by
  have hvalue : value.toBitVec.toNat < 4294967296 := value.toBitVec.isLt
  rw [← Int32.toInt_toBitVec, toInt_eq_toNat_cond]
  change _ ↔ 0 ≤ (if 2 * value.toBitVec.toNat < 4294967296 then _ else _ - 4294967296) ∧ _
  split <;> omega

theorem twenty_iff (value : Int32) :
    (value.toBitVec.setWidth 20).setWidth 32 = value.toBitVec ↔ 0 ≤ value ∧ value < 1048576 := by
  have hrange := toNat_lt_iff value (show 1048576 ≤ 2147483648 by decide)
  rw [Int32.le_iff_toInt_le, Int32.lt_iff_toInt_lt]
  refine Iff.trans ?_ hrange
  have hvalue : value.toBitVec.toNat < 4294967296 := value.toBitVec.isLt
  rw [← BitVec.toNat_inj, toNat_setWidth, toNat_setWidth]
  omega

theorem sixteen_iff (value : Int32) :
    (value.toBitVec.setWidth 16).setWidth 32 = value.toBitVec ↔ 0 ≤ value ∧ value < 65536 := by
  have hrange := toNat_lt_iff value (show 65536 ≤ 2147483648 by decide)
  rw [Int32.le_iff_toInt_le, Int32.lt_iff_toInt_lt]
  refine Iff.trans ?_ hrange
  have hvalue : value.toBitVec.toNat < 4294967296 := value.toBitVec.isLt
  rw [← BitVec.toNat_inj, toNat_setWidth, toNat_setWidth]
  omega

/-- The raw values have 20, 20 and 16 bits. -/
def InRange (uncomp : Uncomp) : Prop :=
  (0 ≤ uncomp.pressure ∧ uncomp.pressure < 1048576) ∧
    (0 ≤ uncomp.temperature ∧ uncomp.temperature < 1048576) ∧
      0 ≤ uncomp.humidity ∧ uncomp.humidity < 65536

theorem uncompOf_image_iff (uncomp : Uncomp) :
    uncompOf (dataImage uncomp) = uncomp ↔ InRange uncomp := by
  rw [InRange, ← twenty_iff, ← twenty_iff, ← sixteen_iff, ← three_bytes, ← three_bytes,
    ← two_bytes]
  obtain ⟨pressure, temperature, humidity⟩ := uncomp
  rw [uncompOf, Uncomp.mk.injEq, ← Int32.toBitVec_inj, ← Int32.toBitVec_inj, ← Int32.toBitVec_inj]
  rfl

/-- A calibration is read back from the memory if and only if its two parameters of 12 bits fit, the
parameters that are read determine every byte of the memory but the spare one among the first 26,
and raw values are read back if and only if they are in range. -/
theorem memory_round_trip :
    (∀ cal spare, calParamOf (calibImage cal spare) (humidityImage cal) = cal ↔
      Twelve cal.dig_H4 ∧ Twelve cal.dig_H5) ∧
    (∀ (first : Fin 26 → UInt8) (second : Fin 7 → UInt8),
      calibImage (calParamOf (List.ofFn first) (List.ofFn second)) (first 24) =
          List.ofFn first ∧
        humidityImage (calParamOf (List.ofFn first) (List.ofFn second)) = List.ofFn second) ∧
    ∀ uncomp, uncompOf (dataImage uncomp) = uncomp ↔ InRange uncomp :=
  ⟨calParamOf_image_iff, image_calParamOf, uncompOf_image_iff⟩

end Bme280

end SgmDevice
