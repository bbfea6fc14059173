import Mathlib.Order.Monotone.Basic
import SgmDevice.Sensor.Bme280Images
import SgmDevice.Sensor.Bme280Settings
import SgmDevice.Traces.Appends

/-!
# The sensor down to its registers

`Bme280Sensor` on the driver that works with the registers of the device.  On every bus it refines
the sensor that knows of its driver only what each conversion returns and stores, and the
conversions are the transfers that the driver makes (`refines_bus`).  On a bus on which everything
gets through it works with the calibration of the device and with raw values that the device held
one after the other (`refines_device`).
-/

namespace SgmDevice

open Bme280Driver (CalParam)
open Sgm
open Traces (Appends)

namespace Bme280

/-! ## What a conversion does on the bus -/

/-- The result is the sum of what the callbacks returned. -/
def Summed (result : Int8) (transfers : List Transfer) : Prop :=
  result = (transfers.map Transfer.callback).sum

theorem Summed.append {result result' : Int8} {transfers transfers' : List Transfer}
    (h : Summed result transfers) (h' : Summed result' transfers') :
    Summed (result + result') (transfers ++ transfers') := by
  rw [Summed, List.map_append, List.sum_append, ← h, ← h']

section Transfers

variable (answers : ℕ → Answer)

theorem busWrite_appends (regAddress data : UInt8) :
    Appends State.transfers (busWrite answers regAddress data) Summed :=
  fun _ => ⟨[_], rfl, (Int8.add_zero _).symm⟩

theorem busRead_appends (regAddress : UInt8) (content : Device → Answer → ℕ → UInt8)
    (buffer : List UInt8) :
    Appends State.transfers (busRead answers regAddress content buffer) fun read transfers =>
      Summed read.1 transfers ∧
        ((∀ transfer ∈ transfers, ¬ transfer.HasRead) → read.2 = buffer) := by
  intro s
  refine ⟨[_], rfl, (Int8.add_zero _).symm, fun h => ?_⟩
  have hcount := h _ List.mem_cons_self
  apply List.ext_getElem (List.length_mapIdx ..)
  intro i hi hi'
  have hnone : ¬ (i : Int) < (answers s.transfers.length).itsI2cDevice.readBytesReg
      s.p_bme280.dev_addr regAddress (.ofNat buffer.length) :=
    fun hlt => hcount (Int.lt_of_le_of_lt (Int.natCast_nonneg i) hlt)
  exact (List.getElem_mapIdx ..).trans (if_neg hnone)

theorem readRegister_appends (control : Control) (v_data_u8 : UInt8) :
    Appends State.transfers (readRegister answers control v_data_u8) fun read => Summed read.1 := by
  refine (busRead_appends answers _ _ _).bind fun read transfers h => ?_
  exact Appends.pure (by rw [List.append_nil]; exact h.1)

theorem writeAll_appends (writes : List (Control × UInt8)) :
    Appends State.transfers (writeAll answers writes) Summed := by
  induction writes with
  | nil => exact Appends.pure rfl
  | cons write writes ih =>
    refine (busWrite_appends answers _ _).bind fun result transfers hsum => ?_
    refine ih.bind fun result' transfers' hsum' => ?_
    exact Appends.pure (by simpa using hsum.append hsum')

theorem readBack_appends (controls : List Control) (v_data_u8 : UInt8) :
    Appends State.transfers (readBack answers controls v_data_u8) Summed := by
  induction controls generalizing v_data_u8 with
  | nil => exact Appends.pure rfl
  | cons control controls ih =>
    refine (readRegister_appends answers control v_data_u8).bind fun read transfers hsum => ?_
    refine Appends.modify_bind (fun _ => rfl) ?_
    refine (ih read.2).bind fun result' transfers' hsum' => ?_
    exact Appends.pure (by simpa using hsum.append hsum')

theorem update_appends (awake asleep : List (Control × UInt8)) :
    Appends State.transfers (update answers awake asleep) fun updated =>
      Summed (updated.2.1 + updated.2.2) := by
  have hmode : Appends State.transfers (getPowerMode answers) fun read => Summed read.1 := by
    refine (readRegister_appends answers _ _).bind fun read transfers h => ?_
    exact Appends.pure (by rw [List.append_nil]; exact h)
  refine hmode.bind fun mode transfers hsum => Appends.ite (fun _ => ?_) fun _ => ?_
  · refine (busWrite_appends answers _ _).bind fun rst_rslt transfers' hsum' => ?_
    refine (writeAll_appends answers awake).bind fun write_rslt transfers'' hsum'' => ?_
    refine Appends.pure ?_
    rw [List.append_nil]
    exact hsum.append (hsum'.append hsum'')
  · refine (writeAll_appends answers asleep).bind fun write_rslt transfers' hsum' => ?_
    refine Appends.pure ?_
    rw [List.append_nil]
    exact hsum.append hsum'

theorem readUncomp_transfers (s : State) :
    ∃ transfer, (readUncomp answers s).2.transfers = s.transfers ++ [transfer] := ⟨_, rfl⟩

theorem readUncomp_appends :
    Appends State.transfers (readUncomp answers) fun read transfers => Summed read.1 transfers ∧
      ((∀ transfer ∈ transfers, ¬ transfer.HasRead) → read.2 = ⟨0, 0, 0⟩) := by
  refine (busRead_appends answers _ _ _).bind fun read transfers h => Appends.pure ?_
  rw [List.append_nil]
  refine ⟨h.1, fun hunread => ?_⟩
  change uncompOf read.2 = _
  rw [h.2 hunread]
  rfl

/-- A forced conversion is one of `Conversion`. -/
theorem getForcedUncomp_appends :
    Appends State.transfers (getForcedUncomp answers) fun read transfers =>
      Summed read.1 transfers ∧
        ((∀ transfer ∈ transfers, ¬ transfer.HasRead) → read.2 = ⟨0, 0, 0⟩) := by
  refine Appends.get_bind fun s => ?_
  refine (update_appends answers _ _).bind fun updated transfers hsum => ?_
  refine (readUncomp_appends answers).bind fun read transfers' h => ?_
  refine (readBack_appends answers _ _).bind fun read_rslt transfers'' hsum' => Appends.pure ?_
  rw [List.append_nil]
  refine ⟨?_, fun hunread => h.2 fun transfer hmem => hunread transfer ?_⟩
  · have hall := hsum.append (h.1.append hsum')
    rwa [Int8.add_assoc] at hall
  · exact List.mem_append_right _ (List.mem_append_left _ hmem)

end Transfers

/-! ## The sensor on its driver -/

/-- The sensor with the driver, of which `t_fine` is a member of `cal_param`, and the device. -/
structure SensorState where
  bus : State
  cal_param : CalParam
  t_fine : Int32
  timeReadings : ℕ := 0

section Sensor

variable (answers : ℕ → Answer) (memory : UInt8 → UInt8) (time : ℕ → UInt32)
variable (sensor : Bme280Sensor)

/-- The constructor, which finds anything in its `bme280_t`. -/
def start (s : State) (t_fine : Int32) : SensorState :=
  let initialized := init answers memory s
  { bus := (construct answers initialized.2).2, cal_param := initialized.1.2.2, t_fine }

/-- `measure` behind the call of the driver. -/
def measureWith (conversion : (Int8 × Uncomp) × State) (quantity : PhysQuantity)
    (data : List SgmProcessData) (s : SensorState) : List SgmProcessData × SensorState :=
  let ((result, uncomp), bus) := conversion
  let drv := s.cal_param.driver (fun _ => (result.toInt, uncomp)) time
  let (data, measured) := Bme280Sensor.measure drv sensor quantity data
    { t_fine := s.t_fine, timeReadings := s.timeReadings }
  (data, { s with bus, t_fine := measured.t_fine, timeReadings := measured.timeReadings })

def measure (quantity : PhysQuantity) (data : List SgmProcessData) (s : SensorState) :
    List SgmProcessData × SensorState :=
  measureWith time sensor (getForcedUncomp answers s.bus) quantity data s

/-- `acquire(quantities, data)`. -/
def acquireQuantities : List PhysQuantity → List SgmProcessData → SensorState →
    List SgmProcessData × SensorState
  | [], data, s => (data, s)
  | physQuantity :: quantities, data, s =>
    let (data, s) := measure answers time sensor physQuantity data s
    acquireQuantities quantities data s

/-- The bus behind some conversions. -/
def busAfter (s : State) : ℕ → State
  | 0 => s
  | n + 1 => (getForcedUncomp answers (busAfter s n)).2

end Sensor

/-- The readings of requests one after another. -/
def serve {σ : Type} (acquire : List PhysQuantity → List SgmProcessData → σ →
    List SgmProcessData × σ) : List (List PhysQuantity) → σ → List (List SgmProcessData)
  | [], _ => []
  | quantities :: requests, s =>
    let (data, s) := acquire quantities [] s
    data :: serve acquire requests s

section Simulation

-- the states behind the driver's calls are not to be computed
attribute [local irreducible] getForcedUncomp init construct

/-- The conversions of the driver that starts with this bus. -/
def conversionsFrom (answers : ℕ → Answer) (bus : State) (n : ℕ) : Int × Uncomp :=
  let conversion := (getForcedUncomp answers (busAfter answers bus n)).1
  (conversion.1.toInt, conversion.2)

/-- The state with registers that belongs to one without. -/
def withRegisters (answers : ℕ → Answer) (s₀ : SensorState) (s : Bme280State Int32) :
    SensorState where
  bus := busAfter answers s₀.bus s.conversions
  cal_param := s₀.cal_param
  t_fine := s.t_fine
  timeReadings := s.timeReadings

variable {answers : ℕ → Answer} (time : ℕ → UInt32) (sensor : Bme280Sensor) {s₀ : SensorState}

/-- The sensor without registers makes the same of a conversion. -/
theorem measureWith_eq {conversion : (Int8 × Uncomp) × State} {getForced : ℕ → Int × Uncomp}
    {s : Bme280State Int32}
    (hforced : getForced s.conversions = (conversion.1.1.toInt, conversion.1.2))
    (quantity : PhysQuantity) (data : List SgmProcessData) (bus : State) (cal : CalParam) :
    let measured := Bme280Sensor.measure (cal.driver getForced time) sensor quantity data s
    measureWith time sensor conversion quantity data ⟨bus, cal, s.t_fine, s.timeReadings⟩ =
        (measured.1, ⟨conversion.2, cal, measured.2.t_fine, measured.2.timeReadings⟩) ∧
      measured.2.conversions = s.conversions + 1 := by
  intro measured
  have hdriver : (cal.driver getForced time).getForcedUncomp s.conversions =
    (conversion.1.1.toInt, conversion.1.2) := hforced
  unfold measured measureWith Bme280Sensor.measure
  rw [hdriver]
  cases quantity <;> exact ⟨rfl, rfl⟩

theorem measure_withRegisters (quantity : PhysQuantity) (data : List SgmProcessData)
    (s : Bme280State Int32) :
    let drv := s₀.cal_param.driver (conversionsFrom answers s₀.bus) time
    let measured := Bme280Sensor.measure drv sensor quantity data s
    measure answers time sensor quantity data (withRegisters answers s₀ s) =
      (measured.1, withRegisters answers s₀ measured.2) := by
  intro drv measured
  have hforced : conversionsFrom answers s₀.bus s.conversions =
      ((getForcedUncomp answers (busAfter answers s₀.bus s.conversions)).1.1.toInt,
        (getForcedUncomp answers (busAfter answers s₀.bus s.conversions)).1.2) := rfl
  obtain ⟨hmeasured, hconversions⟩ := measureWith_eq time sensor hforced quantity data
    (busAfter answers s₀.bus s.conversions) s₀.cal_param
  rw [withRegisters, withRegisters, hconversions, busAfter]
  exact hmeasured

theorem acquireQuantities_withRegisters (quantities : List PhysQuantity)
    (data : List SgmProcessData) (s : Bme280State Int32) :
    acquireQuantities answers time sensor quantities data (withRegisters answers s₀ s) =
      let acquired := Bme280Sensor.acquireQuantities
        (s₀.cal_param.driver (conversionsFrom answers s₀.bus) time) sensor quantities data s
      (acquired.1, withRegisters answers s₀ acquired.2) := by
  induction quantities generalizing data s with
  | nil => rfl
  | cons quantity quantities ih =>
    rw [acquireQuantities, measure_withRegisters, Bme280Sensor.acquireQuantities]
    generalize Bme280Sensor.measure _ sensor quantity data s = measured
    exact ih measured.1 measured.2

theorem serve_withRegisters (requests : List (List PhysQuantity)) (s : Bme280State Int32) :
    serve (acquireQuantities answers time sensor) requests (withRegisters answers s₀ s) =
      serve (Bme280Sensor.acquireQuantities
        (s₀.cal_param.driver (conversionsFrom answers s₀.bus) time) sensor) requests s := by
  induction requests generalizing s with
  | nil => rfl
  | cons quantities requests ih =>
    rw [serve, acquireQuantities_withRegisters]
    exact congrArg (_ :: ·) (ih _)

/-- What the driver does on the bus are conversions, one behind the other. -/
theorem exists_conversions (answers : ℕ → Answer) (bus : State) :
    ∃ conversions : ℕ → Conversion,
      (∀ n, (busAfter answers bus (n + 1)).transfers =
        (busAfter answers bus n).transfers ++ (conversions n).transfers) ∧
      (fun n => (conversions n).forced) = conversionsFrom answers bus := by
  choose new hnew hsum hunread using
    fun n => getForcedUncomp_appends answers (busAfter answers bus n)
  refine ⟨fun n => ⟨new n, (getForcedUncomp answers (busAfter answers bus n)).1.2, hunread n⟩,
    hnew, ?_⟩
  funext n
  rw [Conversion.forced, ← hsum n]
  rfl

/-- Whatever happens on the bus, the sensor with its registers is the one of `busDriver`, and the
conversions of that are the transfers that the driver makes, with the results that it returns. -/
theorem refines_bus (answers : ℕ → Answer) (memory : UInt8 → UInt8) (s : State) (t_fine : Int32) :
    let s₀ := start answers memory s t_fine
    ∃ conversions : ℕ → Conversion,
      (∀ n, (busAfter answers s₀.bus (n + 1)).transfers =
        (busAfter answers s₀.bus n).transfers ++ (conversions n).transfers) ∧
      (fun n => (conversions n).forced) = conversionsFrom answers s₀.bus ∧
      ∀ requests, serve (acquireQuantities answers time sensor) requests s₀ =
        serve (Bme280Sensor.acquireQuantities (Bme280Sensor.busDriver
          (s₀.cal_param.driver (fun _ => (0, ⟨0, 0, 0⟩)) time) conversions) sensor) requests
          ⟨t_fine, 0, 0⟩ := by
  intro s₀
  obtain ⟨conversions, htransfers, hforced⟩ := exists_conversions answers s₀.bus
  refine ⟨conversions, htransfers, hforced, fun requests => ?_⟩
  have hstart : s₀ = withRegisters answers s₀ ⟨t_fine, 0, 0⟩ := rfl
  have hdriver : Bme280Sensor.busDriver (s₀.cal_param.driver (fun _ => (0, ⟨0, 0, 0⟩)) time)
      conversions = s₀.cal_param.driver (conversionsFrom answers s₀.bus) time := by
    rw [Bme280Sensor.busDriver, hforced]
    rfl
  rw [hdriver, ← serve_withRegisters, ← hstart]

end Simulation

/-! ## A bus on which everything gets through -/

section Sound

variable {answers : ℕ → Answer}

theorem busRead_sound (h : Sound answers) (regAddress : UInt8)
    (content : Device → Answer → ℕ → UInt8) {buffer : List UInt8} (hlength : buffer.length < 256)
    (s : State) :
    (busRead answers regAddress content buffer s).1 =
      (Int8.ofInt buffer.length, (List.range buffer.length).map
        (content (s.device.pass (answers s.transfers.length).ends)
          (answers s.transfers.length))) := by
  have hcount : (answers s.transfers.length).itsI2cDevice.readBytesReg s.p_bme280.dev_addr
      regAddress (.ofNat buffer.length) = buffer.length := by
    have hread := h.succeeded s.transfers.length
      (.read s.p_bme280.dev_addr regAddress (.ofNat buffer.length))
    exact hread.trans (congrArg Nat.cast (UInt8.toNat_ofNat_of_lt' hlength))
  refine Prod.ext (congrArg Int8.ofInt hcount) ?_
  apply List.ext_getElem
  · exact (List.length_mapIdx ..).trans (by rw [List.length_map, List.length_range])
  · intro i hi hi'
    have hread : (i : Int) < (answers s.transfers.length).itsI2cDevice.readBytesReg
        s.p_bme280.dev_addr regAddress (.ofNat buffer.length) := by
      rw [hcount]
      rw [List.length_map, List.length_range] at hi'
      exact Int.ofNat_lt.2 hi'
    rw [List.getElem_map, List.getElem_range]
    exact (List.getElem_mapIdx ..).trans (if_pos hread)

attribute [local irreducible] busRead

/-- What stands in the memory from a register on. -/
def bytesAt (memory : UInt8 → UInt8) (regAddress : UInt8) (length : ℕ) : List UInt8 :=
  (List.range length).map fun i => memory (regAddress + .ofNat i)

/-- The calibration in the memory. -/
def calibrationIn (memory : UInt8 → UInt8) : CalParam :=
  calParamOf
    (bytesAt memory BME280_TEMPERATURE_CALIB_DIG_T1_LSB_REG
      BME280_PRESSURE_TEMPERATURE_CALIB_DATA_LENGTH)
    (bytesAt memory BME280_HUMIDITY_CALIB_DIG_H2_LSB_REG BME280_HUMIDITY_CALIB_DATA_LENGTH)

theorem getCalibParam_sound (h : Sound answers) (memory : UInt8 → UInt8) (s : State) :
    (getCalibParam answers memory s).1.2 = calibrationIn memory := by
  let first := busRead answers BME280_TEMPERATURE_CALIB_DIG_T1_LSB_REG
    (stored memory BME280_TEMPERATURE_CALIB_DIG_T1_LSB_REG)
    (List.replicate BME280_PRESSURE_TEMPERATURE_CALIB_DATA_LENGTH 0) s
  let second := busRead answers BME280_HUMIDITY_CALIB_DIG_H2_LSB_REG
    (stored memory BME280_HUMIDITY_CALIB_DIG_H2_LSB_REG)
    (first.1.2.take BME280_HUMIDITY_CALIB_DATA_LENGTH) first.2
  have hfirst : first.1.2 = bytesAt memory BME280_TEMPERATURE_CALIB_DIG_T1_LSB_REG 26 :=
    congrArg Prod.snd (busRead_sound h _ _ (by decide) s)
  have hlength : (first.1.2.take BME280_HUMIDITY_CALIB_DATA_LENGTH).length = 7 := by
    rw [hfirst]
    rfl
  have hsecond : second.1.2 = bytesAt memory BME280_HUMIDITY_CALIB_DIG_H2_LSB_REG 7 := by
    rw [← hlength]
    exact congrArg Prod.snd (busRead_sound h _ _ (by omega) first.2)
  change calParamOf first.1.2
    (second.1.2 ++ first.1.2.drop BME280_HUMIDITY_CALIB_DATA_LENGTH) = _
  rw [hsecond, hfirst]
  rfl

theorem init_sound (h : Sound answers) (memory : UInt8 → UInt8) (s : State) :
    (init answers memory s).1.2.2 = calibrationIn memory :=
  getCalibParam_sound h memory _

theorem readUncomp_sound (h : Sound answers) (s : State) :
    (readUncomp answers s).1 =
      (8, uncompOf ((List.range 8).map (answers s.transfers.length).bytes)) := by
  have hread := busRead_sound h BME280_PRESSURE_MSB_REG (fun _ answer => answer.bytes)
    (show (List.replicate 8 (0 : UInt8)).length < 256 by decide) s
  change ((busRead answers _ _ _ s).1.1, uncompOf (busRead answers _ _ _ s).1.2) = _
  rw [hread]
  rfl

/-! The results of a conversion -/

theorem busWrite_sound (h : Sound answers) (regAddress data : UInt8) :
    Appends State.transfers (busWrite answers regAddress data) fun result _ => result = 0 := by
  intro s
  have hwrite := h.succeeded s.transfers.length (.write s.p_bme280.dev_addr regAddress [data])
  exact ⟨[_], rfl, congrArg Int32.toInt8 hwrite⟩

theorem readRegister_sound (h : Sound answers) (control : Control) (v_data_u8 : UInt8) :
    Appends State.transfers (readRegister answers control v_data_u8) fun read _ => read.1 = 1 := by
  intro s
  obtain ⟨new, hnew, -⟩ := readRegister_appends answers control v_data_u8 s
  have hread := busRead_sound h control.address (fun device _ _ => device control)
    (Nat.lt_of_sub_eq_succ rfl : [v_data_u8].length < 256) s
  exact ⟨new, hnew, congrArg Prod.fst hread⟩

theorem writeAll_sound (h : Sound answers) (writes : List (Control × UInt8)) :
    Appends State.transfers (writeAll answers writes) fun result _ => result = 0 := by
  induction writes with
  | nil => exact Appends.pure rfl
  | cons write writes ih =>
    refine (busWrite_sound h _ _).bind fun result _ hresult => ?_
    refine ih.bind fun result' _ hresult' => Appends.pure ?_
    rw [hresult, hresult', Int8.add_zero]

theorem readBack_sound (h : Sound answers) (controls : List Control) (v_data_u8 : UInt8) :
    Appends State.transfers (readBack answers controls v_data_u8) fun result _ =>
      result = (controls.map fun _ => 1).sum := by
  induction controls generalizing v_data_u8 with
  | nil => exact Appends.pure rfl
  | cons control controls ih =>
    refine (readRegister_sound h control v_data_u8).bind fun read _ hread => ?_
    refine Appends.modify_bind (fun _ => rfl) ?_
    refine (ih read.2).bind fun result _ hresult => Appends.pure ?_
    rw [hread, hresult, List.map_cons, List.sum_cons]

theorem update_sound (h : Sound answers) (awake asleep : List (Control × UInt8)) :
    Appends State.transfers (update answers awake asleep) fun updated _ =>
      updated.2.1 = 1 ∧ updated.2.2 = 0 := by
  have hmode : Appends State.transfers (getPowerMode answers) fun read _ => read.1 = 1 :=
    (readRegister_sound h _ _).bind fun read _ hread => Appends.pure hread
  refine hmode.bind fun mode _ hmode => Appends.ite (fun _ => ?_) fun _ => ?_
  · refine (busWrite_sound h _ _).bind fun rst_rslt _ hrst => ?_
    refine (writeAll_sound h awake).bind fun write_rslt _ hwrite => Appends.pure ⟨hmode, ?_⟩
    rw [hrst, hwrite, Int8.add_zero]
  · exact (writeAll_sound h asleep).bind fun write_rslt _ hwrite => Appends.pure ⟨hmode, hwrite⟩

/-- A conversion never returns `SUCCESS`, since a read returns how many bytes it brought. -/
theorem getForcedUncomp_sound (h : Sound answers) :
    Appends State.transfers (getForcedUncomp answers) fun read _ => read.1 = 12 := by
  have hdata : Appends State.transfers (readUncomp answers) fun read _ => read.1 = 8 := by
    intro s
    obtain ⟨new, hnew, -⟩ := readUncomp_appends answers s
    exact ⟨new, hnew, congrArg Prod.fst (readUncomp_sound h s)⟩
  refine Appends.get_bind fun s => ?_
  refine (update_sound h _ _).bind fun updated _ hupdated => ?_
  refine hdata.bind fun read _ hread => ?_
  refine (readBack_sound h _ _).bind fun read_rslt _ hrslt => Appends.pure ?_
  change updated.2.1 + (updated.2.2 + (read.1 + read_rslt)) = 12
  rw [hupdated.1, hupdated.2, hread, hrslt]
  rfl

/-- The state in which a conversion reads its raw values. -/
def beforeData (answers : ℕ → Answer) (s : State) : State :=
  let v_mode_u8r := setBitslice s.p_bme280.ctrl_meas_reg POWER_MODE BME280_FORCED_MODE
  (update answers
    [(.config, s.p_bme280.config_reg), (.ctrlHum, s.p_bme280.ctrl_hum_reg), (.ctrlMeas, v_mode_u8r)]
    [(.ctrlHum, s.p_bme280.ctrl_hum_reg), (.ctrlMeas, v_mode_u8r)] s).2

/-- The transfer that brings the raw values of the n-th conversion. -/
def dataTransfer (answers : ℕ → Answer) (bus : State) (n : ℕ) : ℕ :=
  (beforeData answers (busAfter answers bus n)).transfers.length

theorem dataTransfer_strictMono (answers : ℕ → Answer) (bus : State) :
    StrictMono (dataTransfer answers bus) := by
  apply strictMono_nat_of_lt_succ
  intro n
  generalize hs : busAfter answers bus n = s
  have hread : (readUncomp answers (beforeData answers s)).2.transfers.length =
      (beforeData answers s).transfers.length + 1 := by
    obtain ⟨transfer, htransfer⟩ := readUncomp_transfers answers (beforeData answers s)
    rw [htransfer, List.length_append, List.length_singleton]
  have hback : (readUncomp answers (beforeData answers s)).2.transfers.length ≤
      (getForcedUncomp answers s).2.transfers.length := by
    rw [getForcedUncomp_state]
    exact (readBack_appends answers _ _).length_le _
  have hupdate : (getForcedUncomp answers s).2.transfers.length ≤
      (beforeData answers (getForcedUncomp answers s).2).transfers.length :=
    (update_appends answers _ _).length_le _
  rw [dataTransfer, dataTransfer, busAfter, hs]
  omega

theorem conversionsFrom_sound (h : Sound answers) (bus : State) :
    conversionsFrom answers bus = fun n => (12, uncompOf
      ((List.range 8).map (answers (dataTransfer answers bus n)).bytes)) := by
  funext n
  generalize hs : busAfter answers bus n = s
  obtain ⟨-, -, hresult⟩ := getForcedUncomp_sound h s
  have huncomp : (getForcedUncomp answers s).1.2 =
      (readUncomp answers (beforeData answers s)).1.2 := rfl
  rw [conversionsFrom, hs, hresult, huncomp, readUncomp_sound h, dataTransfer, hs]
  rfl

attribute [local irreducible] getForcedUncomp init construct

/-- On a bus on which everything gets through, every conversion returns 12 and the raw values of a
later moment, and the readings of all requests are those of a driver with the calibration in the
memory for these conversions. -/
theorem refines_device (h : Sound answers) (memory : UInt8 → UInt8) (s : State) (t_fine : Int32)
    (time : ℕ → UInt32) (sensor : Bme280Sensor) :
    ∃ moment : ℕ → ℕ, StrictMono moment ∧
      (conversionsFrom answers (start answers memory s t_fine).bus = fun n =>
        (12, uncompOf ((List.range 8).map (answers (moment n)).bytes))) ∧
      ∀ requests, serve (acquireQuantities answers time sensor) requests
          (start answers memory s t_fine) =
        serve (Bme280Sensor.acquireQuantities ((calibrationIn memory).driver (fun n =>
          (12, uncompOf ((List.range 8).map (answers (moment n)).bytes))) time) sensor) requests
          ⟨t_fine, 0, 0⟩ := by
  let s₀ := start answers memory s t_fine
  have hcal : s₀.cal_param = calibrationIn memory := init_sound h memory s
  have hstart : s₀ = withRegisters answers s₀ ⟨t_fine, 0, 0⟩ := rfl
  refine ⟨dataTransfer answers s₀.bus, dataTransfer_strictMono answers s₀.bus,
    conversionsFrom_sound h s₀.bus, fun requests => ?_⟩
  rw [← conversionsFrom_sound h s₀.bus, ← hcal, ← serve_withRegisters, ← hstart]

theorem refines_device_usedDevice :
    ∃ moment : ℕ → ℕ, StrictMono moment ∧
      (conversionsFrom soundAnswers (start soundAnswers id usedDevice 0).bus = fun n =>
        (12, uncompOf ((List.range 8).map (soundAnswers (moment n)).bytes))) ∧
      ∀ requests, serve (acquireQuantities soundAnswers .ofNat Bme280Sensor.airSensor) requests
          (start soundAnswers id usedDevice 0) =
        serve (Bme280Sensor.acquireQuantities ((calibrationIn id).driver (fun n =>
          (12, uncompOf ((List.range 8).map (soundAnswers (moment n)).bytes))) .ofNat)
          Bme280Sensor.airSensor) requests ⟨0, 0, 0⟩ :=
  refines_device soundAnswers_sound id usedDevice 0 .ofNat Bme280Sensor.airSensor

end Sound

end Bme280

end SgmDevice
