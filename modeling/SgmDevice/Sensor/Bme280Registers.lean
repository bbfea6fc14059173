import SgmDevice.Bits.Slice
import SgmDevice.Sensor.BusTransfers

/-!
# The control registers of the BME280

The functions of `bme280.c` that change the settings of the device.  A setter takes the register
from the copy in `bme280_t`, puts its value into it, resets the device first if it is not asleep,
writes the register and reads all three back.

| source | here |
|---|---|
| `bme280_set_oversamp_*`, `_spi3`, `_filter`, `_standby_durn`, `_power_mode` | `setField` |
| `bme280_get_power_mode`, `bme280_set_soft_rst` | `getPowerMode`, `setSoftRst` |
| `bme280_get_forced_uncomp_pressure_temperature_humidity` | `getForcedUncomp` |

The device answers each transfer in turn.  All that is said of it is that a write puts a byte into
its register, that the reset code clears the three registers, and that a forced conversion goes back
to sleep by itself.
-/

namespace SgmDevice

open Bits (Slice)

namespace Bme280

/-- The registers `BME280_CTRL_HUMIDITY_REG`, `BME280_CTRL_MEAS_REG` and `BME280_CONFIG_REG`. -/
inductive Control where
  | ctrlHum
  | ctrlMeas
  | config
  deriving DecidableEq, Repr

def Control.address : Control → UInt8
  | .ctrlHum => 0xF2
  | .ctrlMeas => 0xF4
  | .config => 0xF5

def BME280_RST_REG : UInt8 := 0xE0
def BME280_SOFT_RESET_CODE : UInt8 := 0xB6
def BME280_PRESSURE_MSB_REG : UInt8 := 0xF7

def BME280_SLEEP_MODE : UInt8 := 0x00
def BME280_FORCED_MODE : UInt8 := 0x01
def BME280_NORMAL_MODE : UInt8 := 0x03

def E_BME280_OUT_OF_RANGE : Int8 := -2

abbrev Register := BitVec 8

/-! ## The slices, with `__POS`, `__LEN` and `__MSK` of the header -/

def OVERSAMP_TEMPERATURE : Slice 8 := ⟨5, 3, 0xE0, by decide, by decide⟩
def OVERSAMP_PRESSURE : Slice 8 := ⟨2, 3, 0x1C, by decide, by decide⟩
def POWER_MODE : Slice 8 := ⟨0, 2, 0x03, by decide, by decide⟩
def OVERSAMP_HUMIDITY : Slice 8 := ⟨0, 3, 0x07, by decide, by decide⟩
def TSB : Slice 8 := ⟨5, 3, 0xE0, by decide, by decide⟩
def FILTER : Slice 8 := ⟨2, 3, 0x1C, by decide, by decide⟩
def SPI3_ENABLE : Slice 8 := ⟨0, 1, 0x01, by decide, by decide⟩

/-- `BME280_GET_BITSLICE`. -/
def getBitslice (regvar : UInt8) (bitname : Slice 8) : UInt8 := ⟨bitname.get regvar.toBitVec⟩

/-- `BME280_SET_BITSLICE`. -/
def setBitslice (regvar : UInt8) (bitname : Slice 8) (val : UInt8) : UInt8 :=
  ⟨bitname.set regvar.toBitVec val.toBitVec⟩

/-! ## The driver and the device -/

/-- `bme280_t`, as far as the settings are concerned. -/
structure Bme280T where
  ctrl_meas_reg : UInt8
  ctrl_hum_reg : UInt8
  config_reg : UInt8
  oversamp_temperature : UInt8
  oversamp_pressure : UInt8
  oversamp_humidity : UInt8
  dev_addr : UInt8
  deriving DecidableEq, Repr

/-- The copy of a register. -/
def Bme280T.copy (p_bme280 : Bme280T) : Control → UInt8
  | .ctrlHum => p_bme280.ctrl_hum_reg
  | .ctrlMeas => p_bme280.ctrl_meas_reg
  | .config => p_bme280.config_reg

def Bme280T.store (control : Control) (v_data_u8 : UInt8) (p_bme280 : Bme280T) : Bme280T :=
  match control with
  | .ctrlHum => { p_bme280 with ctrl_hum_reg := v_data_u8 }
  | .ctrlMeas => { p_bme280 with ctrl_meas_reg := v_data_u8 }
  | .config => { p_bme280 with config_reg := v_data_u8 }

/-- The control registers of the device. -/
abbrev Device := Control → UInt8

namespace Device

/-- A forced conversion may have ended. -/
def pass (ends : Bool) (device : Device) : Device :=
  let mode := getBitslice (device .ctrlMeas) POWER_MODE
  if ends ∧ mode ≠ BME280_SLEEP_MODE ∧ mode ≠ BME280_NORMAL_MODE then
    Function.update device .ctrlMeas
      (setBitslice (device .ctrlMeas) POWER_MODE BME280_SLEEP_MODE)
  else device

def write (regAddress data : UInt8) (device : Device) : Device :=
  if regAddress = BME280_RST_REG ∧ data = BME280_SOFT_RESET_CODE then fun _ => 0
  else if regAddress = Control.ctrlHum.address then Function.update device .ctrlHum data
  else if regAddress = Control.ctrlMeas.address then Function.update device .ctrlMeas data
  else if regAddress = Control.config.address then Function.update device .config data
  else device

end Device

/-- What happens in one transfer. -/
structure Answer where
  itsI2cDevice : I2c
  /-- A write that is reported as failed takes place all the same. -/
  takes : Bool := false
  /-- A forced conversion ends before it. -/
  ends : Bool := false
  /-- What a conversion has left in the data registers. -/
  bytes : ℕ → UInt8 := fun _ => 0

/-- The driver, the device and the transfers between them, the first one first. -/
structure State where
  p_bme280 : Bme280T
  device : Device
  transfers : List Transfer := []

/-- The functions of the driver. -/
abbrev Driver := StateM State

variable (answers : ℕ → Answer)

/-- `BME280_BUS_WRITE_FUNC` with one byte. -/
def busWrite (regAddress data : UInt8) : Driver Int8 := fun s =>
  let answer := answers s.transfers.length
  let transfer : Transfer :=
    ⟨answer.itsI2cDevice, .write s.p_bme280.dev_addr regAddress [data]⟩
  let device := s.device.pass answer.ends
  (transfer.callback, { s with
    device := if transfer.Succeeded ∨ answer.takes then device.write regAddress data else device
    transfers := s.transfers ++ [transfer] })

/-- `BME280_BUS_READ_FUNC`; bytes that do not come leave the buffer as it is. -/
def busRead (regAddress : UInt8) (content : Device → Answer → ℕ → UInt8) (buffer : List UInt8) :
    Driver (Int8 × List UInt8) := fun s =>
  let answer := answers s.transfers.length
  let transfer : Transfer :=
    ⟨answer.itsI2cDevice, .read s.p_bme280.dev_addr regAddress (.ofNat buffer.length)⟩
  let count := answer.itsI2cDevice.readBytesReg s.p_bme280.dev_addr regAddress
    (.ofNat buffer.length)
  let device := s.device.pass answer.ends
  ((transfer.callback, buffer.mapIdx fun i old =>
      if (i : Int) < count then content device answer i else old),
    { s with device, transfers := s.transfers ++ [transfer] })

/-- `bme280_write_register` for a control register. -/
def writeRegister (control : Control) (v_data_u8 : UInt8) : Driver Int8 :=
  busWrite answers control.address v_data_u8

/-- `bme280_read_register` for a control register, with what the variable holds before. -/
def readRegister (control : Control) (v_data_u8 : UInt8) : Driver (Int8 × UInt8) := do
  let (com_rslt, buffer) ←
    busRead answers control.address (fun device _ _ => device control) [v_data_u8]
  return (com_rslt, buffer.headD v_data_u8)

def getPowerMode : Driver (Int8 × UInt8) := do
  let (com_rslt, v_mode_u8r) ← readRegister answers .ctrlMeas 0
  return (com_rslt, getBitslice v_mode_u8r POWER_MODE)

def setSoftRst : Driver Int8 := busWrite answers BME280_RST_REG BME280_SOFT_RESET_CODE

/-- Reads registers back into their copies, all of them through one variable, and adds up what the
reads return. -/
def readBack : List Control → UInt8 → Driver Int8
  | [], _ => return 0
  | control :: controls, v_data_u8 => do
    let (com_rslt, v_data_u8) ← readRegister answers control v_data_u8
    modify fun s => { s with p_bme280 := s.p_bme280.store control v_data_u8 }
    return com_rslt + (← readBack controls v_data_u8)

/-- Writes control registers and adds up what the writes return. -/
def writeAll : List (Control × UInt8) → Driver Int8
  | [] => return 0
  | (control, v_data_u8) :: writes => do
    let com_rslt ← writeRegister answers control v_data_u8
    return com_rslt + (← writeAll writes)

/-- The writes of a function: a device that is not asleep is reset first, which takes its settings
away.  Returned are the mode, what reading it returned, and the sum of the other results. -/
def update (awake asleep : List (Control × UInt8)) : Driver (UInt8 × Int8 × Int8) := do
  let (mode_rslt, v_prev_pow_mode_u8) ← getPowerMode answers
  if v_prev_pow_mode_u8 ≠ BME280_SLEEP_MODE then
    let rst_rslt ← setSoftRst answers
    let write_rslt ← writeAll answers awake
    return (v_prev_pow_mode_u8, mode_rslt, rst_rslt + write_rslt)
  else
    let write_rslt ← writeAll answers asleep
    return (v_prev_pow_mode_u8, mode_rslt, write_rslt)

/-! ## The setters -/

/-- What one setter does that the others do not. -/
structure Setter where
  /-- The register with the value, and where it stands there. -/
  control : Control
  bitname : Slice 8
  /-- The member that keeps the argument. -/
  keep : UInt8 → Bme280T → Bme280T := fun _ p_bme280 => p_bme280
  /-- What is written to `CTRL_MEAS` behind the register when the device sleeps. -/
  andMeas : Bme280T → List (Control × UInt8) := fun _ => []
  /-- The variable of the read-back still holds the byte that was written. -/
  oneVariable : Bool := true
  /-- `com_rslt =` at the write in sleep mode, so that the read before it does not count. -/
  writeAssigns : Bool := true
  /-- `com_rslt =` at the first read-back, so that nothing before it counts. -/
  readAssigns : Bool := false

/-- The setters of the driver, of which each is given by its `Setter`. -/
def setField (setter : Setter) (v_value_u8 : UInt8) : Driver Int8 := do
  let p_bme280 := (← get).p_bme280
  let v_data_u8 := setBitslice (p_bme280.copy setter.control) setter.bitname v_value_u8
  let registers := (p_bme280.store setter.control v_data_u8).copy
  let (v_prev_pow_mode_u8, mode_rslt, write_rslt) ← update answers
    [(.config, registers .config), (.ctrlHum, registers .ctrlHum), (.ctrlMeas, registers .ctrlMeas)]
    ((setter.control, v_data_u8) :: setter.andMeas p_bme280)
  modify fun s => { s with p_bme280 := setter.keep v_value_u8 s.p_bme280 }
  let read_rslt ← readBack answers [.ctrlMeas, .ctrlHum, .config]
    (if setter.oneVariable then v_data_u8 else 0)
  return if setter.readAssigns then read_rslt
    else if v_prev_pow_mode_u8 = BME280_SLEEP_MODE ∧ setter.writeAssigns then
      write_rslt + read_rslt
    else mode_rslt + (write_rslt + read_rslt)

def oversampTemperature : Setter where
  control := .ctrlMeas
  bitname := OVERSAMP_TEMPERATURE
  keep v_value_u8 p_bme280 := { p_bme280 with oversamp_temperature := v_value_u8 }
  readAssigns := true

def oversampPressure : Setter where
  control := .ctrlMeas
  bitname := OVERSAMP_PRESSURE
  keep v_value_u8 p_bme280 := { p_bme280 with oversamp_pressure := v_value_u8 }
  readAssigns := true

def oversampHumidity : Setter where
  control := .ctrlHum
  bitname := OVERSAMP_HUMIDITY
  keep v_value_u8 p_bme280 := { p_bme280 with oversamp_humidity := v_value_u8 }
  andMeas p_bme280 := [(.ctrlMeas, p_bme280.ctrl_meas_reg)]
  writeAssigns := false

def powerMode : Setter where
  control := .ctrlMeas
  bitname := POWER_MODE
  oneVariable := false
  readAssigns := true

def spi3 : Setter where
  control := .config
  bitname := SPI3_ENABLE

def filter : Setter where
  control := .config
  bitname := FILTER

def standbyDurn : Setter where
  control := .config
  bitname := TSB

def setOversampTemperature (v_value_u8 : UInt8) : Driver Int8 :=
  setField answers oversampTemperature v_value_u8

def setOversampPressure (v_value_u8 : UInt8) : Driver Int8 :=
  setField answers oversampPressure v_value_u8

def setOversampHumidity (v_value_u8 : UInt8) : Driver Int8 :=
  setField answers oversampHumidity v_value_u8

def setSpi3 (v_enable_disable_u8 : UInt8) : Driver Int8 :=
  setField answers spi3 v_enable_disable_u8

def setFilter (v_value_u8 : UInt8) : Driver Int8 := setField answers filter v_value_u8

def setStandbyDurn (v_standby_durn_u8 : UInt8) : Driver Int8 :=
  setField answers standbyDurn v_standby_durn_u8

def setPowerMode (v_power_mode_u8 : UInt8) : Driver Int8 :=
  if v_power_mode_u8 ≤ BME280_NORMAL_MODE then setField answers powerMode v_power_mode_u8
  else return E_BME280_OUT_OF_RANGE

/-! ## A forced conversion -/

/-- The raw values in the eight bytes of the data registers. -/
def uncompOf (a_data_u8 : List UInt8) : Uncomp :=
  let byte := fun i => (a_data_u8.getD i 0).toUInt32
  { pressure := ((byte 0 <<< 12) ||| (byte 1 <<< 4) ||| (byte 2 >>> 4)).toInt32
    temperature := ((byte 3 <<< 12) ||| (byte 4 <<< 4) ||| (byte 5 >>> 4)).toInt32
    humidity := ((byte 6 <<< 8) ||| byte 7).toInt32 }

/-- `bme280_read_uncomp_pressure_temperature_humidity`. -/
def readUncomp : Driver (Int8 × Uncomp) := do
  let (com_rslt, a_data_u8) ←
    busRead answers BME280_PRESSURE_MSB_REG (fun _ answer => answer.bytes) (List.replicate 8 0)
  return (com_rslt, uncompOf a_data_u8)

/-- The delay for the conversion leaves no trace here. -/
def getForcedUncomp : Driver (Int8 × Uncomp) := do
  let p_bme280 := (← get).p_bme280
  let v_mode_u8r := setBitslice p_bme280.ctrl_meas_reg POWER_MODE BME280_FORCED_MODE
  let (_, mode_rslt, write_rslt) ← update answers
    [(.config, p_bme280.config_reg), (.ctrlHum, p_bme280.ctrl_hum_reg), (.ctrlMeas, v_mode_u8r)]
    [(.ctrlHum, p_bme280.ctrl_hum_reg), (.ctrlMeas, v_mode_u8r)]
  let (data_rslt, uncomp) ← readUncomp answers
  let read_rslt ← readBack answers [.ctrlHum, .config, .ctrlMeas] 0
  return (mode_rslt + (write_rslt + (data_rslt + read_rslt)), uncomp)

/-! ## The constructor of `Bme280Sensor`, behind `bme280_init` -/

/-- What the constructor and the destructor add up or ignore, nobody looks at. -/
def construct : Driver Unit := do
  let _ ← setSoftRst answers
  let _ ← setPowerMode answers BME280_SLEEP_MODE
  let _ ← setOversampHumidity answers 1
  let _ ← setOversampPressure answers 2
  let _ ← setOversampTemperature answers 3
  let _ ← setStandbyDurn answers 0
  let _ ← setPowerMode answers BME280_FORCED_MODE

def destruct : Driver Unit := do
  let _ ← setPowerMode answers BME280_SLEEP_MODE

end Bme280

end SgmDevice
