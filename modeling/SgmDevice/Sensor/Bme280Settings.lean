import SgmDevice.Sensor.Bme280Registers

/-!
# The settings of the BME280

What the driver is for, without its registers: a device has six settings, and a setter changes one
of them.  On a bus on which everything gets through the driver refines this, whichever conversions
end in between (`run_settings`), although a setter wakes nothing up but resets the device first.
Behind the constructor the settings are those that the source names, whatever the device had and
whatever stood in the `bme280_t`, which the constructor does not initialise (`settings_run`).
-/

namespace SgmDevice

open Bits (Slice)

namespace Bme280

/-! ## The settings -/

inductive Setting where
  | oversampTemperature
  | oversampPressure
  | oversampHumidity
  | spi3
  | filter
  | standbyDurn
  deriving DecidableEq, Repr

def Setting.setter : Setting → Setter
  | .oversampTemperature => Bme280.oversampTemperature
  | .oversampPressure => Bme280.oversampPressure
  | .oversampHumidity => Bme280.oversampHumidity
  | .spi3 => Bme280.spi3
  | .filter => Bme280.filter
  | .standbyDurn => Bme280.standbyDurn

abbrev Settings := Setting → Register

def settingsOf (registers : Control → UInt8) : Settings := fun setting =>
  setting.setter.bitname.get (registers setting.setter.control).toBitVec

/-- The copies of the driver agree with the device in all settings. -/
def Synced (s : State) : Prop := settingsOf s.p_bme280.copy = settingsOf s.device

/-- Every transfer gets through. -/
structure Sound (answers : ℕ → Answer) : Prop where
  succeeded : ∀ n request, (Transfer.mk (answers n).itsI2cDevice request).Succeeded

/-- Two slices in one register have no bit in common. -/
theorem settings_apart : ∀ setting setting' : Setting, setting ≠ setting' →
    setting.setter.control = setting'.setter.control →
    setting.setter.bitname.Apart setting'.setter.bitname := by
  intro setting setting'
  cases setting <;> cases setting' <;> decide

theorem mode_apart : ∀ setting : Setting, setting.setter.control = .ctrlMeas →
    POWER_MODE.Apart setting.setter.bitname := by
  intro setting
  cases setting <;> decide

/-- Only the settings of a register depend on it. -/
theorem settingsOf_update_congr {registers registers' : Control → UInt8}
    (h : settingsOf registers = settingsOf registers') (control : Control) (data : UInt8) :
    settingsOf (Function.update registers control data) =
      settingsOf (Function.update registers' control data) := by
  funext setting
  by_cases hcontrol : setting.setter.control = control
  · simp only [settingsOf, hcontrol, Function.update_self]
  · simp only [settingsOf, Function.update_of_ne hcontrol]
    exact congrFun h setting

/-- The mode is no setting. -/
theorem settingsOf_mode (registers : Control → UInt8) (mode : UInt8) :
    settingsOf (Function.update registers .ctrlMeas
      (setBitslice (registers .ctrlMeas) POWER_MODE mode)) = settingsOf registers := by
  funext setting
  by_cases hcontrol : setting.setter.control = .ctrlMeas
  · simp only [settingsOf, hcontrol, Function.update_self]
    exact POWER_MODE.get_set_of_apart _ (mode_apart setting hcontrol) _ _
  · simp only [settingsOf, Function.update_of_ne hcontrol]

theorem settingsOf_pass (ends : Bool) (device : Device) :
    settingsOf (device.pass ends) = settingsOf device := by
  unfold Device.pass
  dsimp only
  split_ifs
  · exact settingsOf_mode device BME280_SLEEP_MODE
  · rfl

/-- Putting a value into the slice of a setting sets it to what fits, and no other. -/
theorem settingsOf_setBitslice (registers : Control → UInt8) (setting : Setting) (val : UInt8) :
    settingsOf (Function.update registers setting.setter.control
        (setBitslice (registers setting.setter.control) setting.setter.bitname val)) =
      Function.update (settingsOf registers) setting
        (setting.setter.bitname.fit val.toBitVec) := by
  funext setting'
  by_cases hsame : setting' = setting
  · subst hsame
    simp only [settingsOf, Function.update_self]
    exact setting'.setter.bitname.get_set _ _
  · rw [Function.update_of_ne hsame]
    by_cases hcontrol : setting'.setter.control = setting.setter.control
    · simp only [settingsOf, hcontrol, Function.update_self]
      exact Slice.get_set_of_apart _ _
        (settings_apart setting setting' (Ne.symm hsame) hcontrol.symm) _ _
    · simp only [settingsOf, Function.update_of_ne hcontrol]

/-! ## Transfers -/

section Transfers

variable {answers : ℕ → Answer}

theorem mem_controls (control : Control) : control ∈ [Control.ctrlMeas, .ctrlHum, .config] := by
  cases control <;> decide

theorem mem_controls' (control : Control) : control ∈ [Control.ctrlHum, .config, .ctrlMeas] := by
  cases control <;> decide

theorem copy_store (p_bme280 : Bme280T) (control : Control) (v_data_u8 : UInt8) :
    (p_bme280.store control v_data_u8).copy =
      Function.update p_bme280.copy control v_data_u8 := by
  funext control'
  cases control <;> cases control' <;> rfl

theorem write_address (control : Control) (data : UInt8) (device : Device) :
    device.write control.address data = Function.update device control data := by
  unfold Device.write
  cases control <;> rfl

theorem writeRegister_settings (h : Sound answers) (control : Control) (data : UInt8) (s : State) :
    settingsOf (writeRegister answers control data s).2.device =
        settingsOf (Function.update s.device control data) ∧
      (writeRegister answers control data s).2.p_bme280 = s.p_bme280 := by
  refine ⟨?_, rfl⟩
  dsimp only [writeRegister, busWrite]
  rw [if_pos (Or.inl (h.succeeded _ _)), write_address]
  exact settingsOf_update_congr (settingsOf_pass _ _) control data

/-- The registers after some writes. -/
def written (registers : Control → UInt8) (writes : List (Control × UInt8)) : Control → UInt8 :=
  writes.foldl (fun registers write => Function.update registers write.1 write.2) registers

theorem written_congr {registers registers' : Control → UInt8}
    (h : settingsOf registers = settingsOf registers') (writes : List (Control × UInt8)) :
    settingsOf (written registers writes) = settingsOf (written registers' writes) := by
  induction writes generalizing registers registers' with
  | nil => exact h
  | cons write writes ih => exact ih (settingsOf_update_congr h write.1 write.2)

theorem writeAll_settings (h : Sound answers) (writes : List (Control × UInt8)) (s : State) :
    settingsOf (writeAll answers writes s).2.device = settingsOf (written s.device writes) ∧
      (writeAll answers writes s).2.p_bme280 = s.p_bme280 := by
  induction writes generalizing s with
  | nil => exact ⟨rfl, rfl⟩
  | cons write writes ih =>
    obtain ⟨hdevice, hcopies⟩ := writeRegister_settings h write.1 write.2 s
    obtain ⟨hdevice', hcopies'⟩ := ih (writeRegister answers write.1 write.2 s).2
    exact ⟨hdevice'.trans (written_congr hdevice writes), hcopies'.trans hcopies⟩

/-- A register that is read as a whole is stored as it is. -/
theorem readRegister_eq (h : Sound answers) (control : Control) (v_data_u8 : UInt8) (s : State) :
    (readRegister answers control v_data_u8 s).1.2 =
      s.device.pass (answers s.transfers.length).ends control ∧
    (readRegister answers control v_data_u8 s).2.device =
      s.device.pass (answers s.transfers.length).ends ∧
    (readRegister answers control v_data_u8 s).2.p_bme280 = s.p_bme280 := by
  have hcount : (answers s.transfers.length).itsI2cDevice.readBytesReg s.p_bme280.dev_addr
      control.address 1 = 1 :=
    h.succeeded s.transfers.length (.read s.p_bme280.dev_addr control.address 1)
  refine ⟨?_, rfl, rfl⟩
  have hread : (readRegister answers control v_data_u8 s).1.2 =
      if ((0 : ℕ) : Int) < (answers s.transfers.length).itsI2cDevice.readBytesReg
        s.p_bme280.dev_addr control.address 1
      then s.device.pass (answers s.transfers.length).ends control else v_data_u8 := rfl
  rw [hread, hcount]
  rfl

theorem getPowerMode_settings (answers : ℕ → Answer) (s : State) :
    settingsOf (getPowerMode answers s).2.device = settingsOf s.device ∧
      (getPowerMode answers s).2.p_bme280 = s.p_bme280 :=
  ⟨settingsOf_pass _ _, rfl⟩

theorem setSoftRst_settings (h : Sound answers) (s : State) :
    (setSoftRst answers s).2.device = (fun _ => 0) ∧
      (setSoftRst answers s).2.p_bme280 = s.p_bme280 := by
  refine ⟨?_, rfl⟩
  dsimp only [setSoftRst, busWrite]
  rw [if_pos (Or.inl (h.succeeded _ _))]
  rfl

/-- Behind the read-back, the settings of the registers that were read agree. -/
theorem readBack_settings (h : Sound answers) (controls : List Control) (v_data_u8 : UInt8)
    (s : State) :
    settingsOf (readBack answers controls v_data_u8 s).2.device = settingsOf s.device ∧
      ∀ setting, settingsOf (readBack answers controls v_data_u8 s).2.p_bme280.copy setting =
        if setting.setter.control ∈ controls then settingsOf s.device setting
        else settingsOf s.p_bme280.copy setting := by
  induction controls generalizing v_data_u8 s with
  | nil => exact ⟨rfl, fun _ => rfl⟩
  | cons control controls ih =>
    obtain ⟨hvalue, hdevice, hcopies⟩ := readRegister_eq h control v_data_u8 s
    let s' : State := { (readRegister answers control v_data_u8 s).2 with
      p_bme280 := (readRegister answers control v_data_u8 s).2.p_bme280.store control
        (readRegister answers control v_data_u8 s).1.2 }
    have hsettings : settingsOf s'.device = settingsOf s.device := by
      change settingsOf (readRegister answers control v_data_u8 s).2.device = _
      rw [hdevice, settingsOf_pass]
    obtain ⟨hdevice', hcopies'⟩ := ih (readRegister answers control v_data_u8 s).1.2 s'
    refine ⟨hdevice'.trans hsettings, fun setting => ?_⟩
    have hread : settingsOf (readBack answers (control :: controls) v_data_u8 s).2.p_bme280.copy
        setting = if setting.setter.control ∈ controls then settingsOf s'.device setting
          else settingsOf s'.p_bme280.copy setting := hcopies' setting
    rw [hread, hsettings]
    by_cases hlater : setting.setter.control ∈ controls
    · rw [if_pos hlater, if_pos (List.mem_cons_of_mem control hlater)]
    · have hstored : settingsOf s'.p_bme280.copy setting = settingsOf (Function.update
          s.p_bme280.copy control (s.device.pass (answers s.transfers.length).ends control))
          setting := by
        rw [← hvalue, ← copy_store, ← hcopies]
      rw [if_neg hlater, hstored]
      by_cases hcontrol : setting.setter.control = control
      · rw [if_pos (hcontrol ▸ List.mem_cons_self)]
        subst hcontrol
        simp only [settingsOf, Function.update_self]
        exact congrFun (settingsOf_pass _ s.device) setting
      · rw [if_neg (by simp [hcontrol, hlater])]
        simp only [settingsOf, Function.update_of_ne hcontrol]

/-- Behind a read-back of all three registers the copies agree with the device. -/
theorem readBack_synced (h : Sound answers) {controls : List Control}
    (hall : ∀ control, control ∈ controls) (v_data_u8 : UInt8) (s : State) :
    Synced (readBack answers controls v_data_u8 s).2 ∧
      settingsOf (readBack answers controls v_data_u8 s).2.device = settingsOf s.device := by
  obtain ⟨hdevice, hcopies⟩ := readBack_settings h controls v_data_u8 s
  refine ⟨?_, hdevice⟩
  funext setting
  rw [hcopies, if_pos (hall _), hdevice]

theorem update_run (awake asleep : List (Control × UInt8)) (s : State) :
    update answers awake asleep s =
      if (getPowerMode answers s).1.2 ≠ BME280_SLEEP_MODE then
        let rst := setSoftRst answers (getPowerMode answers s).2
        (((getPowerMode answers s).1.2, (getPowerMode answers s).1.1,
          rst.1 + (writeAll answers awake rst.2).1), (writeAll answers awake rst.2).2)
      else
        let written := writeAll answers asleep (getPowerMode answers s).2
        (((getPowerMode answers s).1.2, (getPowerMode answers s).1.1, written.1), written.2) := by
  by_cases hmode : (getPowerMode answers s).1.2 ≠ BME280_SLEEP_MODE
  · rw [if_pos hmode]
    change (if (getPowerMode answers s).1.2 ≠ BME280_SLEEP_MODE then _ else _ : Driver _) _ = _
    rw [if_pos hmode]
    rfl
  · rw [if_neg hmode]
    change (if (getPowerMode answers s).1.2 ≠ BME280_SLEEP_MODE then _ else _ : Driver _) _ = _
    rw [if_neg hmode]
    rfl

/-- Whichever mode the device is in, an update leaves the settings that are written, if the writes
of the two branches agree. -/
theorem update_settings (h : Sound answers) {awake asleep : List (Control × UInt8)} {s : State}
    {settings : Settings} (hawake : settingsOf (written (fun _ => 0) awake) = settings)
    (hasleep : settingsOf (written s.device asleep) = settings) :
    settingsOf (update answers awake asleep s).2.device = settings ∧
      (update answers awake asleep s).2.p_bme280 = s.p_bme280 := by
  obtain ⟨hdevice, hcopies⟩ := getPowerMode_settings answers s
  rw [update_run]
  split_ifs
  · obtain ⟨hzero, hcopies'⟩ := setSoftRst_settings h (getPowerMode answers s).2
    obtain ⟨hwritten, hcopies''⟩ :=
      writeAll_settings h awake (setSoftRst answers (getPowerMode answers s).2).2
    rw [hzero] at hwritten
    exact ⟨hwritten.trans hawake, hcopies''.trans (hcopies'.trans hcopies)⟩
  · obtain ⟨hwritten, hcopies'⟩ := writeAll_settings h asleep (getPowerMode answers s).2
    exact ⟨(hwritten.trans (written_congr hdevice asleep)).trans hasleep, hcopies'.trans hcopies⟩

end Transfers

/-! ## Calls -/

/-- The calls that the settings and the conversions are made with. -/
inductive Call where
  | set (setting : Setting) (v_value_u8 : UInt8)
  | setPowerMode (v_power_mode_u8 : UInt8)
  | getForcedUncomp
  deriving DecidableEq, Repr

section Calls

variable (answers : ℕ → Answer)

def Setting.set : Setting → UInt8 → Driver Int8
  | .oversampTemperature => setOversampTemperature answers
  | .oversampPressure => setOversampPressure answers
  | .oversampHumidity => setOversampHumidity answers
  | .spi3 => setSpi3 answers
  | .filter => setFilter answers
  | .standbyDurn => setStandbyDurn answers

def Call.run : Call → State → State
  | .set setting v_value_u8, s => (setting.set answers v_value_u8 s).2
  | .setPowerMode v_power_mode_u8, s => (Bme280.setPowerMode answers v_power_mode_u8 s).2
  | .getForcedUncomp, s => (Bme280.getForcedUncomp answers s).2

def runCalls (calls : List Call) (s : State) : State :=
  calls.foldl (fun s call => call.run answers s) s

end Calls

/-- What a call does to the settings. -/
def Call.apply : Call → Settings → Settings
  | .set setting v_value_u8, settings =>
    Function.update settings setting (setting.setter.bitname.fit v_value_u8.toBitVec)
  | _, settings => settings

/-- The settings of the constructor. -/
def constructed : Settings
  | .oversampTemperature => 3
  | .oversampPressure => 2
  | .oversampHumidity => 1
  | .spi3 | .filter | .standbyDurn => 0

section Runs

variable {answers : ℕ → Answer}

theorem Setting.set_eq (setting : Setting) (v_value_u8 : UInt8) :
    setting.set answers v_value_u8 = setField answers setting.setter v_value_u8 := by
  cases setting <;> rfl

/-- What a setter writes to a device that sleeps, behind its register, is in the copies already. -/
structure Setter.Proper (setter : Setter) : Prop where
  andMeas : ∀ p_bme280, setter.andMeas p_bme280 = [] ∨ setter.control ≠ .ctrlMeas ∧
    setter.andMeas p_bme280 = [(.ctrlMeas, p_bme280.ctrl_meas_reg)]

theorem Setting.proper (setting : Setting) : setting.setter.Proper where
  andMeas p_bme280 := by
    cases setting with
    | oversampHumidity => exact Or.inr ⟨by decide, rfl⟩
    | _ => exact Or.inl rfl

theorem powerMode_proper : powerMode.Proper := ⟨fun _ => Or.inl rfl⟩

/-- The three writes behind a reset set the registers to what is written. -/
theorem written_all (registers registers' : Control → UInt8) :
    written registers' [(.config, registers .config), (.ctrlHum, registers .ctrlHum),
      (.ctrlMeas, registers .ctrlMeas)] = registers := by
  funext control
  cases control <;> rfl

/-- The writes to a device that sleeps have the same effect, if the copies agree with it. -/
theorem written_asleep {setter : Setter} (proper : setter.Proper) {s : State} (h : Synced s)
    (v_data_u8 : UInt8) :
    settingsOf (written s.device ((setter.control, v_data_u8) :: setter.andMeas s.p_bme280)) =
      settingsOf (Function.update s.p_bme280.copy setter.control v_data_u8) := by
  rw [← written_congr h]
  rcases proper.andMeas s.p_bme280 with hnone | ⟨hcontrol, hmeas⟩
  · rw [hnone]
    rfl
  · rw [hmeas]
    change settingsOf (Function.update (Function.update _ _ _) .ctrlMeas _) = _
    have hkept : s.p_bme280.ctrl_meas_reg =
        Function.update s.p_bme280.copy setter.control v_data_u8 .ctrlMeas := by
      rw [Function.update_of_ne (Ne.symm hcontrol)]
      rfl
    rw [hkept, Function.update_eq_self]

theorem setField_settings (h : Sound answers) {setter : Setter} (proper : setter.Proper)
    (v_value_u8 : UInt8) {s : State} (synced : Synced s) :
    Synced (setField answers setter v_value_u8 s).2 ∧
      settingsOf (setField answers setter v_value_u8 s).2.device =
        settingsOf (Function.update s.p_bme280.copy setter.control
          (setBitslice (s.p_bme280.copy setter.control) setter.bitname v_value_u8)) := by
  let v_data_u8 := setBitslice (s.p_bme280.copy setter.control) setter.bitname v_value_u8
  let registers := (s.p_bme280.store setter.control v_data_u8).copy
  let awake : List (Control × UInt8) :=
    [(.config, registers .config), (.ctrlHum, registers .ctrlHum), (.ctrlMeas, registers .ctrlMeas)]
  let asleep := (setter.control, v_data_u8) :: setter.andMeas s.p_bme280
  have hregisters : registers = Function.update s.p_bme280.copy setter.control v_data_u8 :=
    copy_store s.p_bme280 setter.control v_data_u8
  have hawake : settingsOf (written (fun _ => 0) awake) = settingsOf registers :=
    congrArg settingsOf (written_all registers _)
  have hasleep : settingsOf (written s.device asleep) = settingsOf registers := by
    rw [hregisters]
    exact written_asleep proper synced v_data_u8
  obtain ⟨hdevice, -⟩ := update_settings h hawake hasleep
  let kept : State := { (update answers awake asleep s).2 with
    p_bme280 := setter.keep v_value_u8 (update answers awake asleep s).2.p_bme280 }
  obtain ⟨hsynced, hread⟩ := readBack_synced h mem_controls
    (if setter.oneVariable then v_data_u8 else 0) kept
  refine ⟨hsynced, ?_⟩
  rw [← hregisters]
  exact hread.trans hdevice

theorem getForcedUncomp_state (s : State) :
    (getForcedUncomp answers s).2 =
      (readBack answers [.ctrlHum, .config, .ctrlMeas] 0 (readUncomp answers (update answers
        [(.config, s.p_bme280.config_reg), (.ctrlHum, s.p_bme280.ctrl_hum_reg),
          (.ctrlMeas, setBitslice s.p_bme280.ctrl_meas_reg POWER_MODE BME280_FORCED_MODE)]
        [(.ctrlHum, s.p_bme280.ctrl_hum_reg),
          (.ctrlMeas, setBitslice s.p_bme280.ctrl_meas_reg POWER_MODE BME280_FORCED_MODE)]
        s).2).2).2 := rfl

theorem readUncomp_settings (s : State) :
    settingsOf (readUncomp answers s).2.device = settingsOf s.device := settingsOf_pass _ _

theorem getForcedUncomp_settings (h : Sound answers) {s : State} (synced : Synced s) :
    Synced (getForcedUncomp answers s).2 ∧
      settingsOf (getForcedUncomp answers s).2.device = settingsOf s.device := by
  rw [getForcedUncomp_state]
  have hregisters := settingsOf_mode s.p_bme280.copy BME280_FORCED_MODE
  change settingsOf (Function.update _ _ (setBitslice s.p_bme280.ctrl_meas_reg _ _)) = _
    at hregisters
  generalize setBitslice s.p_bme280.ctrl_meas_reg POWER_MODE BME280_FORCED_MODE = v_mode_u8r
    at hregisters ⊢
  let registers := Function.update s.p_bme280.copy .ctrlMeas v_mode_u8r
  let awake : List (Control × UInt8) :=
    [(.config, s.p_bme280.config_reg), (.ctrlHum, s.p_bme280.ctrl_hum_reg), (.ctrlMeas, v_mode_u8r)]
  let asleep : List (Control × UInt8) :=
    [(.ctrlHum, s.p_bme280.ctrl_hum_reg), (.ctrlMeas, v_mode_u8r)]
  have hawake : settingsOf (written (fun _ => 0) awake) = settingsOf registers :=
    congrArg settingsOf (written_all registers _)
  have hasleep : settingsOf (written s.device asleep) = settingsOf registers := by
    rw [← written_congr synced]
    change settingsOf (Function.update (Function.update _ .ctrlHum (s.p_bme280.copy .ctrlHum))
      .ctrlMeas _) = _
    rw [Function.update_eq_self]
  obtain ⟨hdevice, -⟩ := update_settings h hawake hasleep
  obtain ⟨hsynced, hread⟩ := readBack_synced h mem_controls' 0
    (readUncomp answers (update answers awake asleep s).2).2
  refine ⟨hsynced, ?_⟩
  calc settingsOf (readBack answers [.ctrlHum, .config, .ctrlMeas] 0
        (readUncomp answers (update answers awake asleep s).2).2).2.device
      = settingsOf (readUncomp answers (update answers awake asleep s).2).2.device := hread
    _ = settingsOf (update answers awake asleep s).2.device := readUncomp_settings _
    _ = settingsOf registers := hdevice
    _ = settingsOf s.device := hregisters.trans synced

/-- A call does to the settings what it is for, and leaves the copies right. -/
theorem run_settings (h : Sound answers) (call : Call) {s : State} (synced : Synced s) :
    Synced (call.run answers s) ∧
      settingsOf (call.run answers s).device = call.apply (settingsOf s.device) := by
  cases call with
  | set setting v_value_u8 =>
    obtain ⟨hsynced, hdevice⟩ := setField_settings h setting.proper v_value_u8 synced
    rw [Call.run, Setting.set_eq, Call.apply, ← synced]
    exact ⟨hsynced, hdevice.trans (settingsOf_setBitslice s.p_bme280.copy setting v_value_u8)⟩
  | setPowerMode v_power_mode_u8 =>
    rw [Call.run, Bme280.setPowerMode]
    split_ifs
    · obtain ⟨hsynced, hdevice⟩ := setField_settings h powerMode_proper v_power_mode_u8 synced
      refine ⟨hsynced, hdevice.trans ?_⟩
      exact (settingsOf_mode s.p_bme280.copy v_power_mode_u8).trans synced
    · exact ⟨synced, rfl⟩
  | getForcedUncomp =>
    rw [Call.run, Call.apply]
    · exact getForcedUncomp_settings h synced
    · simp

theorem runCalls_settings (h : Sound answers) (calls : List Call) {s : State}
    (synced : Synced s) :
    Synced (runCalls answers calls s) ∧ settingsOf (runCalls answers calls s).device =
      calls.foldl (fun settings call => call.apply settings) (settingsOf s.device) := by
  induction calls generalizing s with
  | nil => exact ⟨synced, rfl⟩
  | cons call calls ih =>
    obtain ⟨hsynced, hdevice⟩ := run_settings h call synced
    obtain ⟨hsynced', hdevice'⟩ := ih hsynced
    rw [List.foldl_cons, ← hdevice]
    exact ⟨hsynced', hdevice'⟩

/-! ## The constructor -/

/-- The calls of the constructor behind the reset and the first `bme280_set_power_mode`. -/
def constructorCalls : List Call :=
  [.set .oversampHumidity 1, .set .oversampPressure 2, .set .oversampTemperature 3,
    .set .standbyDurn 0, .setPowerMode BME280_FORCED_MODE]

theorem bind_state {α β : Type} (x : Driver α) (f : α → Driver β) (s : State) :
    (x >>= f) s = f (x s).1 (x s).2 := rfl

theorem construct_eq (s : State) :
    (construct answers s).2 = runCalls answers constructorCalls
      (setPowerMode answers BME280_SLEEP_MODE (setSoftRst answers s).2).2 := by
  simp only [construct, bind_state, runCalls, constructorCalls, List.foldl_cons, List.foldl_nil,
    Call.run, Setting.set]
  rfl

theorem setPowerMode_state {v_power_mode_u8 : UInt8} (h : v_power_mode_u8 ≤ BME280_NORMAL_MODE)
    (s : State) :
    (setPowerMode answers v_power_mode_u8 s).2 =
      (readBack answers [.ctrlMeas, .ctrlHum, .config] 0 (update answers
        [(.config, s.p_bme280.config_reg), (.ctrlHum, s.p_bme280.ctrl_hum_reg),
          (.ctrlMeas, setBitslice s.p_bme280.ctrl_meas_reg POWER_MODE v_power_mode_u8)]
        [(.ctrlMeas, setBitslice s.p_bme280.ctrl_meas_reg POWER_MODE v_power_mode_u8)] s).2).2 := by
  rw [setPowerMode, if_pos h]
  rfl

theorem getPowerMode_reset (h : Sound answers) {s : State} (hzero : s.device = fun _ => 0) :
    (getPowerMode answers s).1.2 = BME280_SLEEP_MODE := by
  have hread := (readRegister_eq h .ctrlMeas 0 s).1
  change getBitslice (readRegister answers .ctrlMeas 0 s).1.2 POWER_MODE = _
  rw [hread, hzero]
  cases (answers s.transfers.length).ends <;> rfl

/-- The first `bme280_set_power_mode` finds the device asleep, so that only `CTRL_MEAS` takes over
what stands in the copies. -/
theorem setPowerMode_reset (h : Sound answers) {s : State} (hzero : s.device = fun _ => 0) :
    Synced (setPowerMode answers BME280_SLEEP_MODE s).2 ∧ ∃ data : UInt8,
      settingsOf (setPowerMode answers BME280_SLEEP_MODE s).2.device =
        settingsOf (Function.update (fun _ => 0) .ctrlMeas data) := by
  rw [setPowerMode_state (by decide)]
  generalize setBitslice s.p_bme280.ctrl_meas_reg POWER_MODE BME280_SLEEP_MODE = v_data_u8
  have hmode := getPowerMode_reset h hzero
  obtain ⟨hpower, -⟩ := getPowerMode_settings answers s
  obtain ⟨hwritten, -⟩ :=
    writeAll_settings h [(.ctrlMeas, v_data_u8)] (getPowerMode answers s).2
  obtain ⟨hsynced, hread⟩ := readBack_synced h mem_controls 0
    (update answers [(.config, s.p_bme280.config_reg), (.ctrlHum, s.p_bme280.ctrl_hum_reg),
      (.ctrlMeas, v_data_u8)] [(.ctrlMeas, v_data_u8)] s).2
  refine ⟨hsynced, v_data_u8, ?_⟩
  rw [hzero] at hpower
  rw [update_run, if_neg (not_not.2 hmode)] at hread ⊢
  exact hread.trans (hwritten.trans (written_congr hpower _))

/-- The constructor sets every setting that the reset has not cleared. -/
theorem constructorCalls_settings (data : UInt8) :
    constructorCalls.foldl (fun settings call => call.apply settings)
      (settingsOf (Function.update (fun _ => 0) .ctrlMeas data)) = constructed := by
  have hcleared : ∀ setting : Setting, setting.setter.control ≠ .ctrlMeas →
      settingsOf (Function.update (fun _ => 0) .ctrlMeas data) setting = 0 := by
    intro setting hcontrol
    simp only [settingsOf, Function.update_of_ne hcontrol]
    cases setting <;> rfl
  generalize settingsOf (Function.update (fun _ => 0) .ctrlMeas data) = settings at hcleared ⊢
  funext setting
  cases setting with
  | spi3 => exact hcleared .spi3 (by decide)
  | filter => exact hcleared .filter (by decide)
  | _ => rfl

/-- Whatever the device and its uninitialised copies held, behind the constructor and any calls the
copies are right, and the settings are those of the constructor as the calls have changed them. -/
theorem settings_run (h : Sound answers) (s : State) (calls : List Call) :
    Synced (runCalls answers calls (construct answers s).2) ∧
      settingsOf (runCalls answers calls (construct answers s).2).device =
        calls.foldl (fun settings call => call.apply settings) constructed := by
  obtain ⟨hzero, -⟩ := setSoftRst_settings h s
  obtain ⟨hsynced, data, hreset⟩ := setPowerMode_reset h hzero
  obtain ⟨hsynced', hdevice'⟩ := runCalls_settings h constructorCalls hsynced
  have hconstructed := constructorCalls_settings data
  rw [construct_eq, ← hconstructed, ← hreset, ← hdevice']
  exact runCalls_settings h calls hsynced'

/-- A bus on which everything gets through. -/
def soundAnswers : ℕ → Answer := fun n =>
  { itsI2cDevice := Bme280Sensor.soundBus, ends := n % 2 = 0 }

theorem soundAnswers_sound : Sound soundAnswers where
  succeeded n request := by cases request <;> rfl

/-- A device that ran in the normal mode with other settings. -/
def usedDevice : State where
  p_bme280 := ⟨0xFF, 0xA5, 0x5A, 0, 0, 0, 0x77⟩
  device := fun _ => 0xFF

theorem settings_run_usedDevice :
    Synced (runCalls soundAnswers [.set .filter 12, .getForcedUncomp]
        (construct soundAnswers usedDevice).2) ∧
      settingsOf (runCalls soundAnswers [.set .filter 12, .getForcedUncomp]
        (construct soundAnswers usedDevice).2).device =
          Function.update constructed .filter 4 :=
  settings_run soundAnswers_sound usedDevice [.set .filter 12, .getForcedUncomp]

end Runs

end Bme280

end SgmDevice
