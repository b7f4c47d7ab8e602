import RtuMaster.Transport

namespace RtuMaster.ControlLogic
set_option autoImplicit true

def modbusAddressControlLogicStatusAlarm : Int := 2
def modbusAddressControlLogicStatusT2Avg : Int := 11
def modbusAddressControlLogicStatusT3Avg : Int := 14
def modbusAddressControlLogicStatusT4Avg : Int := 17
def modbusAddressControlLogic1Enable : Int := 15000
def modbusAddressControlLogic1FanRotationConfig : Int := 15001
def modbusAddressControlLogic1TargetCoolantTemp : Int := 15002
def modbusAddressControlLogic1Tolerance : Int := 15003
def modbusAddressControlLogic1CriticalHigh : Int := 15004
def modbusAddressControlLogic1CriticalLow : Int := 15005
def modbusAddressControlLogic1MovingAverageWindowsSize : Int := 15006

/-- The control-logic panel as its handlers read it: the client and the text of each entry. -/
structure Panel where
  modbusClient : Option ModbusSerialClient
  slaveIdEntry : String
  controlLogicAddressEntry : String
  controlLogicConfigEntry : String
  controlLogicConfigValueEntry : String
  manualAddressEntry : String
  readQuantityEntry : String

def Panel.init : Panel where
  modbusClient := none
  slaveIdEntry := "100"
  controlLogicAddressEntry := "alarm"
  controlLogicConfigEntry := "control_logic1_enable"
  controlLogicConfigValueEntry := "0"
  manualAddressEntry := "15000"
  readQuantityEntry := "100"

def Panel.acked : Panel := { Panel.init with modbusClient := some ackClient }

/-- This panel's reader takes `result.registers[0]` before it looks at `count`. -/
def readText (count : Int) : Response → String
  | .isError => "read error"
  | .raises _ => "except error"
  | .registers registers =>
    match registers with
    | [] => "except error"
    | value :: _ =>
      if count > 1 then "[" ++ ", ".intercalate (registers.map toString) ++ "]"
      else toString value

def readHoldingRegisters (modbusClient : Option ModbusSerialClient)
    (address slaveId : Int) (count : Int := 1) : Except PyError Effect :=
  transact modbusClient (.readHoldingRegisters address count slaveId) (readText count)

/-- The two readers differ only on an empty answer to a read of more than one register. -/
theorem readText_eq :
    ((r ≠ .registers [] ∨ count ≤ 1) → readText count r = RtuMaster.readText count r) ∧
    (count > 1 → readText count (.registers []) = "except error" ∧
      RtuMaster.readText count (.registers []) = "[]") := by
  refine ⟨fun h => ?_, fun hc => ⟨rfl, by simp only [RtuMaster.readText, if_pos hc]; rfl⟩⟩
  rcases r with _ | _ | _
  · rename_i registers
    cases registers with
    | nil => simp only [ne_eq, not_true_eq_false, false_or] at h; simp [readText,
        RtuMaster.readText, show ¬count > 1 by omega]
    | cons value rest => simp [readText, RtuMaster.readText]
  · rfl
  · rfl

def controlLogicStatusAddress (controlLogicAddress : String) : Option Int :=
  if controlLogicAddress = "alarm" then some modbusAddressControlLogicStatusAlarm
  else if controlLogicAddress = "t2_avg" then some modbusAddressControlLogicStatusT2Avg
  else if controlLogicAddress = "t3_avg" then some modbusAddressControlLogicStatusT3Avg
  else if controlLogicAddress = "t4_avg" then some modbusAddressControlLogicStatusT4Avg
  else none

def controlLogicConfigAddress (controlLogic : String) : Option Int :=
  if controlLogic = "control_logic1_enable" then some modbusAddressControlLogic1Enable
  else if controlLogic = "control_logic1_fan_rotation_config" then
    some modbusAddressControlLogic1FanRotationConfig
  else if controlLogic = "control_logic1_target_coolant_temp" then
    some modbusAddressControlLogic1TargetCoolantTemp
  else if controlLogic = "control_logic1_tolerance" then some modbusAddressControlLogic1Tolerance
  else if controlLogic = "control_logic1_critical_high" then
    some modbusAddressControlLogic1CriticalHigh
  else if controlLogic = "control_logic1_critical_low" then
    some modbusAddressControlLogic1CriticalLow
  else if controlLogic = "control_logic1_moving_average_windows_size" then
    some modbusAddressControlLogic1MovingAverageWindowsSize
  else none

def controlLogicStatusButtonCmd (p : Panel) : Except PyError Effect := do
  let slaveId ← pyInt p.slaveIdEntry
  match controlLogicStatusAddress p.controlLogicAddressEntry with
  | none => pure (.showwarning "Please select control logic address!")
  | some address => readHoldingRegisters p.modbusClient address slaveId 1

def controlLogicConfigGetButtonCmd (p : Panel) : Except PyError Effect := do
  let slaveId ← pyInt p.slaveIdEntry
  match controlLogicConfigAddress p.controlLogicConfigEntry with
  | none => pure (.showwarning "Please select control logic address!")
  | some address => readHoldingRegisters p.modbusClient address slaveId 1

/-- Unlike the getter, the setter parses the value before it looks the name up. -/
def controlLogicConfigSetButtonCmd (p : Panel) : Except PyError Effect := do
  let slaveId ← pyInt p.slaveIdEntry
  let controlLogicValue ← pyInt p.controlLogicConfigValueEntry
  match controlLogicConfigAddress p.controlLogicConfigEntry with
  | none => pure (.showwarning "Please select control logic address!")
  | some address => writeHoldingRegister p.modbusClient address slaveId controlLogicValue

def manualReadCmd (p : Panel) : Except PyError Effect :=
  manualRead
    (fun address slaveId count => readHoldingRegisters p.modbusClient address slaveId count)
    p.slaveIdEntry p.manualAddressEntry p.readQuantityEntry

end RtuMaster.ControlLogic
