import RtuMaster.Transport

namespace RtuMaster.IoBoard
set_option autoImplicit true

def modbusAddressStart : Int := 11000
def modbusAddressDo : Int := 1
def modbusAddressDi : Int := 9
def modbusAddressAnalogModePortA : Int := 17
def modbusAddressAnalogModePortB : Int := 18
def modbusAddressAnalogModePortC : Int := 19
def modbusAddressAnalogModePortD : Int := 20
def modbusAddressAoVoltage : Int := 37
def modbusAddressAoCurrent : Int := 45
def modbusAddressAiVoltage : Int := 53
def modbusAddressAiCurrent : Int := 61

/-- The I/O board panel as its handlers read it: the client and the text of each entry. -/
structure Panel where
  modbusClient : Option ModbusSerialClient
  slaveIdEntry : String
  slotIdEntry : String
  numberIdEntry : String
  doValueEntry : String
  analogPortEntry : String
  analogModeEntry : String
  aoValueEntry : String
  manualAddressEntry : String
  readQuantityEntry : String

def Panel.init : Panel where
  modbusClient := none
  slaveIdEntry := "100"
  slotIdEntry := "0"
  numberIdEntry := "0"
  doValueEntry := "0"
  analogPortEntry := "A"
  analogModeEntry := "AO_Voltage"
  aoValueEntry := "0"
  manualAddressEntry := "11001"
  readQuantityEntry := "100"

def Panel.acked : Panel := { Panel.init with modbusClient := some ackClient }

def doButtonCmd (p : Panel) : Except PyError Effect := do
  let slaveId ← pyInt p.slaveIdEntry
  let slotId ← pyInt p.slotIdEntry
  let numberId ← pyInt p.numberIdEntry
  let address := modbusAddressStart + slotId * 100 + modbusAddressDo + numberId
  let value ← pyInt p.doValueEntry
  writeHoldingRegister p.modbusClient address slaveId value

def diButtonCmd (p : Panel) : Except PyError Effect := do
  let slaveId ← pyInt p.slaveIdEntry
  let slotId ← pyInt p.slotIdEntry
  let numberId ← pyInt p.numberIdEntry
  let address := modbusAddressStart + slotId * 100 + modbusAddressDi + numberId
  readHoldingRegisters p.modbusClient address slaveId 1

/-- `shift` of the analog handlers: ports "A" to "D" give 0 to 3, any other leaves it unset. -/
def analogShift (analogPort : String) : Option Int :=
  if analogPort = "A" then some 0
  else if analogPort = "B" then some 1
  else if analogPort = "C" then some 2
  else if analogPort = "D" then some 3
  else none

/-- The analog output handlers: the value is parsed before `shift` is read. -/
def aoButtonCmd (base : Int) (p : Panel) : Except PyError Effect := do
  let slaveId ← pyInt p.slaveIdEntry
  let slotId ← pyInt p.slotIdEntry
  let value ← pyInt p.aoValueEntry
  let address :=
    modbusAddressStart + slotId * 100 + base + (← bound (analogShift p.analogPortEntry)) * 2
  writeHoldingRegisters p.modbusClient address slaveId value

def aoVoltageButtonCmd : Panel → Except PyError Effect := aoButtonCmd modbusAddressAoVoltage

def aoCurrentButtonCmd : Panel → Except PyError Effect := aoButtonCmd modbusAddressAoCurrent

/-- The analog input handlers: two registers from the port's pair. -/
def aiButtonCmd (base : Int) (p : Panel) : Except PyError Effect := do
  let slaveId ← pyInt p.slaveIdEntry
  let slotId ← pyInt p.slotIdEntry
  let address :=
    modbusAddressStart + slotId * 100 + base + (← bound (analogShift p.analogPortEntry)) * 2
  readHoldingRegisters p.modbusClient address slaveId 2

def aiVoltageButtonCmd : Panel → Except PyError Effect := aiButtonCmd modbusAddressAiVoltage

def aiCurrentButtonCmd : Panel → Except PyError Effect := aiButtonCmd modbusAddressAiCurrent

def analogModeAddress (slotId : Int) (analogPort : String) : Option Int :=
  if analogPort = "A" then
    some (modbusAddressStart + slotId * 100 + modbusAddressAnalogModePortA)
  else if analogPort = "B" then
    some (modbusAddressStart + slotId * 100 + modbusAddressAnalogModePortB)
  else if analogPort = "C" then
    some (modbusAddressStart + slotId * 100 + modbusAddressAnalogModePortC)
  else if analogPort = "D" then
    some (modbusAddressStart + slotId * 100 + modbusAddressAnalogModePortD)
  else none

/-- The mode numbers the combobox's names are sent as. -/
def analogModeValue (analogMode : String) : Option Int :=
  if analogMode = "AO_Voltage" then some 0
  else if analogMode = "AO_Current" then some 1
  else if analogMode = "AI_Voltage" then some 2
  else if analogMode = "AI_Current_loop" then some 3
  else if analogMode = "AI_Current_ext" then some 4
  else none

def analogSetModeButtonCmd (p : Panel) : Except PyError Effect := do
  let slaveId ← pyInt p.slaveIdEntry
  let slotId ← pyInt p.slotIdEntry
  let address := analogModeAddress slotId p.analogPortEntry
  match analogModeValue p.analogModeEntry with
  | none => pure (.resultText none "Invalid analog mode")
  | some analogMode => writeHoldingRegister p.modbusClient (← bound address) slaveId analogMode

def manualReadCmd (p : Panel) : Except PyError Effect :=
  manualRead
    (fun address slaveId count => readHoldingRegisters p.modbusClient address slaveId count)
    p.slaveIdEntry p.manualAddressEntry p.readQuantityEntry

theorem doButtonCmd_eq (hs : pyInt p.slaveIdEntry = .ok slaveId)
    (hl : pyInt p.slotIdEntry = .ok slotId) (hn : pyInt p.numberIdEntry = .ok numberId)
    (hv : pyInt p.doValueEntry = .ok value) :
    doButtonCmd p = writeHoldingRegister p.modbusClient
      (modbusAddressStart + slotId * 100 + modbusAddressDo + numberId) slaveId value := by
  simp [doButtonCmd, hs, hl, hn, hv, bind, Except.bind]

example : doButtonCmd Panel.init = .error .attributeError := by decide

inductive AnalogPort
  | A | B | C | D
  deriving DecidableEq

def AnalogPort.text : AnalogPort → String
  | .A => "A" | .B => "B" | .C => "C" | .D => "D"

def AnalogPort.shift : AnalogPort → Nat
  | .A => 0 | .B => 1 | .C => 2 | .D => 3

inductive Command
  | digitalOutput (numberId : Fin 8)
  | digitalInput (numberId : Fin 8)
  | analogSetMode (port : AnalogPort)
  | aoVoltage (port : AnalogPort)
  | aoCurrent (port : AnalogPort)
  | aiVoltage (port : AnalogPort)
  | aiCurrent (port : AnalogPort)
  deriving DecidableEq

structure Target where
  command : Command
  slot : Nat
  deriving DecidableEq

def analogModePortAddress : AnalogPort → Int
  | .A => modbusAddressAnalogModePortA
  | .B => modbusAddressAnalogModePortB
  | .C => modbusAddressAnalogModePortC
  | .D => modbusAddressAnalogModePortD

/-- The address the command's handler computes for the target. -/
def Target.address : Target → Int
  | ⟨.digitalOutput n, slot⟩ => modbusAddressStart + slot * 100 + modbusAddressDo + n
  | ⟨.digitalInput n, slot⟩ => modbusAddressStart + slot * 100 + modbusAddressDi + n
  | ⟨.analogSetMode port, slot⟩ => modbusAddressStart + slot * 100 + analogModePortAddress port
  | ⟨.aoVoltage port, slot⟩ =>
    modbusAddressStart + slot * 100 + modbusAddressAoVoltage + port.shift * 2
  | ⟨.aoCurrent port, slot⟩ =>
    modbusAddressStart + slot * 100 + modbusAddressAoCurrent + port.shift * 2
  | ⟨.aiVoltage port, slot⟩ =>
    modbusAddressStart + slot * 100 + modbusAddressAiVoltage + port.shift * 2
  | ⟨.aiCurrent port, slot⟩ =>
    modbusAddressStart + slot * 100 + modbusAddressAiCurrent + port.shift * 2

def Command.width : Command → Nat
  | .digitalOutput _ | .digitalInput _ | .analogSetMode _ => 1
  | .aoVoltage _ | .aoCurrent _ | .aiVoltage _ | .aiCurrent _ => 2

def Target.window (t : Target) : Finset Int :=
  Finset.Ico t.address (t.address + t.command.width)

theorem analogModePortAddress_eq (port : AnalogPort) :
    analogModePortAddress port = modbusAddressAnalogModePortA + port.shift := by
  cases port <;> rfl

theorem AnalogPort.shift_lt (port : AnalogPort) : port.shift < 4 := by cases port <;> decide

theorem AnalogPort.shift_injective : Function.Injective AnalogPort.shift := by
  intro a b h; cases a <;> cases b <;> first | rfl | cases h

def Command.handler : Command → Panel → Except PyError Effect
  | .digitalOutput _ => doButtonCmd
  | .digitalInput _ => diButtonCmd
  | .analogSetMode _ => analogSetModeButtonCmd
  | .aoVoltage _ => aoVoltageButtonCmd
  | .aoCurrent _ => aoCurrentButtonCmd
  | .aiVoltage _ => aiVoltageButtonCmd
  | .aiCurrent _ => aiCurrentButtonCmd

/-- The panel's entries name the target: its slot, and its channel or port. -/
def Target.Selects (t : Target) (p : Panel) : Prop :=
  pyInt p.slotIdEntry = .ok (t.slot : Int) ∧
    match t.command with
    | .digitalOutput n | .digitalInput n => pyInt p.numberIdEntry = .ok ((n : Nat) : Int)
    | .analogSetMode port | .aoVoltage port | .aoCurrent port | .aiVoltage port
    | .aiCurrent port => p.analogPortEntry = port.text

theorem analogShift_text (port : AnalogPort) : analogShift port.text = some (port.shift : Int) := by
  cases port <;> decide

theorem analogModeAddress_text (port : AnalogPort) : analogModeAddress slotId port.text =
    some (modbusAddressStart + slotId * 100 + analogModePortAddress port) := by
  cases port <;> simp [analogModeAddress, AnalogPort.text, analogModePortAddress]

/-- A request a target's handler issues from entries naming the target covers its window. -/
theorem Target.issues_window {t : Target} (ht : t.Selects p) (h : Issues (t.command.handler p) r) :
    r.window = t.window := by
  obtain ⟨c, slot⟩ := t
  obtain ⟨hslot, hc⟩ := ht
  cases c with
  | digitalOutput n =>
    simp only [Command.handler, doButtonCmd, issues_bind, hslot, hc] at h
    obtain ⟨slaveId, -, _, ⟨⟩, _, ⟨⟩, value, -, h⟩ := h
    rw [issues_transact h]
    rfl
  | digitalInput n =>
    simp only [Command.handler, diButtonCmd, issues_bind, hslot, hc] at h
    obtain ⟨slaveId, -, _, ⟨⟩, _, ⟨⟩, h⟩ := h
    rw [issues_transact h]
    rfl
  | analogSetMode port =>
    simp only [Command.handler, analogSetModeButtonCmd, issues_bind, hslot, hc,
      analogModeAddress_text] at h
    obtain ⟨slaveId, -, _, ⟨⟩, h⟩ := h
    split at h
    · obtain ⟨_, ⟨⟩, ⟨⟩⟩ := h
    · simp only [bound_some, issues_bind] at h
      obtain ⟨_, ⟨⟩, h⟩ := h
      rw [issues_transact h]
      rfl
  | aoVoltage port | aoCurrent port =>
    simp only [Command.handler, aoVoltageButtonCmd, aoCurrentButtonCmd, aoButtonCmd, issues_bind,
      hslot, hc, analogShift_text, bound_some] at h
    obtain ⟨slaveId, -, _, ⟨⟩, value, -, _, ⟨⟩, h⟩ := h
    rw [issues_transact h]
    simp [Request.window, Target.window, Target.address, Command.width, valuesList]
  | aiVoltage port | aiCurrent port =>
    simp only [Command.handler, aiVoltageButtonCmd, aiCurrentButtonCmd, aiButtonCmd, issues_bind,
      hslot, hc, analogShift_text, bound_some] at h
    obtain ⟨slaveId, -, _, ⟨⟩, _, ⟨⟩, h⟩ := h
    rw [issues_transact h]
    rfl

end RtuMaster.IoBoard
