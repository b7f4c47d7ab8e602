import RtuMaster.Transport

namespace RtuMaster.RtdBoard
set_option autoImplicit true

def modbusAddressStart : Int := 11000
def modbusAddressPwmFrequency : Int := 504
def modbusAddressPwmDutySet : Int := 506
def modbusAddressPwmDutyGet : Int := 514
def modbusAddressPwmFrequencyGet : Int := 522
def modbusAddressPwmWidthGet : Int := 538
def modbusAddressAd7124ResistanceGet : Int := 554
def modbusAddressPressure : Int := 578

/-- The RTD board panel as its handlers read it: the client and the text of each entry. -/
structure Panel where
  modbusClient : Option ModbusSerialClient
  slaveIdEntry : String
  slotIdEntry : String
  frequencyValueEntry : String
  numberIdEntry : String
  dutyValueEntry : String
  modbusSlaveIdEntry : String
  manualAddressEntry : String
  readQuantityEntry : String

def Panel.init : Panel where
  modbusClient := none
  slaveIdEntry := "100"
  slotIdEntry := "0"
  frequencyValueEntry := "0"
  numberIdEntry := "0"
  dutyValueEntry := "0"
  modbusSlaveIdEntry := "1"
  manualAddressEntry := "12500"
  readQuantityEntry := "100"

def pwmFrequencySetCmd (p : Panel) : Except PyError Effect := do
  let slaveId ← pyInt p.slaveIdEntry
  let slotId ← pyInt p.slotIdEntry
  let value ← pyInt p.frequencyValueEntry
  let address := modbusAddressStart + slotId * 1000 + modbusAddressPwmFrequency
  writeHoldingRegisters p.modbusClient address slaveId value

def pwmDutySetCmd (p : Panel) : Except PyError Effect := do
  let slaveId ← pyInt p.slaveIdEntry
  let slotId ← pyInt p.slotIdEntry
  let numberId ← pyInt p.numberIdEntry
  let value ← pyInt p.dutyValueEntry
  let address := modbusAddressStart + slotId * 1000 + modbusAddressPwmDutySet + numberId
  writeHoldingRegister p.modbusClient address slaveId value

/-- The channel reads: `count` registers at `base + numberId * stride` of the slot. -/
def channelGetCmd (base stride count : Int) (p : Panel) : Except PyError Effect := do
  let slaveId ← pyInt p.slaveIdEntry
  let slotId ← pyInt p.slotIdEntry
  let numberId ← pyInt p.numberIdEntry
  let address := modbusAddressStart + slotId * 1000 + base + numberId * stride
  readHoldingRegisters p.modbusClient address slaveId count

def pwmDutyGetCmd : Panel → Except PyError Effect := channelGetCmd modbusAddressPwmDutyGet 1 1

def pwmFrequencyGetCmd : Panel → Except PyError Effect :=
  channelGetCmd modbusAddressPwmFrequencyGet 2 2

def pwmWidthGetCmd : Panel → Except PyError Effect := channelGetCmd modbusAddressPwmWidthGet 2 2

def ad7124ResistanceGetCmd : Panel → Except PyError Effect :=
  channelGetCmd modbusAddressAd7124ResistanceGet 2 2

/-- The 485 slave id is shifted down by one before it is added to the address. -/
def pressureSensorGetCmd (p : Panel) : Except PyError Effect := do
  let slaveId ← pyInt p.slaveIdEntry
  let slotId ← pyInt p.slotIdEntry
  let modbusSlaveId ← pyInt p.modbusSlaveIdEntry
  let modbusSlaveId := modbusSlaveId - 1
  let address := modbusAddressStart + slotId * 1000 + modbusAddressPressure + modbusSlaveId
  readHoldingRegisters p.modbusClient address slaveId 1

def manualReadCmd (p : Panel) : Except PyError Effect :=
  manualRead
    (fun address slaveId count => readHoldingRegisters p.modbusClient address slaveId count)
    p.slaveIdEntry p.manualAddressEntry p.readQuantityEntry

/-- A 485 slave id as the combobox offers it: "1" to "32". -/
structure Rs485Id where
  val : Nat
  one_le : 1 ≤ val
  le_32 : val ≤ 32
  deriving DecidableEq

theorem Rs485Id.ext (a b : Rs485Id) (h : a.val = b.val) : a = b := by
  cases a; cases b; cases h; rfl

inductive Command
  | pwmFrequencySet
  | pwmDutySet (numberId : Fin 8)
  | pwmDutyGet (numberId : Fin 8)
  | pwmFrequencyGet (numberId : Fin 8)
  | pwmWidthGet (numberId : Fin 8)
  | ad7124ResistanceGet (numberId : Fin 8)
  | pressureSensorGet (modbusSlaveId : Rs485Id)
  deriving DecidableEq

structure Target where
  command : Command
  slot : Nat
  deriving DecidableEq

def Target.address : Target → Int
  | ⟨.pwmFrequencySet, slot⟩ => modbusAddressStart + slot * 1000 + modbusAddressPwmFrequency
  | ⟨.pwmDutySet n, slot⟩ => modbusAddressStart + slot * 1000 + modbusAddressPwmDutySet + n
  | ⟨.pwmDutyGet n, slot⟩ => modbusAddressStart + slot * 1000 + modbusAddressPwmDutyGet + n * 1
  | ⟨.pwmFrequencyGet n, slot⟩ =>
    modbusAddressStart + slot * 1000 + modbusAddressPwmFrequencyGet + n * 2
  | ⟨.pwmWidthGet n, slot⟩ =>
    modbusAddressStart + slot * 1000 + modbusAddressPwmWidthGet + n * 2
  | ⟨.ad7124ResistanceGet n, slot⟩ =>
    modbusAddressStart + slot * 1000 + modbusAddressAd7124ResistanceGet + n * 2
  | ⟨.pressureSensorGet modbusSlaveId, slot⟩ =>
    modbusAddressStart + slot * 1000 + modbusAddressPressure + ((modbusSlaveId.val : Int) - 1)

def Command.width : Command → Nat
  | .pwmDutySet _ | .pwmDutyGet _ | .pressureSensorGet _ => 1
  | .pwmFrequencySet | .pwmFrequencyGet _ | .pwmWidthGet _ | .ad7124ResistanceGet _ => 2

def Target.window (t : Target) : Finset Int :=
  Finset.Ico t.address (t.address + t.command.width)

def Command.handler : Command → Panel → Except PyError Effect
  | .pwmFrequencySet => pwmFrequencySetCmd
  | .pwmDutySet _ => pwmDutySetCmd
  | .pwmDutyGet _ => pwmDutyGetCmd
  | .pwmFrequencyGet _ => pwmFrequencyGetCmd
  | .pwmWidthGet _ => pwmWidthGetCmd
  | .ad7124ResistanceGet _ => ad7124ResistanceGetCmd
  | .pressureSensorGet _ => pressureSensorGetCmd

/-- The panel's entries name the target: its slot, and its channel or 485 slave id. -/
def Target.Selects (t : Target) (p : Panel) : Prop :=
  pyInt p.slotIdEntry = .ok (t.slot : Int) ∧
    match t.command with
    | .pwmFrequencySet => True
    | .pwmDutySet n | .pwmDutyGet n | .pwmFrequencyGet n | .pwmWidthGet n
    | .ad7124ResistanceGet n => pyInt p.numberIdEntry = .ok ((n : Nat) : Int)
    | .pressureSensorGet modbusSlaveId => pyInt p.modbusSlaveIdEntry = .ok (modbusSlaveId.val : Int)

/-- A request a target's handler issues from entries naming the target covers its window. -/
theorem Target.issues_window {t : Target} (ht : t.Selects p) (h : Issues (t.command.handler p) r) :
    r.window = t.window := by
  obtain ⟨c, slot⟩ := t
  obtain ⟨hslot, hc⟩ := ht
  cases c with
  | pwmFrequencySet =>
    simp only [Command.handler, pwmFrequencySetCmd, issues_bind, hslot] at h
    obtain ⟨slaveId, -, _, ⟨⟩, value, -, h⟩ := h
    rw [issues_transact h]
    simp [Request.window, Target.window, Target.address, Command.width, valuesList]
  | pwmDutySet n =>
    simp only [Command.handler, pwmDutySetCmd, issues_bind, hslot, hc] at h
    obtain ⟨slaveId, -, _, ⟨⟩, _, ⟨⟩, value, -, h⟩ := h
    rw [issues_transact h]
    rfl
  | pressureSensorGet modbusSlaveId =>
    simp only [Command.handler, pressureSensorGetCmd, issues_bind, hslot, hc] at h
    obtain ⟨slaveId, -, _, ⟨⟩, _, ⟨⟩, h⟩ := h
    rw [issues_transact h]
    rfl
  | pwmDutyGet n | pwmFrequencyGet n | pwmWidthGet n | ad7124ResistanceGet n =>
    simp only [Command.handler, pwmDutyGetCmd, pwmFrequencyGetCmd, pwmWidthGetCmd,
      ad7124ResistanceGetCmd, channelGetCmd, issues_bind, hslot, hc] at h
    obtain ⟨slaveId, -, _, ⟨⟩, _, ⟨⟩, h⟩ := h
    rw [issues_transact h]
    rfl

end RtuMaster.RtdBoard
