import RtuMaster.Python
import Mathlib.Order.Interval.Finset.Defs
import Mathlib.Order.Interval.Finset.Nat
import Mathlib.Data.Int.Interval

namespace RtuMaster
set_option autoImplicit true

inductive Request
  | readHoldingRegisters (address count slave : Int)
  | writeRegister (address value slave : Int)
  | writeRegisters (address slave : Int) (values : List Int)
  deriving DecidableEq, Repr

inductive Response
  | registers (registers : List Int)
  | isError
  | raises (message : String)
  deriving DecidableEq, Repr

/-- A `ModbusSerialClient` as its port answers the next call: `connect()`, then the request. -/
structure ModbusSerialClient where
  connect : Bool
  execute : Request → Response

def ackClient : ModbusSerialClient := ⟨true, fun _ => .registers []⟩

/-- What a handler leaves: the result text with the request it issued, or a warning box. -/
inductive Effect
  | resultText (issued : Option Request) (text : String)
  | showwarning (message : String)
  deriving DecidableEq, Repr

def Effect.issued : Effect → Option Request
  | .resultText issued _ => issued
  | .showwarning _ => none

def Issues (run : Except PyError Effect) (r : Request) : Prop :=
  ∃ e, run = .ok e ∧ e.issued = some r

def Request.window : Request → Finset Int
  | .readHoldingRegisters address count _ => Finset.Ico address (address + count)
  | .writeRegister address _ _ => Finset.Ico address (address + 1)
  | .writeRegisters address _ values => Finset.Ico address (address + values.length)

/-- The transport functions' shape: `connect()` outside the `try`, then one request. -/
def transact (modbusClient : Option ModbusSerialClient) (request : Request)
    (text : Response → String) : Except PyError Effect :=
  match modbusClient with
  | none => .error .attributeError
  | some client =>
    if client.connect then .ok (.resultText (some request) (text (client.execute request)))
    else .ok (.resultText none "connect error")

def readText (count : Int) : Response → String
  | .isError => "read error"
  | .raises _ => "except error"
  | .registers registers =>
    if count > 1 then "[" ++ ", ".intercalate (registers.map toString) ++ "]"
    else match registers with
      | value :: _ => toString value
      | [] => "except error"

def readHoldingRegisters (modbusClient : Option ModbusSerialClient)
    (address slaveId : Int) (count : Int := 1) : Except PyError Effect :=
  transact modbusClient (.readHoldingRegisters address count slaveId) (readText count)

def writeText : Response → String
  | .isError => "write error"
  | .raises _ => "except error"
  | .registers _ => "write success"

def writeHoldingRegister (modbusClient : Option ModbusSerialClient)
    (address slaveId : Int) (value : Int := 0) : Except PyError Effect :=
  transact modbusClient (.writeRegister address value slaveId) writeText

def valuesList (value : Int) : List Int :=
  let lowWord := Int.land value 0xFFFF
  let highWord := Int.land (Int.shiftRight value 16) 0xFFFF
  [lowWord, highWord]

def writeWordsText : Response → String
  | .isError => "write error"
  | .raises message => "except error: " ++ message
  | .registers _ => "write success"

def writeHoldingRegisters (modbusClient : Option ModbusSerialClient)
    (address slaveId : Int) (value : Int := 0) : Except PyError Effect :=
  transact modbusClient (.writeRegisters address slaveId (valuesList value)) writeWordsText

/-- Reading a local that an `if`/`elif` chain with no `else` may have left unassigned. -/
def bound : Option α → Except PyError α
  | some a => .ok a
  | none => .error .unboundLocalError

theorem bind_eq_error {x : Except PyError α} {f : α → Except PyError β} :
    x >>= f = .error e ↔ x = .error e ∨ ∃ a, x = .ok a ∧ f a = .error e := by
  cases x <;> simp [bind, Except.bind]

theorem bound_eq_error {o : Option α} :
    bound o = .error e ↔ o = none ∧ e = .unboundLocalError := by
  cases o <;> simp [bound, eq_comm]

theorem issues_bind {x : Except PyError α} {f : α → Except PyError Effect} :
    Issues (x >>= f) r ↔ ∃ a, x = .ok a ∧ Issues (f a) r := by
  cases x <;> simp [Issues, bind, Except.bind]

@[simp] theorem bound_some (a : α) : bound (some a) = .ok a := rfl

@[simp] theorem transact_none : transact none r text = .error .attributeError := rfl

@[simp] theorem transact_some (client : ModbusSerialClient) :
    transact (some client) r text =
      if client.connect then .ok (.resultText (some r) (text (client.execute r)))
      else .ok (.resultText none "connect error") := rfl

theorem transact_error_iff :
    transact c r text = .error e ↔ c = none ∧ e = .attributeError := by
  cases c with
  | none => simp [eq_comm]
  | some client => by_cases h : client.connect <;> simp [h]

theorem issues_transact : Issues (transact c r text) r' → r' = r := by
  rintro ⟨eff, h, hr⟩
  cases c with
  | none => cases h
  | some client =>
    by_cases hc : client.connect <;> simp only [transact_some, hc] at h <;> cases h <;>
      simp_all [Effect.issued]

theorem issues_transact_of_connect (client : ModbusSerialClient) (h : client.connect = true) :
    Issues (transact (some client) r text) r :=
  ⟨.resultText (some r) (text (client.execute r)), by simp [h], rfl⟩

/-- `manual_read_cmd` of all three panels, over the `read_holding_registers` it calls. -/
def manualRead (read : Int → Int → Int → Except PyError Effect)
    (slaveIdEntry manualAddressEntry readQuantityEntry : String) : Except PyError Effect := do
  let slaveId ← pyInt slaveIdEntry
  match pyInt manualAddressEntry with
  | .error _ => pure (.showwarning "Please input valid manual address!")
  | .ok address =>
    match pyInt readQuantityEntry with
    | .ok readCount =>
      if readCount ≤ 0 then pure (.showwarning "Please input valid read quantity!")
      else read address slaveId readCount
    | .error _ => pure (.showwarning "Please input valid read quantity!")

inductive ConnectOutcome
  | showwarning (message : String)
  | showinfo (message : String)
  | showerror (message : String)
  deriving DecidableEq, Repr

def baudrates : List String := ["9600", "19200", "38400", "115200"]

/-- `connect_modbus`, where `created` is the client `ModbusSerialClient(...)` builds. -/
def connectModbus (modbusClient : Option ModbusSerialClient) (port baud : String)
    (created : ModbusSerialClient) : Option ModbusSerialClient × ConnectOutcome :=
  if port = "" then (modbusClient, .showwarning "Please select COM port!")
  else
    match pyInt baud with
    | .error _ => (modbusClient,
        .showerror ("connect to " ++ port ++ " failed: \ninvalid literal for int() with base 10"))
    | .ok _ =>
      if created.connect then (some created, .showinfo ("connect to " ++ port))
      else (some created, .showerror ("connect to " ++ port ++ " failed"))

theorem baudrates_parse :
    ∀ baud ∈ baudrates, ∃ n ∈ [9600, 19200, 38400, 115200], pyInt baud = .ok n := by
  decide

theorem connectModbus_client (hp : port ≠ "") (hb : baud ∈ baudrates) :
    (connectModbus c port baud created).1 = some created := by
  obtain ⟨n, -, hn⟩ := baudrates_parse baud hb
  unfold connectModbus
  simp only [hp, if_false, hn]
  split <;> rfl

end RtuMaster
