import RtuMaster.Loops
import RtuMaster.Exceptions

namespace RtuMaster
set_option autoImplicit true

inductive ButtonColor
  | red
  | green
  deriving DecidableEq, Repr

/-- The colour each branch of `connect_modbus` leaves on the connect button. -/
def ConnectOutcome.connectButton : ConnectOutcome → ButtonColor → ButtonColor
  | .showwarning _, color => color
  | .showinfo _, _ => .green
  | .showerror _, _ => .red

/-- `modbus_client` with the widgets every panel has: port and baud comboboxes, connect button. -/
structure Connection where
  modbusClient : Option ModbusSerialClient
  port : String
  ports : List String
  baud : String
  connectButton : ButtonColor

namespace Connection

/-- `refresh_ports`, with `list_com_ports` returning `devices` and turning the button red. -/
def refreshPorts (c : Connection) (devices : List String) : Connection :=
  match devices with
  | [] => { c with ports := [], connectButton := .red }
  | device :: _ => { c with ports := devices, port := device, connectButton := .red }

/-- The widgets as a panel builds them, then the `refresh_ports()` it runs at startup. -/
def launch (devices : List String) : Connection :=
  refreshPorts ⟨none, "", [], "115200", .red⟩ devices

def connect (c : Connection) (created : ModbusSerialClient) : Connection :=
  let result := connectModbus c.modbusClient c.port c.baud created
  { c with modbusClient := result.1, connectButton := result.2.connectButton c.connectButton }

/-- A widget event, or the port changing under an installed client, which then answers anew. -/
inductive Step : Connection → Connection → Prop
  | refresh (c : Connection) (devices : List String) : Step c (c.refreshPorts devices)
  | selectPort (c : Connection) (port : String) : port ∈ c.ports → Step c { c with port }
  | selectBaud (c : Connection) (baud : String) : baud ∈ baudrates → Step c { c with baud }
  | connect (c : Connection) (created : ModbusSerialClient) : Step c (c.connect created)
  | port (c : Connection) (client : ModbusSerialClient) :
      c.modbusClient ≠ none → Step c { c with modbusClient := some client }

inductive Reachable : Connection → Prop
  | launch (devices : List String) : Reachable (launch devices)
  | step : Reachable c → Step c c' → Reachable c'

/-- The baud rate is one the combobox offers, and a green button has a client behind it. -/
structure Inv (c : Connection) : Prop where
  baud : c.baud ∈ baudrates
  green : c.connectButton = .green → c.modbusClient ≠ none

variable {c c' : Connection}

@[simp] theorem refreshPorts_modbusClient (c : Connection) (devices : List String) :
    (c.refreshPorts devices).modbusClient = c.modbusClient := by
  cases devices <;> rfl

@[simp] theorem refreshPorts_baud (c : Connection) (devices : List String) :
    (c.refreshPorts devices).baud = c.baud := by
  cases devices <;> rfl

@[simp] theorem refreshPorts_connectButton (c : Connection) (devices : List String) :
    (c.refreshPorts devices).connectButton = .red := by
  cases devices <;> rfl

theorem connect_cases (hb : c.baud ∈ baudrates) (created : ModbusSerialClient) :
    (c.port = "" ∧ c.connect created = c) ∨
      (c.port ≠ "" ∧ (c.connect created).modbusClient = some created ∧
        (c.connect created).connectButton = if created.connect then .green else .red) := by
  obtain ⟨n, -, hn⟩ := baudrates_parse c.baud hb
  by_cases hp : c.port = ""
  · refine .inl ⟨hp, ?_⟩
    obtain ⟨client, port, ports, baud, button⟩ := c
    subst hp
    simp [connect, connectModbus, ConnectOutcome.connectButton]
  · refine .inr ⟨hp, ?_⟩
    by_cases hc : created.connect <;>
      simp [connect, connectModbus, hp, hn, hc, ConnectOutcome.connectButton]

theorem Inv.launch (devices : List String) : (launch devices).Inv :=
  ⟨by simp [Connection.launch, baudrates], by simp [Connection.launch]⟩

theorem Inv.step (h : c.Inv) (hs : Step c c') : c'.Inv := by
  cases hs with
  | refresh devices => exact ⟨by simpa using h.baud, by simp⟩
  | selectPort port _ => exact ⟨h.baud, h.green⟩
  | selectBaud baud hb => exact ⟨hb, h.green⟩
  | connect created =>
    rcases connect_cases h.baud created with ⟨-, he⟩ | ⟨-, hclient, -⟩
    · rw [he]; exact h
    · exact ⟨h.baud, fun _ => by simp [hclient]⟩
  | port client _ => exact ⟨h.baud, fun _ => Option.some_ne_none client⟩

theorem Reachable.inv (r : Reachable c) : c.Inv := by
  induction r with
  | launch devices => exact .launch devices
  | step _ hs ih => exact ih.step hs

theorem Step.modbusClient_ne_none (hs : Step c c') (h : c.modbusClient ≠ none) :
    c'.modbusClient ≠ none := by
  cases hs with
  | refresh devices => simpa using h
  | selectPort => exact h
  | selectBaud => exact h
  | connect created =>
    unfold Connection.connect connectModbus
    by_cases hp : c.port = ""
    · simpa [hp] using h
    · simp only [hp, if_false]
      split
      · exact h
      · split <;> simp
  | port client _ => exact Option.some_ne_none client

end Connection

/-- What holds of the connection widgets in every reachable state. -/
theorem connection_widgets_invariant (r : Connection.Reachable c) :
    c.baud ∈ baudrates ∧
    (c.connectButton = .green → c.modbusClient ≠ none) ∧
    (c.port ≠ "" → ∀ created, (c.connect created).modbusClient = some created) := by
  have h := r.inv
  refine ⟨h.baud, h.green, fun hp created => ?_⟩
  rcases Connection.connect_cases h.baud created with ⟨hp', -⟩ | ⟨-, hclient, -⟩
  · exact absurd hp' hp
  · exact hclient

theorem connection_widgets_invariant_launch :
    (Connection.launch ["COM1"]).baud ∈ baudrates ∧
    ((Connection.launch ["COM1"]).connectButton = .green →
      (Connection.launch ["COM1"]).modbusClient ≠ none) ∧
    ((Connection.launch ["COM1"]).port ≠ "" →
      ∀ created, ((Connection.launch ["COM1"]).connect created).modbusClient = some created) :=
  connection_widgets_invariant (.launch ["COM1"])

/-- A panel's state with its `modbus_client`, its launch state, and the loop it runs. -/
structure PanelKind where
  State : Type
  client : State → Option ModbusSerialClient
  withClient : State → Option ModbusSerialClient → State
  client_withClient : ∀ p c, client (withClient p c) = c
  init : State
  client_init : client init = none
  Loop : Type
  loopInit : Loop
  LoopStep : State → Loop → Loop → Prop
  LoopReachable : Loop → Prop
  loopReachable_init : LoopReachable loopInit
  loopReachable_step : ∀ {p l l'}, LoopReachable l → LoopStep p l l' → LoopReachable l'

/-- A running panel, whose handlers always read the connection's `modbus_client`. -/
structure Session (K : PanelKind) where
  connection : Connection
  panel : K.State
  client_eq : K.client panel = connection.modbusClient
  loop : K.Loop

namespace Session

variable {K : PanelKind}

def launch (K : PanelKind) (devices : List String) : Session K :=
  ⟨Connection.launch devices, K.init, by simp [K.client_init, Connection.launch], K.loopInit⟩

/-- A connection event, new entry text, or a loop event meeting the panel as it is. -/
inductive Step : Session K → Session K → Prop
  | connection (s : Session K) (c : Connection) : Connection.Step s.connection c →
      Step s ⟨c, K.withClient s.panel c.modbusClient, K.client_withClient _ _, s.loop⟩
  | edit (s : Session K) (p : K.State) :
      Step s ⟨s.connection, K.withClient p s.connection.modbusClient, K.client_withClient _ _,
        s.loop⟩
  | loop (s : Session K) (l : K.Loop) : K.LoopStep s.panel s.loop l → Step s { s with loop := l }

inductive Reachable : Session K → Prop
  | launch (devices : List String) : Reachable (launch K devices)
  | step : Reachable s → Step s s' → Reachable s'

variable {s s' : Session K}

theorem Reachable.project (r : Reachable s) :
    Connection.Reachable s.connection ∧ K.LoopReachable s.loop := by
  induction r with
  | launch devices => exact ⟨.launch devices, K.loopReachable_init⟩
  | step _ hs ih =>
    cases hs with
    | connection c h => exact ⟨.step ih.1 h, ih.2⟩
    | edit => exact ih
    | loop l h => exact ⟨ih.1, K.loopReachable_step ih.2 h⟩

theorem Reachable.client_of_green (r : Reachable s) (hg : s.connection.connectButton = .green) :
    ∃ client, K.client s.panel = some client := by
  rw [s.client_eq]
  exact Option.ne_none_iff_exists'.mp (r.project.1.inv.green hg)

theorem Step.client_ne_none (hs : Step s s') (h : K.client s.panel ≠ none) :
    K.client s'.panel ≠ none := by
  rw [s.client_eq] at h
  cases hs with
  | connection c hc => rw [K.client_withClient]; exact hc.modbusClient_ne_none h
  | edit => rwa [K.client_withClient]
  | loop => rwa [s.client_eq]

theorem Reachable.connect_installs (r : Reachable s) (hp : s.connection.port ≠ "")
    (created : ModbusSerialClient) :
    ∃ s', Step s s' ∧ K.client s'.panel = some created := by
  refine ⟨_, .connection s _ (.connect s.connection created), ?_⟩
  rw [K.client_withClient]
  rcases Connection.connect_cases r.project.1.inv.baud created with ⟨hp', -⟩ | ⟨-, h, -⟩
  · exact absurd hp' hp
  · exact h

end Session

/-- Once `modbus_client` is set it stays set, and a connect with a port selected sets it. -/
theorem session_client_persists {K : PanelKind} :
    (∀ s s' : Session K, Relation.ReflTransGen Session.Step s s' →
      K.client s.panel ≠ none → K.client s'.panel ≠ none) ∧
    (∀ s : Session K, s.Reachable → s.connection.port ≠ "" → ∀ created,
      ∃ s', Session.Step s s' ∧ K.client s'.panel = some created) := by
  refine ⟨fun s s' run h => ?_, fun s r hp => r.connect_installs hp⟩
  induction run with
  | refl => exact h
  | tail _ hs ih => exact hs.client_ne_none ih

namespace IoBoard

def panelKind : PanelKind where
  State := Panel
  client := Panel.modbusClient
  withClient p c := { p with modbusClient := c }
  client_withClient _ _ := rfl
  init := Panel.init
  client_init := rfl
  Loop := AutoDo
  loopInit := AutoDo.init
  LoopStep := AutoDo.Step
  LoopReachable := AutoDo.Reachable
  loopReachable_init := .init
  loopReachable_step r h := .step _ r h

end IoBoard

namespace RtdBoard

def panelKind : PanelKind where
  State := Panel
  client := Panel.modbusClient
  withClient p c := { p with modbusClient := c }
  client_withClient _ _ := rfl
  init := Panel.init
  client_init := rfl
  Loop := Unit
  loopInit := ()
  LoopStep _ _ _ := False
  LoopReachable _ := True
  loopReachable_init := trivial
  loopReachable_step _ h := h.elim

end RtdBoard

namespace ControlLogic

def panelKind : PanelKind where
  State := Panel
  client := Panel.modbusClient
  withClient p c := { p with modbusClient := c }
  client_withClient _ _ := rfl
  init := Panel.init
  client_init := rfl
  Loop := ManualReadLoop
  loopInit := ManualReadLoop.init
  LoopStep := ManualReadLoop.Step
  LoopReachable := ManualReadLoop.Reachable
  loopReachable_init := .init
  loopReachable_step r h := .step _ r h

end ControlLogic

def Effect.Refused : Effect → Prop
  | .showwarning _ => True
  | .resultText issued text => issued = none ∧ text = "Invalid analog mode"

/-- A refusal, or as this call's `connect()` answers, a request handed on or "connect error". -/
def Effect.Answered (client : ModbusSerialClient) (e : Effect) : Prop :=
  e.Refused ∨ if client.connect then e.issued.isSome else e = .resultText none "connect error"

def ReturnsOnly (Q : Effect → Prop) (run : Except PyError Effect) : Prop :=
  ∀ e, run = .ok e → Q e

variable {Q : Effect → Prop}

theorem ReturnsOnly.bind {x : Except PyError α} {f : α → Except PyError Effect}
    (hf : ∀ a, ReturnsOnly Q (f a)) : ReturnsOnly Q (x >>= f) := by
  intro e h
  cases hx : x with
  | error => rw [hx] at h; cases h
  | ok a => rw [hx] at h; exact hf a e h

theorem returnsOnly_pure (h : Q e) : ReturnsOnly Q (pure e) := by
  rintro e' ⟨⟩; exact h

theorem returnsOnly_showwarning (message : String) :
    ReturnsOnly (Effect.Answered client) (pure (.showwarning message)) :=
  returnsOnly_pure (.inl trivial)

theorem returnsOnly_invalidAnalogMode :
    ReturnsOnly (Effect.Answered client) (pure (.resultText none "Invalid analog mode")) :=
  returnsOnly_pure (.inl ⟨rfl, rfl⟩)

theorem returnsOnly_transact (hc : c = some client) :
    ReturnsOnly (Effect.Answered client) (transact c r text) := by
  subst hc
  rintro e he
  cases hconn : client.connect <;>
    simp only [transact_some, hconn, Bool.false_eq_true, if_true, if_false, Except.ok.injEq] at he <;>
    subst he <;> simp [Effect.Answered, hconn, Effect.issued]

theorem returnsOnly_manualRead {read : Int → Int → Int → Except PyError Effect}
    (hr : ∀ address slaveId count, ReturnsOnly Q (read address slaveId count))
    (hw : ∀ message, Q (.showwarning message)) : ReturnsOnly Q (manualRead read a b d) := by
  unfold manualRead
  refine ReturnsOnly.bind fun slaveId => ?_
  split
  · exact returnsOnly_pure (hw _)
  · split
    · split
      · exact returnsOnly_pure (hw _)
      · exact hr _ _ _
    · exact returnsOnly_pure (hw _)

theorem escapes_of_client (hc : c = some client) (h : Escapes c unset e) :
    e = .valueError ∨ (e = .unboundLocalError ∧ unset) := by
  subst hc
  cases e <;> simp_all [Escapes]

theorem escapes_of_client_false (hc : c = some client) (h : Escapes c False e) :
    e = .valueError :=
  escapes_some_false (hc ▸ h)

namespace IoBoard

variable {p : Panel} {client : ModbusSerialClient}

theorem Command.handler_answered (c : Command) (hc : p.modbusClient = some client) :
    ReturnsOnly (Effect.Answered client) (c.handler p) := by
  cases c <;> simp only [Command.handler, doButtonCmd, diButtonCmd, analogSetModeButtonCmd,
    aoVoltageButtonCmd, aoCurrentButtonCmd, aiVoltageButtonCmd, aiCurrentButtonCmd, aoButtonCmd,
    aiButtonCmd, writeHoldingRegister, writeHoldingRegisters, readHoldingRegisters]
  all_goals repeat' with_reducible first
    | exact returnsOnly_transact hc
    | exact returnsOnly_invalidAnalogMode | refine ReturnsOnly.bind fun _ => ?_ | split

theorem manualReadCmd_answered (hc : p.modbusClient = some client) :
    ReturnsOnly (Effect.Answered client) (manualReadCmd p) :=
  returnsOnly_manualRead (fun _ _ _ => returnsOnly_transact hc) fun _ => .inl trivial

end IoBoard

namespace RtdBoard

variable {p : Panel} {client : ModbusSerialClient}

theorem Command.handler_answered (c : Command) (hc : p.modbusClient = some client) :
    ReturnsOnly (Effect.Answered client) (c.handler p) := by
  cases c <;> simp only [Command.handler, pwmFrequencySetCmd, pwmDutySetCmd, pwmDutyGetCmd,
    pwmFrequencyGetCmd, pwmWidthGetCmd, ad7124ResistanceGetCmd, channelGetCmd,
    pressureSensorGetCmd, writeHoldingRegister, writeHoldingRegisters, readHoldingRegisters]
  all_goals repeat' with_reducible first
    | exact returnsOnly_transact hc | refine ReturnsOnly.bind fun _ => ?_

theorem manualReadCmd_answered (hc : p.modbusClient = some client) :
    ReturnsOnly (Effect.Answered client) (manualReadCmd p) :=
  returnsOnly_manualRead (fun _ _ _ => returnsOnly_transact hc) fun _ => .inl trivial

end RtdBoard

namespace ControlLogic

variable {p : Panel} {client : ModbusSerialClient}

theorem handlers_answered (hc : p.modbusClient = some client) :
    ∀ cmd ∈ [controlLogicStatusButtonCmd, controlLogicConfigGetButtonCmd,
      controlLogicConfigSetButtonCmd, manualReadCmd], ReturnsOnly (Effect.Answered client) (cmd p) := by
  simp only [List.mem_cons, List.mem_singleton, List.not_mem_nil, or_false, forall_eq_or_imp,
    forall_eq]
  refine ⟨?_, ?_, ?_, returnsOnly_manualRead (fun _ _ _ => returnsOnly_transact hc)
    fun _ => .inl trivial⟩
  all_goals
    simp only [controlLogicStatusButtonCmd, controlLogicConfigGetButtonCmd,
      controlLogicConfigSetButtonCmd, readHoldingRegisters, writeHoldingRegister]
    repeat' with_reducible first
      | exact returnsOnly_transact hc | exact returnsOnly_showwarning _
      | refine ReturnsOnly.bind fun _ => ?_ | split

end ControlLogic

/-- While the connect button is green no press raises `AttributeError`. -/
theorem green_button_presses :
    (∀ s : Session IoBoard.panelKind, s.Reachable → s.connection.connectButton = .green →
      ∃ client, s.panel.modbusClient = some client ∧
      (∀ c : IoBoard.Command,
        RaisesOnly (fun e => e = .valueError ∨
          (e = .unboundLocalError ∧ IoBoard.analogShift s.panel.analogPortEntry = none))
          (c.handler s.panel) ∧
        ReturnsOnly (Effect.Answered client) (c.handler s.panel)) ∧
      RaisesOnly (· = .valueError) (IoBoard.manualReadCmd s.panel) ∧
      ReturnsOnly (Effect.Answered client) (IoBoard.manualReadCmd s.panel)) ∧
    (∀ s : Session RtdBoard.panelKind, s.Reachable → s.connection.connectButton = .green →
      ∃ client, s.panel.modbusClient = some client ∧
      (∀ c : RtdBoard.Command, RaisesOnly (· = .valueError) (c.handler s.panel) ∧
        ReturnsOnly (Effect.Answered client) (c.handler s.panel)) ∧
      RaisesOnly (· = .valueError) (RtdBoard.manualReadCmd s.panel) ∧
      ReturnsOnly (Effect.Answered client) (RtdBoard.manualReadCmd s.panel)) ∧
    (∀ s : Session ControlLogic.panelKind, s.Reachable → s.connection.connectButton = .green →
      ∃ client, s.panel.modbusClient = some client ∧
      ∀ cmd ∈ [ControlLogic.controlLogicStatusButtonCmd,
        ControlLogic.controlLogicConfigGetButtonCmd, ControlLogic.controlLogicConfigSetButtonCmd,
        ControlLogic.manualReadCmd],
        RaisesOnly (· = .valueError) (cmd s.panel) ∧
        ReturnsOnly (Effect.Answered client) (cmd s.panel)) := by
  refine ⟨fun s r hg => ?_, fun s r hg => ?_, fun s r hg => ?_⟩ <;>
    obtain ⟨client, hc⟩ := r.client_of_green hg
  · refine ⟨client, hc, fun c => ⟨(IoBoard.Command.handler_escapes c s.panel).mono fun e he =>
        escapes_of_client hc he, c.handler_answered hc⟩,
      (IoBoard.manualReadCmd_escapes s.panel).mono fun _ he => escapes_of_client_false hc he,
      IoBoard.manualReadCmd_answered hc⟩
  · refine ⟨client, hc, fun c => ⟨(RtdBoard.Command.handler_escapes c s.panel).mono fun _ he =>
        escapes_of_client_false hc he, c.handler_answered hc⟩,
      (RtdBoard.manualReadCmd_escapes s.panel).mono fun _ he => escapes_of_client_false hc he,
      RtdBoard.manualReadCmd_answered hc⟩
  · exact ⟨client, hc, fun cmd hcmd => ⟨(ControlLogic.handlers_escape s.panel cmd hcmd).mono
      fun _ he => escapes_of_client_false hc he, ControlLogic.handlers_answered hc cmd hcmd⟩⟩

theorem green_button_presses_connected :
    ∃ client, IoBoard.Panel.acked.modbusClient = some client ∧
      (∀ c : IoBoard.Command,
        RaisesOnly (fun e => e = .valueError ∨
          (e = .unboundLocalError ∧ IoBoard.analogShift IoBoard.Panel.acked.analogPortEntry = none))
          (c.handler IoBoard.Panel.acked) ∧
        ReturnsOnly (Effect.Answered client) (c.handler IoBoard.Panel.acked)) ∧
      RaisesOnly (· = .valueError) (IoBoard.manualReadCmd IoBoard.Panel.acked) ∧
      ReturnsOnly (Effect.Answered client) (IoBoard.manualReadCmd IoBoard.Panel.acked) :=
  green_button_presses.1
    ⟨(Connection.launch ["COM1"]).connect ackClient, IoBoard.Panel.acked, rfl,
      IoBoard.AutoDo.init⟩
    (.step (.launch ["COM1"]) (.connection _ _ (.connect _ ackClient))) rfl

end RtuMaster
