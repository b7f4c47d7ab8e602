import RtuMaster.IoBoard
import RtuMaster.RtdBoard
import RtuMaster.ControlLogic

namespace RtuMaster
set_option autoImplicit true

/-- Every exception `run` can raise satisfies `P`. -/
def RaisesOnly (P : PyError → Prop) (run : Except PyError α) : Prop :=
  ∀ e, run = .error e → P e

/-- `ValueError`, `AttributeError` while no client exists, `UnboundLocalError` where `unset`. -/
def Escapes (modbusClient : Option ModbusSerialClient) (unset : Prop) : PyError → Prop
  | .valueError => True
  | .attributeError => modbusClient = none
  | .unboundLocalError => unset

variable {P Q : PyError → Prop}

theorem raisesOnly_pure (P : PyError → Prop) (a : α) : RaisesOnly P (pure a) := by
  intro e h; cases h

theorem RaisesOnly.bind {x : Except PyError α} {f : α → Except PyError β}
    (hx : RaisesOnly P x) (hf : ∀ a, RaisesOnly P (f a)) : RaisesOnly P (x >>= f) := by
  intro e h
  rcases bind_eq_error.mp h with h | ⟨a, -, h⟩
  exacts [hx e h, hf a e h]

theorem RaisesOnly.mono {run : Except PyError α} (h : RaisesOnly P run)
    (hPQ : ∀ e, P e → Q e) : RaisesOnly Q run :=
  fun e he => hPQ e (h e he)

theorem raisesOnly_pyInt : RaisesOnly (Escapes c unset) (pyInt s) := by
  intro e h; rw [pyInt_error h]; trivial

theorem raisesOnly_transact : RaisesOnly (Escapes c unset) (transact c r text) := by
  intro e h
  obtain ⟨hc, rfl⟩ := transact_error_iff.mp h
  exact hc

theorem raisesOnly_bound {o : Option α} (h : o = none → unset) :
    RaisesOnly (Escapes c unset) (bound o) := by
  intro e he
  obtain ⟨ho, rfl⟩ := bound_eq_error.mp he
  exact h ho

theorem raisesOnly_manualRead {read : Int → Int → Int → Except PyError Effect}
    (hs : RaisesOnly P (pyInt a))
    (hr : ∀ address slaveId count, RaisesOnly P (read address slaveId count)) :
    RaisesOnly P (manualRead read a b d) := by
  unfold manualRead
  refine hs.bind fun slaveId => ?_
  split
  · exact raisesOnly_pure P _
  · split
    · split
      · exact raisesOnly_pure P _
      · exact hr _ _ _
    · exact raisesOnly_pure P _

namespace IoBoard

theorem analogModeAddress_eq_none :
    analogModeAddress slotId analogPort = none ↔ analogShift analogPort = none := by
  unfold analogModeAddress analogShift
  split_ifs <;> simp

theorem Command.handler_escapes (c : Command) (p : Panel) :
    RaisesOnly (Escapes p.modbusClient (analogShift p.analogPortEntry = none)) (c.handler p) := by
  cases c <;> simp only [Command.handler, doButtonCmd, diButtonCmd, analogSetModeButtonCmd,
    aoVoltageButtonCmd, aoCurrentButtonCmd, aiVoltageButtonCmd, aiCurrentButtonCmd, aoButtonCmd,
    aiButtonCmd, writeHoldingRegister, writeHoldingRegisters, readHoldingRegisters]
  all_goals repeat' with_reducible first
    | exact raisesOnly_pyInt | exact raisesOnly_transact | exact raisesOnly_pure _ _
    | exact raisesOnly_bound id | exact raisesOnly_bound analogModeAddress_eq_none.mp
    | refine RaisesOnly.bind ?_ fun _ => ?_ | split

theorem doButtonCmd_escapes (p : Panel) :
    RaisesOnly (Escapes p.modbusClient False) (doButtonCmd p) :=
  raisesOnly_pyInt.bind fun _ => raisesOnly_pyInt.bind fun _ => raisesOnly_pyInt.bind fun _ =>
    raisesOnly_pyInt.bind fun _ => raisesOnly_transact

theorem manualReadCmd_escapes (p : Panel) :
    RaisesOnly (Escapes p.modbusClient False) (manualReadCmd p) :=
  raisesOnly_manualRead raisesOnly_pyInt fun _ _ _ => raisesOnly_transact

end IoBoard

namespace RtdBoard

theorem Command.handler_escapes (c : Command) (p : Panel) :
    RaisesOnly (Escapes p.modbusClient False) (c.handler p) := by
  cases c <;> simp only [Command.handler, pwmFrequencySetCmd, pwmDutySetCmd, pwmDutyGetCmd,
    pwmFrequencyGetCmd, pwmWidthGetCmd, ad7124ResistanceGetCmd, channelGetCmd,
    pressureSensorGetCmd, writeHoldingRegister, writeHoldingRegisters, readHoldingRegisters]
  all_goals repeat' with_reducible first
    | exact raisesOnly_pyInt | exact raisesOnly_transact | refine RaisesOnly.bind ?_ fun _ => ?_

theorem manualReadCmd_escapes (p : Panel) :
    RaisesOnly (Escapes p.modbusClient False) (manualReadCmd p) :=
  raisesOnly_manualRead raisesOnly_pyInt fun _ _ _ => raisesOnly_transact

end RtdBoard

namespace ControlLogic

theorem handlers_escape (p : Panel) :
    ∀ cmd ∈ [controlLogicStatusButtonCmd, controlLogicConfigGetButtonCmd,
      controlLogicConfigSetButtonCmd, manualReadCmd],
      RaisesOnly (Escapes p.modbusClient False) (cmd p) := by
  simp only [List.mem_cons, List.mem_singleton, List.not_mem_nil, or_false, forall_eq_or_imp,
    forall_eq]
  refine ⟨?_, ?_, ?_, raisesOnly_manualRead raisesOnly_pyInt fun _ _ _ => raisesOnly_transact⟩
  all_goals
    simp only [controlLogicStatusButtonCmd, controlLogicConfigGetButtonCmd,
      controlLogicConfigSetButtonCmd, readHoldingRegisters, writeHoldingRegister]
    repeat' with_reducible first
      | exact raisesOnly_pyInt | exact raisesOnly_transact | exact raisesOnly_pure _ _
      | refine RaisesOnly.bind ?_ fun _ => ?_ | split

end ControlLogic

/-- What can escape a handler of any of the three panels, the manual reads included. -/
theorem panel_handlers_escape :
    (∀ (c : IoBoard.Command) (p : IoBoard.Panel),
      RaisesOnly (Escapes p.modbusClient (IoBoard.analogShift p.analogPortEntry = none))
        (c.handler p)) ∧
    (∀ p : IoBoard.Panel, RaisesOnly (Escapes p.modbusClient False) (IoBoard.manualReadCmd p)) ∧
    (∀ (c : RtdBoard.Command) (p : RtdBoard.Panel),
      RaisesOnly (Escapes p.modbusClient False) (c.handler p)) ∧
    (∀ p : RtdBoard.Panel,
      RaisesOnly (Escapes p.modbusClient False) (RtdBoard.manualReadCmd p)) ∧
    (∀ p : ControlLogic.Panel, ∀ cmd ∈ [ControlLogic.controlLogicStatusButtonCmd,
      ControlLogic.controlLogicConfigGetButtonCmd, ControlLogic.controlLogicConfigSetButtonCmd,
      ControlLogic.manualReadCmd], RaisesOnly (Escapes p.modbusClient False) (cmd p)) :=
  ⟨IoBoard.Command.handler_escapes, IoBoard.manualReadCmd_escapes,
    RtdBoard.Command.handler_escapes, RtdBoard.manualReadCmd_escapes,
    ControlLogic.handlers_escape⟩

theorem escapes_some_false : Escapes (some client) False e → e = .valueError := by
  cases e <;> simp [Escapes]

/-- Once `connect_modbus` has run on a selected port, a loop tick raises only `ValueError`. -/
theorem connected_ticks_raise_valueError (hp : port ≠ "") (hb : baud ∈ baudrates) :
    (∀ p : IoBoard.Panel, p.modbusClient = (connectModbus c port baud created).1 →
      RaisesOnly (· = .valueError) (IoBoard.doButtonCmd p)) ∧
    (∀ p : ControlLogic.Panel, p.modbusClient = (connectModbus c port baud created).1 →
      RaisesOnly (· = .valueError) (ControlLogic.manualReadCmd p)) := by
  rw [connectModbus_client hp hb]
  refine ⟨fun p hc => ?_, fun p hc => ?_⟩
  · exact (IoBoard.doButtonCmd_escapes p).mono fun e he => escapes_some_false (hc ▸ he)
  · exact ((ControlLogic.handlers_escape p _ (by simp)).mono fun e he =>
      escapes_some_false (hc ▸ he))

theorem connected_ticks_raise_valueError_com1 :
    (∀ p : IoBoard.Panel, p.modbusClient = (connectModbus none "COM1" "9600" ackClient).1 →
      RaisesOnly (· = .valueError) (IoBoard.doButtonCmd p)) ∧
    (∀ p : ControlLogic.Panel, p.modbusClient = (connectModbus none "COM1" "9600" ackClient).1 →
      RaisesOnly (· = .valueError) (ControlLogic.manualReadCmd p)) :=
  connected_ticks_raise_valueError (by decide) (by decide)

end RtuMaster
