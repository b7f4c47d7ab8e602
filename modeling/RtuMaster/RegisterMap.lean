import RtuMaster.IoBoard
import RtuMaster.RtdBoard
import Mathlib.Data.Fintype.Basic
import Mathlib.Tactic.DeriveFintype

namespace RtuMaster
set_option autoImplicit true

/-- Function `f` has `count f` windows of `stride f` registers from `base f`, in every slot. -/
structure RegisterMap (F : Type) where
  start : Int
  slotStride : Nat
  base : F → Nat
  stride : F → Nat
  count : F → Nat

namespace RegisterMap

variable {F : Type} (m : RegisterMap F)

/-- `START + slot * slot_stride + base + channel * channel_stride`. -/
def resolve (slot : Nat) (f : F) (channel : Nat) : Int :=
  m.start + slot * m.slotStride + m.base f + channel * m.stride f

def window (slot : Nat) (f : F) (channel : Nat) : Finset Int :=
  Finset.Ico (m.resolve slot f channel) (m.resolve slot f channel + m.stride f)

def blockEnd (f : F) : Nat := m.base f + m.count f * m.stride f

/-- Windows are nonempty, each function's block fits in a slot, and no two blocks overlap. -/
def WellLaidOut [DecidableEq F] : Prop :=
  (∀ f, 0 < m.stride f) ∧ (∀ f, m.blockEnd f ≤ m.slotStride) ∧
    ∀ f g, f ≠ g → m.blockEnd f ≤ m.base g ∨ m.blockEnd g ≤ m.base f

instance [Fintype F] [DecidableEq F] : Decidable m.WellLaidOut :=
  inferInstanceAs (Decidable (_ ∧ _))

theorem add_le_mul_of_lt (h : a < b) (k : Nat) : a * k + k ≤ b * k := by
  simpa [Nat.succ_mul] using Nat.mul_le_mul_right k h

theorem window_disjoint [DecidableEq F] (hm : m.WellLaidOut) (hi : i < m.count f)
    (hj : j < m.count g) (hne : (s, f, i) ≠ (s', g, j)) :
    Disjoint (m.window s f i) (m.window s' g j) := by
  obtain ⟨-, hfit, hsep⟩ := hm
  have hf := add_le_mul_of_lt hi (m.stride f)
  have hg := add_le_mul_of_lt hj (m.stride g)
  have hff := hfit f
  have hgg := hfit g
  simp only [blockEnd] at hff hgg hsep
  rw [Finset.disjoint_left]
  intro a ha hb
  simp only [window, resolve, Finset.mem_Ico] at ha hb
  by_cases hs : s = s'
  · subst hs
    by_cases hfg : f = g
    · subst hfg
      have hij : i ≠ j := fun h => hne (by rw [h])
      rcases Nat.lt_or_gt_of_ne hij with h | h <;> have := add_le_mul_of_lt h (m.stride f) <;> omega
    · have := hsep f g hfg
      omega
  · rcases Nat.lt_or_gt_of_ne hs with h | h <;> have := add_le_mul_of_lt h m.slotStride <;> omega

theorem resolve_mem_window [DecidableEq F] (hm : m.WellLaidOut) :
    m.resolve s f i ∈ m.window s f i := by
  have := hm.1 f
  simp only [window, Finset.mem_Ico]
  omega

/-- A board's targets on the map: a slot, a function and a channel each, no two alike. -/
structure Placement (T : Type) where
  slot : T → Nat
  function : T → F
  channel : T → Nat
  channel_lt : ∀ t, channel t < m.count (function t)
  injective : ∀ t t', slot t = slot t' → function t = function t' → channel t = channel t' →
    t = t'

namespace Placement

variable {m} {T : Type} (p : m.Placement T)

def address (t : T) : Int := m.resolve (p.slot t) (p.function t) (p.channel t)

def window (t : T) : Finset Int := m.window (p.slot t) (p.function t) (p.channel t)

variable [DecidableEq F] (hm : m.WellLaidOut)
include hm

theorem window_disjoint {t t' : T} (h : t ≠ t') : Disjoint (p.window t) (p.window t') :=
  m.window_disjoint hm (p.channel_lt t) (p.channel_lt t') fun he => h <| by
    simp only [Prod.mk.injEq] at he
    exact p.injective t t' he.1 he.2.1 he.2.2

theorem address_mem_window (t : T) : p.address t ∈ p.window t :=
  m.resolve_mem_window hm

theorem address_injective : Function.Injective p.address := fun t t' h =>
  by_contra fun hne => Finset.disjoint_left.mp (p.window_disjoint hm hne)
    (p.address_mem_window hm t) (h ▸ p.address_mem_window hm t')

end Placement

end RegisterMap

namespace IoBoard

inductive BoardFunction
  | digitalOutput | digitalInput | analogMode | aoVoltage | aoCurrent | aiVoltage | aiCurrent
  deriving DecidableEq, Fintype

def registerMap : RegisterMap BoardFunction where
  start := 11000
  slotStride := 100
  base
    | .digitalOutput => 1 | .digitalInput => 9 | .analogMode => 17 | .aoVoltage => 37
    | .aoCurrent => 45 | .aiVoltage => 53 | .aiCurrent => 61
  stride
    | .digitalOutput | .digitalInput | .analogMode => 1
    | .aoVoltage | .aoCurrent | .aiVoltage | .aiCurrent => 2
  count
    | .digitalOutput | .digitalInput => 8
    | .analogMode | .aoVoltage | .aoCurrent | .aiVoltage | .aiCurrent => 4

theorem registerMap_wellLaidOut : registerMap.WellLaidOut := by decide

def Command.function : Command → BoardFunction
  | .digitalOutput _ => .digitalOutput | .digitalInput _ => .digitalInput
  | .analogSetMode _ => .analogMode | .aoVoltage _ => .aoVoltage | .aoCurrent _ => .aoCurrent
  | .aiVoltage _ => .aiVoltage | .aiCurrent _ => .aiCurrent

def Command.channel : Command → Nat
  | .digitalOutput n | .digitalInput n => n
  | .analogSetMode port | .aoVoltage port | .aoCurrent port | .aiVoltage port
  | .aiCurrent port => port.shift

theorem Command.channel_lt (c : Command) : c.channel < registerMap.count c.function := by
  cases c <;> first | exact Fin.isLt _ | exact AnalogPort.shift_lt _

theorem Command.eq_of_function_channel {c c' : Command} (hf : c.function = c'.function)
    (hc : c.channel = c'.channel) : c = c' := by
  cases c <;> cases c' <;> simp only [function, reduceCtorEq] at hf <;>
    simp only [channel, Fin.val_inj] at hc <;> first | rw [hc] | rw [AnalogPort.shift_injective hc]

def placement : registerMap.Placement Target where
  slot := Target.slot
  function t := t.command.function
  channel t := t.command.channel
  channel_lt t := t.command.channel_lt
  injective := fun ⟨_, _⟩ ⟨_, _⟩ hs hf hc => by
    cases Command.eq_of_function_channel hf hc
    cases hs
    rfl

theorem Target.address_eq (t : Target) : t.address = placement.address t := by
  obtain ⟨c, slot⟩ := t
  cases c <;> simp [address, analogModePortAddress_eq, RegisterMap.Placement.address, placement,
    RegisterMap.resolve, registerMap, modbusAddressStart, modbusAddressDo, modbusAddressDi,
    modbusAddressAnalogModePortA, modbusAddressAoVoltage, modbusAddressAoCurrent,
    modbusAddressAiVoltage, modbusAddressAiCurrent, Command.function, Command.channel,
    ← add_assoc]

theorem Target.window_eq (t : Target) : t.window = placement.window t := by
  have hw : (t.command.width : Int) = registerMap.stride t.command.function := by
    cases t.command <;> rfl
  rw [window, t.address_eq, hw]
  rfl

theorem Target.window_disjoint {t t' : Target} (h : t ≠ t') : Disjoint t.window t'.window := by
  rw [t.window_eq, t'.window_eq]
  exact placement.window_disjoint registerMap_wellLaidOut h

theorem Target.address_injective : Function.Injective Target.address := by
  rw [show Target.address = placement.address from funext Target.address_eq]
  exact placement.address_injective registerMap_wellLaidOut

def Command.port : Command → AnalogPort
  | .analogSetMode port | .aoVoltage port | .aoCurrent port | .aiVoltage port
  | .aiCurrent port => port
  | .digitalOutput _ | .digitalInput _ => .A

/-- The launch panel with an acknowledging client, its entries set to name the target. -/
def Target.panel (t : Target) : Panel :=
  { Panel.acked with
    slotIdEntry := toString (t.slot : Int)
    numberIdEntry := toString (t.command.channel : Int)
    analogPortEntry := t.command.port.text }

theorem Command.pyInt_channel (c : Command) :
    pyInt (toString (c.channel : Int)) = .ok c.channel :=
  pyInt_toString_of_lt (lt_ten_pow_maxStrDigits (c.channel_lt.le.trans (by
    cases c.function <;> decide)))

theorem Target.selects_panel (t : Target) (h : t.slot < 10 ^ maxStrDigits) :
    t.Selects t.panel := by
  refine ⟨pyInt_toString_of_lt h, ?_⟩
  obtain ⟨c, slot⟩ := t
  cases c <;> first | exact Command.pyInt_channel _ | rfl

theorem Target.issues_panel (t : Target) (h : t.slot < 10 ^ maxStrDigits) :
    ∃ r, Issues (t.command.handler t.panel) r := by
  obtain ⟨c, slot⟩ := t
  have hs := pyInt_toString_of_lt h
  have hc := c.pyInt_channel
  have h100 : pyInt "100" = .ok 100 := by decide
  have h0 : pyInt "0" = .ok 0 := by decide
  have hmode : analogModeValue "AO_Voltage" = some 0 := by decide
  cases c <;> simp only [Command.handler, doButtonCmd, diButtonCmd, analogSetModeButtonCmd,
    aoVoltageButtonCmd, aoCurrentButtonCmd, aiVoltageButtonCmd, aiCurrentButtonCmd, aoButtonCmd,
    aiButtonCmd, Target.panel, Panel.acked, Panel.init, hs, hc, h100, h0, hmode,
    analogShift_text, analogModeAddress_text, issues_bind, bound_some, Except.ok.injEq,
    exists_eq_left, exists_eq_left', Command.port]
  all_goals exact ⟨_, issues_transact_of_connect ackClient rfl⟩

end IoBoard

namespace RtdBoard

inductive BoardFunction
  | pwmFrequency | pwmDutySet | pwmDutyGet | pwmFrequencyGet | pwmWidthGet | ad7124Resistance
  | pressure
  deriving DecidableEq, Fintype

def registerMap : RegisterMap BoardFunction where
  start := 11000
  slotStride := 1000
  base
    | .pwmFrequency => 504 | .pwmDutySet => 506 | .pwmDutyGet => 514 | .pwmFrequencyGet => 522
    | .pwmWidthGet => 538 | .ad7124Resistance => 554 | .pressure => 578
  stride
    | .pwmDutySet | .pwmDutyGet | .pressure => 1
    | .pwmFrequency | .pwmFrequencyGet | .pwmWidthGet | .ad7124Resistance => 2
  count
    | .pwmFrequency => 1 | .pressure => 32
    | .pwmDutySet | .pwmDutyGet | .pwmFrequencyGet | .pwmWidthGet | .ad7124Resistance => 8

theorem registerMap_wellLaidOut : registerMap.WellLaidOut := by decide

def Command.function : Command → BoardFunction
  | .pwmFrequencySet => .pwmFrequency | .pwmDutySet _ => .pwmDutySet
  | .pwmDutyGet _ => .pwmDutyGet | .pwmFrequencyGet _ => .pwmFrequencyGet
  | .pwmWidthGet _ => .pwmWidthGet | .ad7124ResistanceGet _ => .ad7124Resistance
  | .pressureSensorGet _ => .pressure

def Command.channel : Command → Nat
  | .pwmFrequencySet => 0
  | .pwmDutySet n | .pwmDutyGet n | .pwmFrequencyGet n | .pwmWidthGet n
  | .ad7124ResistanceGet n => n
  | .pressureSensorGet modbusSlaveId => modbusSlaveId.val - 1

theorem Command.channel_lt (c : Command) : c.channel < registerMap.count c.function := by
  cases c with
  | pwmFrequencySet => decide
  | pressureSensorGet modbusSlaveId =>
    have := modbusSlaveId.le_32
    simp only [channel, function, registerMap]
    omega
  | _ => exact Fin.isLt _

theorem Command.eq_of_function_channel {c c' : Command} (hf : c.function = c'.function)
    (hc : c.channel = c'.channel) : c = c' := by
  cases c <;> cases c' <;> simp only [function, reduceCtorEq] at hf <;>
    simp only [channel, Fin.val_inj] at hc
  all_goals first
    | rfl
    | rw [hc]
    | rename_i a b; have := a.one_le; have := b.one_le; rw [Rs485Id.ext a b (by omega)]

def placement : registerMap.Placement Target where
  slot := Target.slot
  function t := t.command.function
  channel t := t.command.channel
  channel_lt t := t.command.channel_lt
  injective := fun ⟨_, _⟩ ⟨_, _⟩ hs hf hc => by
    cases Command.eq_of_function_channel hf hc
    cases hs
    rfl

theorem Target.address_eq (t : Target) : t.address = placement.address t := by
  obtain ⟨c, slot⟩ := t
  cases c
  case pressureSensorGet modbusSlaveId =>
    have := modbusSlaveId.one_le
    simp [address, RegisterMap.Placement.address, placement, RegisterMap.resolve, registerMap,
      modbusAddressStart, modbusAddressPressure, Command.function, Command.channel]
    omega
  all_goals simp [address, RegisterMap.Placement.address, placement, RegisterMap.resolve,
    registerMap, modbusAddressStart, modbusAddressPwmFrequency, modbusAddressPwmDutySet,
    modbusAddressPwmDutyGet, modbusAddressPwmFrequencyGet, modbusAddressPwmWidthGet,
    modbusAddressAd7124ResistanceGet, Command.function, Command.channel, ← add_assoc]

theorem Target.window_eq (t : Target) : t.window = placement.window t := by
  have hw : (t.command.width : Int) = registerMap.stride t.command.function := by
    cases t.command <;> rfl
  rw [window, t.address_eq, hw]
  rfl

theorem Target.window_disjoint {t t' : Target} (h : t ≠ t') : Disjoint t.window t'.window := by
  rw [t.window_eq, t'.window_eq]
  exact placement.window_disjoint registerMap_wellLaidOut h

theorem Target.address_injective : Function.Injective Target.address := by
  rw [show Target.address = placement.address from funext Target.address_eq]
  exact placement.address_injective registerMap_wellLaidOut

/-- The launch panel with an acknowledging client, its entries set to name the target. -/
def Target.panel (t : Target) : Panel :=
  { Panel.init with
    modbusClient := some ackClient
    slotIdEntry := toString (t.slot : Int)
    numberIdEntry := toString (t.command.channel : Int)
    modbusSlaveIdEntry := toString ((t.command.channel : Int) + 1) }

theorem Command.channel_succ_le (c : Command) : c.channel + 1 ≤ maxStrDigits :=
  Nat.succ_le_of_lt (c.channel_lt.trans_le (by cases c.function <;> decide))

theorem Command.pyInt_channel (c : Command) :
    pyInt (toString (c.channel : Int)) = .ok c.channel :=
  pyInt_toString_of_lt (lt_ten_pow_maxStrDigits (Nat.le_of_succ_le c.channel_succ_le))

theorem Command.pyInt_channel_succ (c : Command) :
    pyInt (toString ((c.channel : Int) + 1)) = .ok ((c.channel : Int) + 1) := by
  exact_mod_cast pyInt_toString_of_lt (lt_ten_pow_maxStrDigits c.channel_succ_le)

theorem Target.selects_panel (t : Target) (h : t.slot < 10 ^ maxStrDigits) :
    t.Selects t.panel := by
  refine ⟨pyInt_toString_of_lt h, ?_⟩
  obtain ⟨c, slot⟩ := t
  cases c with
  | pwmFrequencySet => trivial
  | pressureSensorGet modbusSlaveId =>
    have h1 : ((modbusSlaveId.val - 1 : Nat) : Int) + 1 = modbusSlaveId.val := by
      have := modbusSlaveId.one_le; omega
    exact (Command.pressureSensorGet modbusSlaveId).pyInt_channel_succ.trans (congrArg _ h1)
  | _ => exact Command.pyInt_channel _

theorem Target.issues_panel (t : Target) (h : t.slot < 10 ^ maxStrDigits) :
    ∃ r, Issues (t.command.handler t.panel) r := by
  obtain ⟨c, slot⟩ := t
  have hs := pyInt_toString_of_lt h
  have hc := c.pyInt_channel
  have hc1 := c.pyInt_channel_succ
  have h100 : pyInt "100" = .ok 100 := by decide
  have h0 : pyInt "0" = .ok 0 := by decide
  cases c <;> simp only [Command.handler, pwmFrequencySetCmd, pwmDutySetCmd, pwmDutyGetCmd,
    pwmFrequencyGetCmd, pwmWidthGetCmd, ad7124ResistanceGetCmd, channelGetCmd,
    pressureSensorGetCmd, Target.panel, Panel.init, hs, hc, hc1, h100, h0, issues_bind,
    Except.ok.injEq, exists_eq_left, exists_eq_left']
  all_goals exact ⟨_, issues_transact_of_connect ackClient rfl⟩

end RtdBoard

/-- A handler's request covers its target's window, and distinct targets' windows are disjoint. -/
theorem board_windows_disjoint :
    (∀ (t : IoBoard.Target) p r, t.Selects p → Issues (t.command.handler p) r →
      r.window = t.window) ∧
    (∀ t t' : IoBoard.Target, t ≠ t' → Disjoint t.window t'.window) ∧
    (∀ (t : RtdBoard.Target) p r, t.Selects p → Issues (t.command.handler p) r →
      r.window = t.window) ∧
    (∀ t t' : RtdBoard.Target, t ≠ t' → Disjoint t.window t'.window) :=
  ⟨fun _ _ _ => IoBoard.Target.issues_window, fun _ _ => IoBoard.Target.window_disjoint,
    fun _ _ _ => RtdBoard.Target.issues_window, fun _ _ => RtdBoard.Target.window_disjoint⟩

/-- Every target whose slot `int()` can read is reached from entries that name it. -/
theorem board_targets_reachable :
    (∀ t : IoBoard.Target, t.slot < 10 ^ maxStrDigits → ∃ p r, t.Selects p ∧
      Issues (t.command.handler p) r ∧ r.window = t.window) ∧
    (∀ t : RtdBoard.Target, t.slot < 10 ^ maxStrDigits → ∃ p r, t.Selects p ∧
      Issues (t.command.handler p) r ∧ r.window = t.window) := by
  refine ⟨fun t ht => ?_, fun t ht => ?_⟩ <;> obtain ⟨r, h⟩ := t.issues_panel ht <;>
    exact ⟨t.panel, r, t.selects_panel ht, h, t.issues_window (t.selects_panel ht) h⟩

theorem board_addresses_injective :
    Function.Injective IoBoard.Target.address ∧ Function.Injective RtdBoard.Target.address :=
  ⟨IoBoard.Target.address_injective, RtdBoard.Target.address_injective⟩

end RtuMaster
