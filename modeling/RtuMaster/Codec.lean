import RtuMaster.Transport
import Mathlib.Data.Int.ModEq

namespace RtuMaster
set_option autoImplicit true

/-- The little-endian unsigned reading of a low and a high word. -/
def decode32 (lowWord highWord : Int) : Int :=
  lowWord + 65536 * highWord

def decode32Signed (lowWord highWord : Int) : Int :=
  if decode32 lowWord highWord < 2 ^ 31 then decode32 lowWord highWord
  else decode32 lowWord highWord - 2 ^ 32

theorem valuesList_eq (value : Int) :
    valuesList value = [value % 65536, value / 65536 % 65536] := by
  simp [valuesList]

theorem issues_writeHoldingRegisters
    (h : Issues (writeHoldingRegisters c address slaveId value) r) :
    r = .writeRegisters address slaveId (valuesList value) :=
  issues_transact h

theorem writeHoldingRegisters_issues (hc : c = some client) (hconn : client.connect = true) :
    Issues (writeHoldingRegisters c address slaveId value)
      (.writeRegisters address slaveId (valuesList value)) := by
  subst hc
  exact issues_transact_of_connect client hconn

/-- `&` and `>>` split any integer into two 16-bit words that read back as it within 32 bits. -/
theorem writeHoldingRegisters_words (modbusClient : Option ModbusSerialClient)
    (address slaveId value : Int) :
    let lowWord := Int.land value 0xFFFF
    let highWord := Int.land (Int.shiftRight value 16) 0xFFFF
    (∀ r, Issues (writeHoldingRegisters modbusClient address slaveId value) r →
      r = .writeRegisters address slaveId [lowWord, highWord]) ∧
    (∀ client, modbusClient = some client → client.connect = true →
      Issues (writeHoldingRegisters modbusClient address slaveId value)
        (.writeRegisters address slaveId [lowWord, highWord])) ∧
    (0 ≤ lowWord ∧ lowWord ≤ 65535) ∧ (0 ≤ highWord ∧ highWord ≤ 65535) ∧
    lowWord + 65536 * highWord ≡ value [ZMOD 2 ^ 32] ∧
    (0 ≤ value → value < 2 ^ 32 → decode32 lowWord highWord = value) ∧
    (-2 ^ 31 ≤ value → value < 2 ^ 31 → decode32Signed lowWord highWord = value) := by
  intro lowWord highWord
  have hlow : lowWord = value % 65536 := land_0xFFFF value
  have hhigh : highWord = value / 65536 % 65536 := by simp [highWord]
  refine ⟨fun r h => issues_writeHoldingRegisters h,
    fun _ hc hconn => writeHoldingRegisters_issues hc hconn, ?_, ?_, ?_, ?_, ?_⟩
  · omega
  · omega
  · simp only [Int.ModEq]; omega
  · intros; simp only [decode32]; omega
  · intros; simp only [decode32Signed, decode32]; split_ifs <;> omega

/-- A value outside 32 bits is not refused: the write sends the words of its low 32 bits. -/
theorem writeHoldingRegisters_emod (modbusClient : Option ModbusSerialClient)
    (address slaveId value : Int) :
    writeHoldingRegisters modbusClient address slaveId (value % 2 ^ 32) =
      writeHoldingRegisters modbusClient address slaveId value ∧
    ∀ client, modbusClient = some client → client.connect = true →
      Issues (writeHoldingRegisters modbusClient address slaveId value)
        (.writeRegisters address slaveId [value % 2 ^ 32 % 65536, value % 2 ^ 32 / 65536]) := by
  have h : valuesList (value % 2 ^ 32) = valuesList value := by
    simp only [valuesList_eq, List.cons.injEq, and_true]
    omega
  refine ⟨by rw [writeHoldingRegisters, h, writeHoldingRegisters], fun _ hc hconn => ?_⟩
  have hw : [value % 2 ^ 32 % 65536, value % 2 ^ 32 / 65536] = valuesList value := by
    rw [← h, valuesList_eq]
    congr 2
    omega
  rw [hw]
  exact writeHoldingRegisters_issues hc hconn

end RtuMaster
