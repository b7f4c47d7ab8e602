import Mathlib.Data.Int.Bitwise
import Mathlib.Data.Nat.Bitwise
import Mathlib.Data.List.DropRight
import Mathlib.Data.Nat.Digits

namespace RtuMaster
set_option autoImplicit true

/-- The Python exceptions a panel's handler can let escape to Tk. -/
inductive PyError
  | valueError
  | attributeError
  | unboundLocalError
  deriving DecidableEq, Repr

instance decEqExcept [DecidableEq ε] [DecidableEq α] : DecidableEq (Except ε α)
  | .error a, .error b => decidable_of_iff (a = b) (by simp)
  | .ok a, .ok b => decidable_of_iff (a = b) (by simp)
  | .error _, .ok _ => isFalse (by simp)
  | .ok _, .error _ => isFalse (by simp)

/-- The characters `int()` strips around ASCII text: space and `\t` to `\r`. -/
def isSpace (c : Char) : Bool :=
  c = ' ' || ('\t' ≤ c && c ≤ '\r')

/-- `sys.int_info.default_max_str_digits`: `int()` refuses text with more digits. -/
def maxStrDigits : Nat := 4300

def decimalDigits : List Char → Nat → Option Nat
  | [], acc => some acc
  | c :: cs, acc =>
    if c.isDigit then decimalDigits cs (10 * acc + (c.toNat - '0'.toNat))
    else if c = '_' then
      match cs with
      | d :: _ => if d.isDigit then decimalDigits cs acc else none
      | [] => none
    else none

def decimal : List Char → Option Nat
  | c :: cs => if c.isDigit then decimalDigits (c :: cs) 0 else none
  | [] => none

def signed : List Char → Option Int
  | c :: cs =>
    if c = '-' then (decimal cs).map fun n => -(n : Int)
    else if c = '+' then (decimal cs).map fun n => (n : Int)
    else (decimal (c :: cs)).map fun n => (n : Int)
  | [] => none

/-- Python's `int()` applied to the text of an entry or combobox. -/
def pyInt (s : String) : Except PyError Int :=
  let text := (s.toList.dropWhile isSpace).rdropWhile isSpace
  match signed text with
  | some v =>
    if (text.filter Char.isDigit).length ≤ maxStrDigits then .ok v else .error .valueError
  | none => .error .valueError

example : pyInt " -1_000\n" = .ok (-1000) := by decide
example : pyInt "\x1c5" = .error .valueError := by decide

theorem pyInt_error (h : pyInt s = .error e) : e = .valueError := by
  simp only [pyInt] at h
  split at h
  · split at h <;> cases h
    rfl
  · cases h
    rfl

theorem isSpace_of_isDigit {c : Char} (h : c.isDigit = true) : isSpace c = false := by
  simp only [Char.isDigit, Bool.and_eq_true, decide_eq_true_eq] at h
  have e1 : 48 ≤ c.val.toNat := h.1
  have e2 : c.val.toNat ≤ 57 := h.2
  simp only [isSpace, Bool.or_eq_false_iff, Bool.and_eq_false_iff, decide_eq_false_iff_not]
  refine ⟨?_, .inr ?_⟩
  · rintro rfl; exact absurd e1 (by decide)
  · intro hc; have : c.val.toNat ≤ 13 := hc; omega

theorem dropWhile_isSpace {l : List Char} (h : ∀ c ∈ l, isSpace c = false) :
    l.dropWhile isSpace = l := by
  cases l with
  | nil => rfl
  | cons c cs => simp [List.dropWhile, h c (List.mem_cons_self _ _)]

theorem rdropWhile_isSpace {l : List Char} (h : ∀ c ∈ l, isSpace c = false) :
    l.rdropWhile isSpace = l := by
  rw [List.rdropWhile, dropWhile_isSpace (by simpa using h), List.reverse_reverse]

theorem digitChar_isDigit (h : k < 10) : (Nat.digitChar k).isDigit = true := by
  have : ∀ k < 10, (Nat.digitChar k).isDigit = true := by decide
  exact this k h

theorem digitChar_val (h : k < 10) : (Nat.digitChar k).toNat - '0'.toNat = k := by
  have : ∀ k < 10, (Nat.digitChar k).toNat - '0'.toNat = k := by decide
  exact this k h

theorem toDigitsCore_append (fuel n : Nat) (ds : List Char) (h : n < fuel) :
    Nat.toDigitsCore 10 fuel n ds = Nat.toDigitsCore 10 fuel n [] ++ ds := by
  induction fuel generalizing n ds with
  | zero => omega
  | succ f ih =>
    simp only [Nat.toDigitsCore]
    split
    · rfl
    · rw [ih _ _ (by omega), ih (n / 10) [_] (by omega), List.append_assoc, List.singleton_append]

def digitsValue (cs : List Char) (acc : Nat) : Nat :=
  cs.foldl (fun acc c => 10 * acc + (c.toNat - '0'.toNat)) acc

theorem toDigitsCore_digits (fuel n : Nat) (h : n < fuel) :
    Nat.toDigitsCore 10 fuel n [] ≠ [] ∧
      (∀ c ∈ Nat.toDigitsCore 10 fuel n [], c.isDigit = true) ∧
      digitsValue (Nat.toDigitsCore 10 fuel n []) 0 = n := by
  induction fuel generalizing n with
  | zero => omega
  | succ f ih =>
    simp only [Nat.toDigitsCore]
    have hd := digitChar_isDigit (Nat.mod_lt n (show 10 > 0 by omega))
    have hv := digitChar_val (Nat.mod_lt n (show 10 > 0 by omega))
    split
    · refine ⟨List.cons_ne_nil _ _, by simpa using hd, ?_⟩
      simp only [digitsValue, List.foldl_cons, List.foldl_nil, hv]
      omega
    · rw [toDigitsCore_append _ _ _ (by omega)]
      obtain ⟨-, hall, hval⟩ := ih (n / 10) (by omega)
      refine ⟨by simp, ?_, ?_⟩
      · simp only [List.mem_append, List.mem_singleton]
        rintro c (hc | rfl)
        exacts [hall c hc, hd]
      · simp only [digitsValue, List.foldl_append, List.foldl_cons, List.foldl_nil] at hval ⊢
        rw [hval, hv]
        omega

theorem decimalDigits_of_digits (cs : List Char) (acc : Nat) (h : ∀ c ∈ cs, c.isDigit = true) :
    decimalDigits cs acc = some (digitsValue cs acc) := by
  induction cs generalizing acc with
  | nil => rfl
  | cons c cs ih =>
    simp only [List.mem_cons, forall_eq_or_imp] at h
    simp only [decimalDigits, h.1, if_true, ih _ h.2, digitsValue, List.foldl_cons]

theorem decimal_toDigits (m : Nat) : decimal (Nat.toDigits 10 m) = some m := by
  obtain ⟨hne, hall, hval⟩ := toDigitsCore_digits (m + 1) m (Nat.lt_succ_self m)
  obtain ⟨c, cs, hcs⟩ := List.exists_cons_of_ne_nil hne
  have hc : c.isDigit = true := hall c (by simp [hcs])
  rw [Nat.toDigits, hcs]
  rw [hcs] at hall hval
  simp only [decimal, hc, if_true, decimalDigits_of_digits _ _ hall, hval]

theorem signed_of_isDigit (h : c.isDigit = true) :
    signed (c :: cs) = (decimal (c :: cs)).map fun n => (n : Int) := by
  have hm : c ≠ '-' := by rintro rfl; exact absurd h (by decide)
  have hp : c ≠ '+' := by rintro rfl; exact absurd h (by decide)
  simp [signed, hm, hp]

theorem toDigits_isDigit (m : Nat) : ∀ c ∈ Nat.toDigits 10 m, c.isDigit = true :=
  (toDigitsCore_digits (m + 1) m (Nat.lt_succ_self m)).2.1

theorem signed_toDigits (m : Nat) : signed (Nat.toDigits 10 m) = some (m : Int) := by
  obtain ⟨c, cs, hcs⟩ :=
    List.exists_cons_of_ne_nil (toDigitsCore_digits (m + 1) m (Nat.lt_succ_self m)).1
  have hc := toDigits_isDigit m c (by simp [Nat.toDigits, hcs])
  rw [Nat.toDigits, hcs, signed_of_isDigit hc, ← hcs, ← Nat.toDigits, decimal_toDigits]
  rfl

theorem pyInt_of_signed {s : String} (h : ∀ c ∈ s.toList, isSpace c = false)
    (hv : signed s.toList = some v) (hd : (s.toList.filter Char.isDigit).length ≤ maxStrDigits) :
    pyInt s = .ok v := by
  simp only [pyInt, dropWhile_isSpace h, rdropWhile_isSpace h, hv, hd, if_true]

theorem toDigits_filter_length (h : m < 10 ^ maxStrDigits) :
    ((Nat.toDigits 10 m).filter Char.isDigit).length ≤ maxStrDigits := by
  rw [List.filter_eq_self.mpr (toDigits_isDigit m)]
  exact Nat.toDigitsCore_length 10 (by decide) _ m _ h (by decide)

/-- `int()` reads back what `str()` writes, for every integer within the digit limit. -/
theorem pyInt_toString (v : Int) (hv : v.natAbs < 10 ^ maxStrDigits) :
    pyInt (toString v) = .ok v := by
  have hsp (m : Nat) : ∀ c ∈ Nat.toDigits 10 m, isSpace c = false :=
    fun c hc => isSpace_of_isDigit (toDigits_isDigit m c hc)
  cases v with
  | ofNat m => exact pyInt_of_signed (hsp m) (signed_toDigits m) (toDigits_filter_length hv)
  | negSucc m =>
    have hneg : (toString (Int.negSucc m)).toList = '-' :: Nat.toDigits 10 (m + 1) := rfl
    refine pyInt_of_signed ?_ ?_ ?_ <;> rw [hneg]
    · exact List.forall_mem_cons.mpr ⟨by decide, hsp (m + 1)⟩
    · simp [signed, decimal_toDigits, Int.negSucc_eq]
    · exact toDigits_filter_length hv

theorem pyInt_toString_of_lt {n : Nat} (h : n < 10 ^ maxStrDigits) :
    pyInt (toString (n : Int)) = .ok n :=
  pyInt_toString _ h

theorem lt_ten_pow_maxStrDigits {n : Nat} (h : n ≤ maxStrDigits) : n < 10 ^ maxStrDigits :=
  (Nat.lt_pow_self (by decide) n).trans_le (Nat.pow_le_pow_right (by decide) h)

theorem ldiff_two_pow_sub_one (m k : Nat) :
    Nat.ldiff (2 ^ k - 1) m = 2 ^ k - (m % 2 ^ k + 1) := by
  apply Nat.eq_of_testBit_eq
  intro i
  rw [Nat.testBit_ldiff, Nat.testBit_two_pow_sub_one,
    Nat.testBit_two_pow_sub_succ (Nat.mod_lt _ (Nat.two_pow_pos k)), Nat.testBit_mod_two_pow]
  by_cases h : i < k <;> simp [h]

theorem land_two_pow_sub_one (v : Int) (k : Nat) :
    Int.land v ((2 ^ k - 1 : Nat) : Int) = v % ((2 ^ k : Nat) : Int) := by
  cases v with
  | ofNat n =>
    show ((n &&& (2 ^ k - 1) : Nat) : Int) = _
    rw [Nat.and_pow_two_sub_one_eq_mod]
    rfl
  | negSucc m =>
    show ((Nat.ldiff (2 ^ k - 1) m : Nat) : Int) = _
    rw [ldiff_two_pow_sub_one, Int.negSucc_emod _ (by exact_mod_cast Nat.two_pow_pos k),
      ← Int.natCast_mod]
    have := Nat.mod_lt m (Nat.two_pow_pos k)
    omega

@[simp] theorem land_0xFFFF (v : Int) : Int.land v 0xFFFF = v % 65536 :=
  land_two_pow_sub_one v 16

@[simp] theorem shiftRight_16 (v : Int) : Int.shiftRight v 16 = v / 65536 :=
  Int.shiftRight_eq_div_pow v 16

end RtuMaster
