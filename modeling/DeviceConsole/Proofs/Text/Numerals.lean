import DeviceConsole.Text.Decimal
import Mathlib.Data.List.Induction

/-!
# Numerals

A number has many numerals, which differ in the zeros in front, and one of them is the one that
it is written with.

Main results:

- Theorem {lit}`natural?_eq_some_iff_isNumeral`: the unsigned reader accepts exactly the numerals.
- Theorem {lit}`isNumeral_digits`: what a number is written with is a numeral of it.
- Theorem {lit}`IsNumeral.digits_eq_iff`: it is the one without a superfluous zero in front.
-/

namespace DeviceConsole

/-- A word of digits stands for their number. -/
structure IsNumeral (word : List Char) (n : Nat) : Prop where
  ne_nil : word ≠ []
  digits : ∀ c ∈ word, c.isDigit
  value_eq : Decimal.value word = n

theorem natural?_eq_some_iff_isNumeral {text : List Char} {n : Nat} :
    Decimal.natural? text = some n ↔ IsNumeral text n := by
  rw [Decimal.natural?_eq_some_iff]
  constructor
  · rintro ⟨hne, hdigits, hvalue⟩
    exact ⟨hne, List.all_eq_true.mp hdigits, hvalue⟩
  · rintro ⟨hne, hdigits, hvalue⟩
    exact ⟨hne, List.all_eq_true.mpr hdigits, hvalue⟩

/-- What is no numeral is empty or has a character that is no digit. -/
theorem natural?_eq_none_iff {text : List Char} :
    Decimal.natural? text = none ↔ text = [] ∨ ∃ c ∈ text, ¬ c.isDigit := by
  by_cases hempty : text = []
  · simp [Decimal.natural?, hempty]
  · simp [Decimal.natural?, Decimal.allDigits, hempty]

/-! ## The numeral that a number is written with -/

theorem value_digits (n : Nat) : Decimal.value (Decimal.digits n) = n :=
  Nat.ofDigitChars_ten_toDigits

theorem isNumeral_digits (n : Nat) : IsNumeral (Decimal.digits n) n where
  ne_nil := Nat.toDigits_ne_nil
  digits _ hmem := Nat.isDigit_of_mem_toDigits (by decide) (by decide) hmem
  value_eq := value_digits n

/-- A zero in front of further digits adds nothing to a numeral. -/
def HasSpareZero (word : List Char) : Prop :=
  ∃ rest, rest ≠ [] ∧ word = '0' :: rest

/-- In no base is a number that is not zero written with a zero in front. -/
theorem head?_toDigits_ne {base n : Nat} (hbase : 1 < base) (hpos : 0 < n) :
    (Nat.toDigits base n).head? ≠ some '0' := by
  induction n using Nat.strongRecOn with
  | ind n ih =>
      rw [Nat.toDigits_eq_if hbase]
      split
      · intro hzero
        have hdigit : n.digitChar = '0' := Option.some.inj hzero
        rw [Nat.digitChar_eq_zero] at hdigit
        omega
      · rename_i hlong
        have hfront := ih (n / base) (Nat.div_lt_self hpos hbase)
          (Nat.div_pos (Nat.le_of_not_lt hlong) (by omega))
        obtain ⟨first, rest, hdigits⟩ :=
          List.exists_cons_of_ne_nil (Nat.toDigits_ne_nil (n := n / base) (b := base))
        rw [hdigits] at hfront
        rwa [hdigits]

theorem not_hasSpareZero_toDigits {base : Nat} (hbase : 1 < base) (n : Nat) :
    ¬ HasSpareZero (Nat.toDigits base n) := by
  rintro ⟨rest, hrest, hdigits⟩
  rcases Nat.eq_zero_or_pos n with rfl | hpos
  · rw [Nat.toDigits_zero] at hdigits
    exact hrest (List.cons.inj hdigits).2.symm
  · exact head?_toDigits_ne hbase hpos (by rw [hdigits]; rfl)

/-- A digit is the character of its value. -/
theorem digits_digitValue {c : Char} (hdigit : c.isDigit) :
    Decimal.digits (Decimal.digitValue c) = [c] := by
  obtain ⟨hleast, hmost⟩ : 48 ≤ c.toNat ∧ c.toNat ≤ 57 := by
    simpa [Char.isDigit, UInt32.le_iff_toNat_le] using hdigit
  have hvalue : Decimal.digitValue c = c.toNat - 48 := rfl
  have hchar : (c.toNat - 48).digitChar = c := by
    apply Char.toNat_inj.mp
    rw [Nat.toNat_digitChar_of_lt_ten (by omega)]
    omega
  rw [Decimal.digits, hvalue, Nat.toDigits_of_lt_base (by omega), hchar]

theorem digitValue_lt {c : Char} (hdigit : c.isDigit) : Decimal.digitValue c < 10 := by
  have hlength : (Decimal.digits (Decimal.digitValue c)).length ≤ 1 := by
    rw [digits_digitValue hdigit]
    exact Nat.le_refl 1
  exact (Nat.length_toDigits_le_iff (by decide) (by decide)).mp hlength

namespace IsNumeral

variable {word : List Char} {n : Nat}

/-- A numeral without a superfluous zero in front is what its number is written with. -/
theorem digits_eq (h : IsNumeral word n) (hspare : ¬ HasSpareZero word) :
    Decimal.digits n = word := by
  obtain ⟨hne, hdigits, rfl⟩ := h
  -- The last digit is the unit, so the induction takes digits off the back.
  induction word using List.reverseRecOn with
  | nil => exact absurd rfl hne
  | append_singleton front c ih =>
      have hdigit : c.isDigit := hdigits c (by simp)
      rw [Decimal.value_append_singleton]
      by_cases hfront : front = []
      · subst hfront
        simpa using digits_digitValue hdigit
      · have hspare' : ¬ HasSpareZero front := by
          rintro ⟨rest, -, rfl⟩
          exact hspare ⟨rest ++ [c], by simp, by simp⟩
        have hrest : Decimal.digits (Decimal.value front) = front :=
          ih hspare' hfront fun d hd => hdigits d (by simp [hd])
        have hpos : 0 < Decimal.value front := by
          rcases Nat.eq_zero_or_pos (Decimal.value front) with hzero | hpos
          · rw [hzero] at hrest
            exact absurd ⟨[c], by simp, by rw [← hrest]; rfl⟩ hspare
          · exact hpos
        calc Decimal.digits (10 * Decimal.value front + Decimal.digitValue c)
            = Decimal.digits (Decimal.value front) ++ Decimal.digits (Decimal.digitValue c) :=
              (Nat.toDigits_append_toDigits (by decide) hpos (digitValue_lt hdigit)).symm
          _ = front ++ [c] := by rw [hrest, digits_digitValue hdigit]

theorem digits_eq_iff (h : IsNumeral word n) : Decimal.digits n = word ↔ ¬ HasSpareZero word := by
  constructor
  · rintro rfl
    exact not_hasSpareZero_toDigits (by decide) n
  · exact h.digits_eq

end IsNumeral

end DeviceConsole
