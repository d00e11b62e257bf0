import DeviceConsole.Proofs.Text.Numerals
import DeviceConsole.Text.Hex
import Mathlib.Data.List.Basic

/-!
# Hexadecimal numerals

What is written in upper case is a numeral of the number, with zeros in front only as far as it is
padded, and two digits of a byte are read as the byte again.

Main results:

- Theorem {lit}`isPadded_paddedUpper`: a padded numeral stands for its number.
- Theorem {lit}`bytes?_flatten`: words of two digits are read as their bytes.
-/

namespace DeviceConsole.Hex

/-! ## Numerals -/

/-- A digit in upper case. -/
def IsDigitUpper (c : Char) : Prop :=
  '0' ≤ c ∧ c ≤ '9' ∨ 'A' ≤ c ∧ c ≤ 'F'

instance (c : Char) : Decidable (IsDigitUpper c) :=
  inferInstanceAs (Decidable (_ ∨ _))

/-- The number that digits stand for. -/
def value (word : List Char) : Nat :=
  word.foldl (fun n c => 16 * n + (digit? c).getD 0) 0

/-- A word of digits in upper case stands for their number. -/
structure IsUpper (word : List Char) (n : Nat) : Prop where
  digits : ∀ c ∈ word, IsDigitUpper c
  value_eq : value word = n

/-- A numeral of a width or more, and of no more than the number needs beyond it. -/
structure IsPadded (width : Nat) (word : List Char) (n : Nat) : Prop where
  isUpper : IsUpper word n
  width_le : width ≤ word.length
  spare : width < word.length → ¬ HasSpareZero word

theorem value_concat (word : List Char) (c : Char) :
    value (word ++ [c]) = 16 * value word + (digit? c).getD 0 := by
  simp [value]

theorem isDigitUpper_digitUpper : ∀ n < 16, IsDigitUpper (digitUpper n) := by
  decide

theorem digit?_digitUpper : ∀ n < 16, digit? (digitUpper n) = some n := by
  decide

theorem toUpper_digitChar : ∀ n < 16, n.digitChar.toUpper = digitUpper n := by
  decide

namespace IsUpper

variable {word : List Char} {n digit : Nat}

theorem nil : IsUpper [] 0 :=
  ⟨nofun, rfl⟩

/-- One more digit behind a numeral. -/
theorem concat (h : IsUpper word n) (hdigit : digit < 16) :
    IsUpper (word ++ [digitUpper digit]) (16 * n + digit) where
  digits := by
    intro c hmem
    rcases List.mem_append.mp hmem with hfront | hlast
    · exact h.digits c hfront
    · rw [List.mem_singleton.mp hlast]
      exact isDigitUpper_digitUpper digit hdigit
  value_eq := by
    rw [value_concat, digit?_digitUpper digit hdigit, h.value_eq, Option.getD_some]

/-- Zeros in front of a numeral add nothing to it. -/
theorem zeros (h : IsUpper word n) (count : Nat) :
    IsUpper (List.replicate count '0' ++ word) n := by
  induction count with
  | zero => exact h
  | succ count ih =>
      constructor
      · intro c hmem
        rcases List.mem_cons.mp hmem with rfl | hmem
        · decide
        · exact ih.digits c hmem
      · exact ih.value_eq

end IsUpper

/-- The digits of a byte are a numeral of it. -/
theorem isUpper_byteUpper (byte : UInt8) : IsUpper (byteUpper byte) byte.toNat := by
  have hlt := byte.toNat_lt
  have hhigh : byte.toNat / 16 < 16 := by omega
  have hlow : byte.toNat % 16 < 16 := by omega
  have hboth := (IsUpper.nil.concat hhigh).concat hlow
  rwa [Nat.mul_zero, Nat.zero_add, Nat.div_add_mod] at hboth

/-- Digits of any number in upper case are a numeral of it. -/
theorem isUpper_toDigits (n : Nat) : IsUpper ((Nat.toDigits 16 n).map Char.toUpper) n := by
  induction n using Nat.strongRecOn with
  | ind n ih =>
      rw [Nat.toDigits_eq_if (by decide)]
      split
      · rename_i hsmall
        have hsingle := IsUpper.nil.concat hsmall
        rw [Nat.mul_zero, Nat.zero_add, ← toUpper_digitChar n hsmall] at hsingle
        exact hsingle
      · have hmod : n % 16 < 16 := Nat.mod_lt n (by decide)
        have hfront := (ih (n / 16) (by omega)).concat hmod
        rw [Nat.div_add_mod, ← toUpper_digitChar _ hmod] at hfront
        rwa [List.map_append]

/-! ## Padding -/

theorem eq_zero_of_toUpper {c : Char} (h : c.toUpper = '0') : c = '0' := by
  unfold Char.toUpper at h
  split at h
  · rename_i hlow
    have hval := congrArg Char.val h
    grind
  · exact h

theorem hasSpareZero_of_map_toUpper {word : List Char} (h : HasSpareZero (word.map Char.toUpper)) :
    HasSpareZero word := by
  obtain ⟨rest, hrest, hword⟩ := h
  obtain ⟨c, tail, rfl, hzero, rfl⟩ := List.map_eq_cons_iff.mp hword
  exact ⟨tail, by simpa using hrest, by rw [eq_zero_of_toUpper hzero]⟩

/-- A padded numeral stands for its number. -/
theorem isPadded_paddedUpper (width n : Nat) : IsPadded width (paddedUpper width n) n where
  isUpper := (isUpper_toDigits n).zeros _
  width_le := by
    simp only [paddedUpper, List.length_append, List.length_replicate]
    omega
  spare := by
    intro hlong hspare
    simp only [paddedUpper, List.length_append, List.length_replicate] at hlong
    have hnone : width - ((Nat.toDigits 16 n).map Char.toUpper).length = 0 := by omega
    rw [paddedUpper, hnone] at hspare
    exact not_hasSpareZero_toDigits (by decide) n (hasSpareZero_of_map_toUpper hspare)

/-! ## Reading bytes -/

theorem digit?_of_isDigitUpper {c : Char} (h : IsDigitUpper c) : ∃ n, digit? c = some n := by
  unfold digit?
  by_cases hdecimal : '0' ≤ c ∧ c ≤ '9'
  · exact ⟨_, if_pos hdecimal⟩
  · have hletter : 'A' ≤ c ∧ c ≤ 'F' := h.resolve_left hdecimal
    rw [if_neg hdecimal, if_pos hletter]
    split
    · exact ⟨_, rfl⟩
    · exact ⟨_, rfl⟩

/-- Words of two digits are read as their bytes. -/
theorem bytes?_flatten {bytes : List UInt8} {words : List (List Char)}
    (h : List.Forall₂ (fun byte word => IsUpper word byte.toNat ∧ word.length = 2) bytes words) :
    bytes? words.flatten = some bytes := by
  induction h with
  | nil => rfl
  | @cons byte word bytes words hword _ ih =>
      obtain ⟨⟨hdigits, hvalue⟩, hlength⟩ := hword
      obtain ⟨high, low, rfl⟩ := List.length_eq_two.mp hlength
      obtain ⟨m, hhigh⟩ := digit?_of_isDigitUpper (hdigits high (by simp))
      obtain ⟨n, hlow⟩ := digit?_of_isDigitUpper (hdigits low (by simp))
      have hnumber : 16 * m + n = byte.toNat := by simpa [value, hhigh, hlow] using hvalue
      have hbyte : UInt8.ofNat (16 * m + n) = byte := by rw [hnumber, UInt8.ofNat_toNat]
      have hread : bytes? (high :: low :: words.flatten) =
          some (UInt8.ofNat (16 * m + n) :: bytes) := by
        rw [bytes?, hhigh, hlow, ih]
        rfl
      rw [← hbyte]
      exact hread

end DeviceConsole.Hex
