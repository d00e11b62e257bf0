/-!
# Hexadecimal numerals

Two spellings are in use: upper case for the columns of a dump and lower case for
failure codes and escaped characters.

Main results:

- Theorem {lit}`length_byteUpper`: a byte takes exactly two characters.
-/

namespace DeviceConsole.Hex

/-- The upper-case digit of a number below sixteen. -/
def digitUpper (n : Nat) : Char :=
  if n < 10 then Char.ofNat ('0'.toNat + n) else Char.ofNat ('A'.toNat + (n - 10))

/-- The two upper-case digits of a byte. -/
def byteUpper (byte : UInt8) : List Char :=
  [digitUpper (byte.toNat / 16), digitUpper (byte.toNat % 16)]

@[simp]
theorem length_byteUpper (byte : UInt8) : (byteUpper byte).length = 2 :=
  rfl

/-- The upper-case numeral of a number, at least {lit}`width` digits long. -/
def paddedUpper (width n : Nat) : List Char :=
  let run := (Nat.toDigits 16 n).map Char.toUpper
  List.replicate (width - run.length) '0' ++ run

/-- The lower-case numeral of a number, without padding. -/
def lower (n : Nat) : String :=
  String.ofList (Nat.toDigits 16 n)

/-- The value of one hexadecimal digit, in either case. -/
def digit? (c : Char) : Option Nat :=
  if '0' ≤ c ∧ c ≤ '9' then some (c.toNat - '0'.toNat)
  else if 'a' ≤ c ∧ c ≤ 'f' then some (c.toNat - 'a'.toNat + 10)
  else if 'A' ≤ c ∧ c ≤ 'F' then some (c.toNat - 'A'.toNat + 10)
  else none

/-- The bytes that a text of digits stands for, two digits a byte. -/
def bytes? : List Char → Option (List UInt8)
  | [] => some []
  | [_] => none
  | high :: low :: rest => do
      return UInt8.ofNat (16 * (← digit? high) + (← digit? low)) :: (← bytes? rest)

/-- The two lower-case digits of a byte. -/
def byteLower (byte : UInt8) : List Char :=
  (byteUpper byte).map Char.toLower

/-- Bytes that are written can be read back. -/
theorem bytes?_byteLower (byte : UInt8) : bytes? (byteLower byte) = some [byte] := by
  have each : ∀ n : Fin 256, bytes? (byteLower (UInt8.ofNat n)) = some [UInt8.ofNat n] := by
    decide +kernel
  simpa using each ⟨byte.toNat, byte.toNat_lt⟩

end DeviceConsole.Hex
