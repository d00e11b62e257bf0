/-!
# UTF-8

Text leaves the console as UTF-8 and arrives as bytes that need not be UTF-8.
Decoding never fails: each maximal run of bytes that starts a character but does
not finish it, and each byte that starts none, becomes one replacement character.

Main results:

- Theorem {lit}`encode_append`: encoding is a homomorphism.
- Theorem {lit}`length_take_lt`: reading one character leaves a shorter rest, so
  decoding ends.
-/

namespace DeviceConsole.Utf8

/-! ## Encoding -/

/-- The bytes of a text. -/
def encode (text : String) : List UInt8 :=
  text.toList.flatMap String.utf8EncodeChar

@[simp]
theorem encode_empty : encode "" = [] := by
  simp [encode]

@[simp]
theorem encode_append (left right : String) :
    encode (left ++ right) = encode left ++ encode right := by
  simp [encode]

/-! ## Decoding -/

/-- The character that stands for bytes that are not UTF-8. -/
def replacement : Char :=
  '\uFFFD'

/-- An inclusive range of bytes. -/
structure ByteRange where
  first : UInt8
  last : UInt8

/-- Whether a byte lies in a range. -/
def ByteRange.contains (range : ByteRange) (byte : UInt8) : Bool :=
  range.first ≤ byte && byte ≤ range.last

/-- The range of an ordinary continuation byte. -/
def tail : ByteRange :=
  ⟨0x80, 0xBF⟩

/-- The payload bits of a leading byte and the ranges of the continuation bytes that it
demands, when the byte can start a character. -/
def lead? (byte : UInt8) : Option (Nat × List ByteRange) :=
  let n := byte.toNat
  if n ≤ 0x7F then some (n, [])
  else if n < 0xC2 then none
  else if n ≤ 0xDF then some (n - 0xC0, [tail])
  else if n = 0xE0 then some (0, [⟨0xA0, 0xBF⟩, tail])
  else if n = 0xED then some (0xD, [⟨0x80, 0x9F⟩, tail])
  else if n ≤ 0xEF then some (n - 0xE0, [tail, tail])
  else if n = 0xF0 then some (0, [⟨0x90, 0xBF⟩, tail, tail])
  else if n ≤ 0xF3 then some (n - 0xF0, [tail, tail, tail])
  else if n = 0xF4 then some (4, [⟨0x80, 0x8F⟩, tail, tail])
  else none

/-- Reads the continuation bytes that {lit}`wanted` demands.  The scan stops in front of the
first byte outside its range, which then starts the rest. -/
def continuation (bits : Nat) : List ByteRange → List UInt8 → Option Nat × List UInt8
  | [], rest => (some bits, rest)
  | _ :: _, [] => (none, [])
  | range :: wanted, byte :: rest =>
      if range.contains byte then
        continuation (bits * 64 + (byte.toNat - 0x80)) wanted rest
      else
        (none, byte :: rest)

/-- A scan of continuation bytes leaves at most what it was given. -/
theorem length_continuation_le (bits : Nat) (wanted : List ByteRange) (bytes : List UInt8) :
    (continuation bits wanted bytes).2.length ≤ bytes.length := by
  fun_induction continuation bits wanted bytes with
  | case1 => simp
  | case2 => simp
  | case3 bits range wanted byte rest _ ih =>
      simp only [List.length_cons]
      omega
  | case4 => simp

/-- Reads one character that starts with {lit}`byte`. -/
def take (byte : UInt8) (rest : List UInt8) : Char × List UInt8 :=
  match lead? byte with
  | none => (replacement, rest)
  | some (bits, wanted) =>
      match continuation bits wanted rest with
      | (some code, after) => (Char.ofNat code, after)
      | (none, after) => (replacement, after)

/-- Reading one character uses at least its leading byte. -/
theorem length_take_lt (byte : UInt8) (rest : List UInt8) :
    (take byte rest).2.length < (byte :: rest).length := by
  have bound := fun bits wanted => length_continuation_le bits wanted rest
  simp only [take, List.length_cons]
  split
  · simp
  · rename_i bits wanted _
    have shorter := bound bits wanted
    split
    · rename_i found
      rw [found] at shorter
      exact Nat.lt_succ_of_le shorter
    · rename_i found
      rw [found] at shorter
      exact Nat.lt_succ_of_le shorter

/-- The characters of a run of bytes. -/
def decode : List UInt8 → List Char
  | [] => []
  | byte :: rest =>
      let read := take byte rest
      read.1 :: decode read.2
termination_by bytes => bytes.length
decreasing_by exact length_take_lt byte rest

@[simp]
theorem decode_nil : decode [] = [] := by
  rw [decode]

/-- Decoding reads one character and goes on with the rest. -/
theorem decode_cons (byte : UInt8) (rest : List UInt8) :
    decode (byte :: rest) = (take byte rest).1 :: decode (take byte rest).2 := by
  rw [decode]

/-- A byte of a broken character does not swallow the character after it. -/
example : decode [0x61, 0xF0, 0x9F, 0x98, 0x62, 0xC3] = ['a', '\uFFFD', 'b', '\uFFFD'] := by
  simp [decode_cons, take, lead?, continuation, ByteRange.contains, tail, replacement]

/-- The text of a run of bytes. -/
def decodeText (bytes : List UInt8) : String :=
  String.ofList (decode bytes)

end DeviceConsole.Utf8
