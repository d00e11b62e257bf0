/-!
# Cuts at byte places

A place in a text may be given as a number of bytes of its UTF-8 form.  A text is cut there
between whole characters: one that reaches across the place stays behind it.

Main results:

- Theorem {lit}`takeBytes_append_dropBytes`: the two sides of a cut are the text.
- Theorem {lit}`dropBytes_append`: a cut behind a whole text leaves what was added to it.
-/

namespace DeviceConsole

/-- The number of bytes of a text. -/
def byteLength : List Char → Nat
  | [] => 0
  | c :: rest => c.utf8Size + byteLength rest

/-- The characters of a text that end within its first {lit}`count` bytes. -/
def takeBytes (count : Nat) : List Char → List Char
  | [] => []
  | c :: rest => if c.utf8Size ≤ count then c :: takeBytes (count - c.utf8Size) rest else []

/-- The other characters of a text. -/
def dropBytes (count : Nat) : List Char → List Char
  | [] => []
  | c :: rest => if c.utf8Size ≤ count then dropBytes (count - c.utf8Size) rest else c :: rest

/-- The part of a text from one place up to another. -/
def sliceBytes (first last : Nat) (text : List Char) : List Char :=
  dropBytes first (takeBytes last text)

/-- The two sides of a cut are the text. -/
@[simp]
theorem takeBytes_append_dropBytes (count : Nat) (text : List Char) :
    takeBytes count text ++ dropBytes count text = text := by
  induction text generalizing count with
  | nil => rfl
  | cons c rest ih =>
      unfold takeBytes dropBytes
      split
      · simp [ih]
      · rfl

/-- A cut behind a whole text leaves what was added to it. -/
theorem dropBytes_append (front back : List Char) :
    dropBytes (byteLength front) (front ++ back) = dropBytes 0 back := by
  induction front with
  | nil => rfl
  | cons c rest ih => simpa [dropBytes, byteLength] using ih

/-- Nothing is cut off at the beginning. -/
@[simp]
theorem dropBytes_zero (text : List Char) : dropBytes 0 text = text := by
  cases text with
  | nil => rfl
  | cons c rest =>
      have := c.utf8Size_pos
      simp only [dropBytes]
      split
      · omega
      · rfl

end DeviceConsole
