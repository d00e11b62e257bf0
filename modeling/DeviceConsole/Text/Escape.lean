import DeviceConsole.Text.Hex

/-!
# Escapes

In quoted configuration text a backslash begins an escape: one letter for a common
character, or a code point in four or eight hexadecimal digits.

Main results:

- Theorem {lit}`length_rest_lt`: an escape takes up some of the text.
-/

namespace DeviceConsole.Escape

/-- The character that an escape of one letter stands for. -/
def letter? (c : Char) : Option Char :=
  [('b', '\x08'), ('t', '\t'), ('n', '\n'), ('f', '\x0c'), ('r', '\r'), ('"', '"'),
    ('\\', '\\')].lookup c

/-- The number that hexadecimal digits stand for, when all characters are digits. -/
def hexadecimal? (digits : List Char) : Option Nat :=
  digits.foldl
    (fun n c => do
      let n ← n
      let digit ← Hex.digit? c
      return 16 * n + digit)
    (some 0)

/-- The character with a code point in hexadecimal digits; a surrogate is none. -/
def scalar? (digits : List Char) : Option Char := do
  let n ← hexadecimal? digits
  if n.isValidChar then some (Char.ofNat n) else none

/-- The character of an escape, given the text behind the backslash, and what is left. -/
def read? : List Char → Option (Char × List Char)
  | 'u' :: a :: b :: c :: d :: rest => (scalar? [a, b, c, d]).map (·, rest)
  | 'U' :: a :: b :: c :: d :: e :: f :: g :: h :: rest =>
      (scalar? [a, b, c, d, e, f, g, h]).map (·, rest)
  | c :: rest => (letter? c).map (·, rest)
  | [] => none

/-- An escape leaves a shorter text. -/
theorem length_rest_lt {text rest : List Char} {c : Char} (h : read? text = some (c, rest)) :
    rest.length < text.length := by
  unfold read? at h
  split at h
  all_goals
    first
    | contradiction
    | (simp only [Option.map_eq_some_iff, Prod.mk.injEq] at h
       obtain ⟨_, _, _, rfl⟩ := h
       simp only [List.length_cons]
       omega)

end DeviceConsole.Escape
