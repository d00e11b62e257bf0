/-!
# Pieces of a text

A text is cut at each occurrence of a separator.  There is always one piece more than there
are separators, so an empty text is one empty piece.

Main results:

- Theorem {lit}`joined_pieces`: the pieces with the separators between them are the text.
- Theorem {lit}`separator_notMem`: no piece holds a separator.
-/

namespace DeviceConsole

variable {α : Type} [DecidableEq α]

/-- The pieces of a list between the occurrences of a separator. -/
def pieces (separator : α) : List α → List (List α)
  | [] => [[]]
  | c :: rest =>
      match pieces separator rest with
      | [] => [[c]]
      | piece :: more => if c = separator then [] :: piece :: more else (c :: piece) :: more

/-- Pieces put together again. -/
def joined (separator : α) : List (List α) → List α
  | [] => []
  | [piece] => piece
  | piece :: more => piece ++ separator :: joined separator more

/-- There is always a piece. -/
theorem pieces_ne_nil (separator : α) (text : List α) : pieces separator text ≠ [] := by
  cases text with
  | nil => simp [pieces]
  | cons c rest =>
      unfold pieces
      split
      · simp
      · split <;> simp

/-- The pieces with the separators between them are the text. -/
theorem joined_pieces (separator : α) (text : List α) :
    joined separator (pieces separator text) = text := by
  induction text with
  | nil => rfl
  | cons c rest ih =>
      unfold pieces
      split
      · rename_i none
        exact absurd none (pieces_ne_nil separator rest)
      · rename_i piece more found
        rw [found] at ih
        split
        · rename_i same
          simp [joined, ih, same]
        · cases more with
          | nil => simpa [joined] using ih
          | cons next others => simpa [joined] using ih

/-- No piece holds a separator. -/
theorem separator_notMem {separator : α} {text piece : List α}
    (h : piece ∈ pieces separator text) : separator ∉ piece := by
  induction text generalizing piece with
  | nil => simp_all [pieces]
  | cons c rest ih =>
      unfold pieces at h
      split at h
      · rename_i none
        exact absurd none (pieces_ne_nil separator rest)
      · rename_i first more found
        split at h
        · rcases List.mem_cons.mp h with rfl | inside
          · simp
          · exact ih (found ▸ inside)
        · rename_i different
          rcases List.mem_cons.mp h with rfl | inside
          · have notFirst : separator ∉ first := ih (by simp [found])
            simp only [List.mem_cons, not_or]
            exact ⟨fun same => different same.symm, notFirst⟩
          · exact ih (by simp [found, inside])

/-- The lines of a text.  A line feed ends a line, together with a carriage return in front of
it, and behind the last one nothing begins. -/
def textLines (text : List Char) : List (List Char) :=
  let found := pieces '\n' text
  let ended := found.dropLast.map fun line =>
    if line.getLast? = some '\r' then line.dropLast else line
  match found.getLast? with
  | none | some [] => ended
  | some line => ended ++ [line]

/-- An empty line counts, but not one behind the last line feed. -/
example :
    textLines "a\r\n\nb\n".toList = [['a'], [], ['b']] ∧ textLines [] = [] ∧
      textLines "a\r".toList = [['a', '\r']] := by
  decide +kernel

end DeviceConsole
