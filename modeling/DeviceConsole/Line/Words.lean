import DeviceConsole.Text.Blank

/-!
# Words of a line

A line is taken apart word by word: a cursor stands in the line, and each step skips the
blanks in front of it and takes the run of other characters behind them.

Main results:

- Theorem {lit}`length_rest_lt`: each word leaves a shorter rest.
- Theorem {lit}`cursor_eq`: skipped blanks, word and rest make up the line.
- Definition {lit}`ofLine`: the words of a line, by cutting it at every blank.
-/

namespace DeviceConsole.Words

/-! ## One word -/

/-- The first word behind a cursor and the text after the word. -/
def next? (cursor : List Char) : Option (List Char × List Char) :=
  match trimLeft cursor with
  | [] => none
  | c :: rest => some ((c :: rest).takeWhile (!isBlank ·), (c :: rest).dropWhile (!isBlank ·))

/-- Whether only blanks are left behind a cursor. -/
def atEnd (cursor : List Char) : Bool :=
  (trimLeft cursor).isEmpty

/-- The cursor is at the end exactly when it has no next word. -/
theorem next?_eq_none_iff (cursor : List Char) : next? cursor = none ↔ atEnd cursor := by
  unfold next? atEnd
  split <;> simp_all

/-- What stands in front of the trimmed text is blank, and the trimmed text does not begin
with a blank. -/
theorem trimLeft_cons {cursor rest : List Char} {c : Char} (h : trimLeft cursor = c :: rest) :
    isBlank c = false := by
  unfold trimLeft at h
  have := List.head?_dropWhile_not isBlank cursor
  rw [h] at this
  simpa using this

/-- Skipped blanks, word and rest make up the line. -/
theorem cursor_eq {cursor word rest : List Char} (h : next? cursor = some (word, rest)) :
    cursor = cursor.takeWhile isBlank ++ word ++ rest := by
  unfold next? at h
  split at h
  · simp at h
  · rename_i c tail trimmed
    simp only [Option.some.injEq, Prod.mk.injEq] at h
    obtain ⟨rfl, rfl⟩ := h
    rw [List.append_assoc, List.takeWhile_append_dropWhile, ← trimmed, trimLeft,
      List.takeWhile_append_dropWhile]

/-- A word has a character. -/
theorem word_ne_nil {cursor word rest : List Char} (h : next? cursor = some (word, rest)) :
    word ≠ [] := by
  unfold next? at h
  split at h
  · simp at h
  · rename_i c tail trimmed
    simp only [Option.some.injEq, Prod.mk.injEq] at h
    obtain ⟨rfl, -⟩ := h
    simp [trimLeft_cons trimmed]

/-- Each word leaves a shorter rest. -/
theorem length_rest_lt {cursor word rest : List Char} (h : next? cursor = some (word, rest)) :
    rest.length < cursor.length := by
  have nonempty := word_ne_nil h
  have whole := congrArg List.length (cursor_eq h)
  simp only [List.length_append] at whole
  have := List.length_pos_iff.mpr nonempty
  omega

/-! ## All words -/

/-- The pieces of a text between its blanks; an empty text is one empty piece. -/
def pieces : List Char → List (List Char)
  | [] => [[]]
  | c :: rest =>
      if isBlank c then [] :: pieces rest
      else
        match pieces rest with
        | [] => [[c]]
        | piece :: more => (c :: piece) :: more

/-- The words of a line: the pieces between its blanks that are not empty. -/
def ofLine (line : List Char) : List (List Char) :=
  (pieces line).filter (· ≠ [])

/-- Blanks at the ends and between words make no words. -/
example : ofLine "  read 1\t/3 ".toList = ["read".toList, "1".toList, "/3".toList] := by
  decide +kernel

end DeviceConsole.Words
