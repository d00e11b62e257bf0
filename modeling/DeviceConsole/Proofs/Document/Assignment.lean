import DeviceConsole.Document.Parser
import DeviceConsole.Proofs.Text.Runs

/-!
# A document of one line

A line gives a key its value.  A key without quotes is a run of key characters, and a text between
double quotes is itself as long as it has no quote, no backslash and no control character, so that
a document of one such line has one entry.

Main results:

- Theorem {lit}`readBasic_plain`: a plain text is read up to its closing quote.
- Theorem {lit}`readSplitKey_word`: a word in front of the equals sign is the whole key.
- Theorem {lit}`parse?_assignment`: the document of one line has the one entry.
-/

namespace DeviceConsole.Document

/-! ## Text between double quotes -/

/-- Whether a character stands for itself between double quotes. -/
def isPlain (c : Char) : Bool :=
  isPrintable c && c ≠ '"' && c ≠ '\\'

variable {word text : List Char}

/-- A plain text is read up to its closing quote. -/
theorem readBasic_plain (htext : text.all isPlain) (rest : List Char) :
    readBasic (text ++ '"' :: rest) = some (text, rest) := by
  induction text with
  | nil => rw [List.nil_append, readBasic]
  | cons c text ih =>
      simp only [List.all_cons, Bool.and_eq_true, isPlain, decide_eq_true_eq] at htext
      obtain ⟨⟨⟨hprintable, hquote⟩, hslash⟩, htext⟩ := htext
      rw [List.cons_append, readBasic, if_pos hprintable, ih htext, Option.map_some]
      · exact hquote
      · exact hslash

/-- Three quotes in a row are another opening, which an empty text at the end of its line is not
taken for. -/
theorem readText_plain (htext : text.all isPlain) {rest : List Char}
    (hrest : rest.head? ≠ some '"') :
    readText ('"' :: (text ++ '"' :: rest)) = some (String.ofList text, rest) := by
  have hshort : readShortText ('"' :: (text ++ '"' :: rest)) = some (String.ofList text, rest) := by
    rw [readShortText, readBasic_plain htext, Option.map_some]
  rw [← hshort]
  unfold readText
  split
  · next found heq =>
    rw [List.cons.injEq] at heq
    cases text with
    | nil =>
        rw [List.nil_append, List.cons.injEq] at heq
        exact absurd (by rw [heq.2.2, List.head?_cons]) hrest
    | cons c text =>
        rw [List.cons_append, List.cons.injEq] at heq
        rw [List.all_cons, Bool.and_eq_true, heq.2.1] at htext
        exact absurd htext.1 (by decide)
  · next heq => exact absurd (List.cons.inj heq).1 (by decide)
  · rfl

/-! ## Keys -/

theorem stops_of_isKeyCharacter {property : Char → Bool} {c : Char} (hc : isKeyCharacter c)
    (hproperty : ∀ d, property d → ¬ isKeyCharacter d) (rest : List Char) :
    Stops property (c :: rest) :=
  stops_cons_iff.mpr (Bool.eq_false_iff.mpr fun h => hproperty c h hc)

theorem not_isKeyCharacter_of_isInlineBlank (c : Char) (h : isInlineBlank c) :
    ¬ isKeyCharacter c := by
  simp only [isInlineBlank, Bool.or_eq_true, decide_eq_true_eq] at h
  rcases h with rfl | rfl <;> decide

/-- A word is a key without quotes. -/
theorem readKeyPart_word (hne : word ≠ []) (hword : word.all isKeyCharacter) {rest : List Char}
    (hrest : Stops isKeyCharacter rest) :
    readKeyPart (word ++ rest) = some (String.ofList word, rest) := by
  have hunquoted : readShortText (word ++ rest) = none := by
    obtain ⟨c, tail, rfl⟩ := List.exists_cons_of_ne_nil hne
    have hc : isKeyCharacter c := List.all_eq_true.mp hword c List.mem_cons_self
    unfold readShortText
    split
    · next heq => exact absurd ((List.cons.inj heq).1 ▸ hc) (by decide)
    · next heq => exact absurd ((List.cons.inj heq).1 ▸ hc) (by decide)
    · rfl
  have hfilled : word.isEmpty = false := List.isEmpty_eq_false_iff.mpr hne
  simp only [readKeyPart, hunquoted, takeWhile_append_of_stops hword hrest,
    dropWhile_append_of_stops hword hrest, hfilled, Bool.false_eq_true, if_false]

/-- A word in front of the equals sign is the whole key. -/
theorem readSplitKey_word (hne : word ≠ []) (hword : word.all isKeyCharacter) (rest : List Char) :
    readSplitKey (word ++ ' ' :: '=' :: rest) = some (([], String.ofList word), '=' :: rest) := by
  have hskip : skipBlanks (word ++ ' ' :: '=' :: rest) = word ++ ' ' :: '=' :: rest := by
    obtain ⟨c, tail, rfl⟩ := List.exists_cons_of_ne_nil hne
    have hc : isKeyCharacter c := List.all_eq_true.mp hword c List.mem_cons_self
    exact dropWhile_of_stops
      (stops_of_isKeyCharacter hc not_isKeyCharacter_of_isInlineBlank _)
  have hstops : Stops isKeyCharacter (' ' :: '=' :: rest) := stops_cons_iff.mpr (by decide)
  have hpart := readKeyPart_word hne hword hstops
  have hkey : readAnyKey (word ++ ' ' :: '=' :: rest) =
      some ([String.ofList word], '=' :: rest) := by
    rw [readAnyKey, nestingLimit, readKey, hskip, hpart]
    rfl
  rw [readSplitKey, hkey]
  rfl

/-! ## One line -/

/-- The line that gives a key a text. -/
def assignment (word text : List Char) : List Char :=
  word ++ ' ' :: '=' :: ' ' :: '"' :: (text ++ ['"', '\n'])

/-- A line begins with the first character of its key. -/
theorem exists_assignment_eq_cons (hne : word ≠ []) (hword : word.all isKeyCharacter)
    (text : List Char) : ∃ c rest, isKeyCharacter c ∧ assignment word text = c :: rest := by
  obtain ⟨c, tail, rfl⟩ := List.exists_cons_of_ne_nil hne
  exact ⟨c, _, List.all_eq_true.mp hword c List.mem_cons_self, rfl⟩

/-- A value that begins with a double quote is a text. -/
theorem readAnyValue_quote (rest : List Char) :
    readAnyValue ('"' :: rest) =
      (readText ('"' :: rest)).map fun (text, rest) => (.text text, rest) := by
  have hquote : (('"' :: rest).head? = some '"' || ('"' :: rest).head? = some '\'') = true := rfl
  rw [readAnyValue, readValue, if_pos hquote]
  all_goals simp

/-- The line is read as what it does. -/
theorem readLine_assignment (hne : word ≠ []) (hword : word.all isKeyCharacter)
    (htext : text.all isPlain) :
    readLine (assignment word text) =
      some (.assign [] (String.ofList word) (.text (String.ofList text)), ['\n']) := by
  have hkey := readSplitKey_word hne hword (' ' :: '"' :: (text ++ ['"', '\n']))
  have hvalue : readAnyValue ('"' :: (text ++ ['"', '\n'])) =
      some (.text (String.ofList text), ['\n']) := by
    rw [readAnyValue_quote, readText_plain htext (by decide), Option.map_some]
  have hbracket (rest : List Char) : assignment word text ≠ '[' :: rest := by
    obtain ⟨c, tail, hc, hline⟩ := exists_assignment_eq_cons hne hword text
    intro heq
    exact absurd ((List.cons.inj (hline.symm.trans heq)).1 ▸ hc) (by decide)
  unfold readLine
  split
  · next heq => exact absurd heq (hbracket _)
  · next heq => exact absurd heq (hbracket _)
  · have hblank : skipBlanks (' ' :: '"' :: (text ++ ['"', '\n'])) =
        '"' :: (text ++ ['"', '\n']) := rfl
    simp only [assignment, hkey, Reader.char, if_true, hblank, hvalue, Option.bind_eq_bind,
      Option.bind_some, Option.pure_def]

/-- Nothing stands in front of the key. -/
theorem skipGap_key {c : Char} (hc : isKeyCharacter c) (rest : List Char) :
    skipGap false (c :: rest) = some (c :: rest) := by
  have hblank : isInlineBlank c = false :=
    Bool.eq_false_iff.mpr fun h => not_isKeyCharacter_of_isInlineBlank c h hc
  have hother : c ≠ '\n' ∧ c ≠ '\r' ∧ c ≠ '#' := by
    refine ⟨?_, ?_, ?_⟩ <;> rintro rfl <;> exact absurd hc (by decide)
  rw [skipGap]
  · simp [hblank, hother]
  · intro _ hreturn
    exact absurd hreturn hother.2.1

/-- Nothing else is in the document. -/
theorem readLines_assignment (hne : word ≠ []) (hword : word.all isKeyCharacter)
    (htext : text.all isPlain) (room : Nat) :
    readLines (room + 2) (assignment word text) =
      some [.assign [] (String.ofList word) (.text (String.ofList text))] := by
  have hline := readLine_assignment hne hword htext
  obtain ⟨c, rest, hc, hcons⟩ := exists_assignment_eq_cons hne hword text
  rw [hcons] at hline ⊢
  have hbehind : readLines (room + 1) ['\n'] = some [] := rfl
  have hend : atLineEnd ['\n'] = true := rfl
  rw [readLines, skipGap_key hc]
  simp only [Option.bind_eq_bind, Option.bind_some, List.isEmpty_cons, Bool.false_eq_true,
    if_false, hline, hend, if_true, hbehind, Option.pure_def]

/-- The document of one line has the one entry. -/
theorem parse?_assignment (hne : word ≠ []) (hword : word.all isKeyCharacter)
    (htext : text.all isPlain) :
    parse? (String.ofList (assignment word text)) =
      some [(String.ofList word, .text (String.ofList text))] := by
  have hmark : dropMark (assignment word text) = assignment word text := by
    obtain ⟨c, rest, hc, hcons⟩ := exists_assignment_eq_cons hne hword text
    rw [hcons, dropMark, if_neg]
    intro heq
    exact absurd (Option.some.inj heq ▸ hc) (by decide)
  obtain ⟨room, hroom⟩ : ∃ room, (assignment word text).length = room + 1 :=
    Nat.exists_eq_succ_of_ne_zero (by simp [assignment])
  have hlines := readLines_assignment hne hword htext room
  simp only [parse?, String.toList_ofList, hmark, hroom, hlines, Option.bind_eq_bind,
    Option.bind_some]
  rfl

end DeviceConsole.Document
