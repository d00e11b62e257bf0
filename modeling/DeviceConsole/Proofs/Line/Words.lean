import DeviceConsole.Line.Words
import DeviceConsole.Proofs.Text.Runs

/-!
# A cursor over the words of a line

Taking words one by one from a cursor finds the words that cutting the line at every blank
finds, and nothing is left exactly when there are no more of them.

Main results:

- Theorem {lit}`next?_eq_some_iff`: the next word is the first run behind a gap of blanks.
- Theorem {lit}`ofLine_eq_nil_iff`: a cursor is at the end when its text has no words.
- Theorem {lit}`ofLine_of_next?`: the next word is the first one, and the rest has the others.
-/

namespace DeviceConsole.Words

/-! ## The next word -/

/-- A run of characters without blanks at its place in a line.  It goes on to neither side. -/
structure IsRun (line front run back : List Char) : Prop where
  line_eq : line = front ++ run ++ back
  ne_nil : run ≠ []
  notBlank : ∀ c ∈ run, isBlank c = false
  blank_front : ∀ c ∈ front.getLast?, isBlank c
  blank_back : ∀ c ∈ back.head?, isBlank c

/-- The next word is the first run behind a gap of blanks. -/
theorem next?_eq_some_iff {cursor word rest : List Char} :
    next? cursor = some (word, rest) ↔
      ∃ gap, (∀ c ∈ gap, isBlank c) ∧ IsRun cursor gap word rest := by
  constructor
  · intro hnext
    have hline := cursor_eq hnext
    have hne := word_ne_nil hnext
    have hgap : ∀ c ∈ cursor.takeWhile isBlank, isBlank c := List.all_eq_true.mp List.all_takeWhile
    have hfront : ∀ c ∈ (cursor.takeWhile isBlank).getLast?, isBlank c :=
      fun c hc => hgap c (List.mem_of_getLast? hc)
    unfold next? at hnext
    split at hnext
    · simp at hnext
    · rename_i c tail htrim
      obtain ⟨rfl, rfl⟩ := Prod.mk.inj (Option.some.inj hnext)
      refine ⟨_, hgap, hline, hne, ?_, hfront, ?_⟩
      · intro d hd
        have hall := List.all_takeWhile (l := c :: tail) (p := (!isBlank ·))
        simpa using List.all_eq_true.mp hall d hd
      · intro d hd
        have hhead := List.head?_dropWhile_not (!isBlank ·) (c :: tail)
        rw [Option.mem_def.mp hd] at hhead
        simpa using hhead
  · rintro ⟨gap, hgap, hrun⟩
    obtain ⟨c, tail, rfl⟩ := List.exists_cons_of_ne_nil hrun.ne_nil
    have hword : (c :: tail).all (!isBlank ·) := by
      rw [List.all_eq_true]
      intro d hd
      simp [hrun.notBlank d hd]
    have hstops : Stops (!isBlank ·) rest := by
      intro d hd
      simp [hrun.blank_back d hd]
    have htrim : trimLeft cursor = c :: (tail ++ rest) := by
      rw [hrun.line_eq, List.append_assoc, trimLeft]
      refine dropWhile_append_of_stops (List.all_eq_true.mpr hgap) ?_
      exact stops_cons_iff.mpr (hrun.notBlank c List.mem_cons_self)
    unfold next?
    rw [htrim]
    dsimp only
    rw [← List.cons_append, takeWhile_append_of_stops hword hstops,
      dropWhile_append_of_stops hword hstops]

/-! ## All words -/

theorem pieces_blank {c : Char} (hblank : isBlank c) (rest : List Char) :
    pieces (c :: rest) = [] :: pieces rest := by
  rw [pieces, if_pos hblank]

/-- Characters that are no blanks go to the front of the first piece. -/
theorem pieces_append {word : List Char} (hword : ∀ c ∈ word, isBlank c = false)
    {rest piece : List Char} {more : List (List Char)} (hrest : pieces rest = piece :: more) :
    pieces (word ++ rest) = (word ++ piece) :: more := by
  induction word with
  | nil => exact hrest
  | cons c word ih =>
      have hc : isBlank c = false := hword c List.mem_cons_self
      have htail := ih fun d hd => hword d (List.mem_cons_of_mem c hd)
      rw [List.cons_append, pieces, htail]
      simp [hc]

/-- A blank in front makes no word. -/
theorem ofLine_blank {c : Char} (hblank : isBlank c) (rest : List Char) :
    ofLine (c :: rest) = ofLine rest := by
  simp [ofLine, pieces_blank hblank]

theorem ofLine_trimLeft (text : List Char) : ofLine (trimLeft text) = ofLine text := by
  induction text with
  | nil => rfl
  | cons c rest ih =>
      by_cases hblank : isBlank c
      · rw [ofLine_blank hblank, ← ih, trimLeft, List.dropWhile_cons_of_pos hblank, trimLeft]
      · rw [trimLeft, List.dropWhile_cons_of_neg hblank]

/-- A run of characters that ends at a blank, or with the text, is a word. -/
theorem ofLine_append {word rest : List Char} (hne : word ≠ [])
    (hword : ∀ c ∈ word, isBlank c = false) (hrest : ∀ c ∈ rest.head?, isBlank c) :
    ofLine (word ++ rest) = word :: ofLine rest := by
  cases rest with
  | nil =>
      have hpieces := pieces_append hword (show pieces [] = [] :: [] from rfl)
      simp only [List.append_nil] at hpieces ⊢
      simp [ofLine, hpieces, hne, pieces]
  | cons c rest =>
      have hblank : isBlank c := hrest c (by simp)
      have hpieces := pieces_append hword (pieces_blank hblank rest)
      simp [ofLine, hpieces, hne, pieces_blank hblank]

/-- The next word is the first one, and the rest has the others. -/
theorem ofLine_of_next? {cursor word rest : List Char} (hnext : next? cursor = some (word, rest)) :
    ofLine cursor = word :: ofLine rest := by
  obtain ⟨gap, hgap, hrun⟩ := next?_eq_some_iff.mp hnext
  have htrim : trimLeft (gap ++ (word ++ rest)) = trimLeft (word ++ rest) :=
    List.dropWhile_append_of_pos hgap
  rw [hrun.line_eq, List.append_assoc, ← ofLine_trimLeft, htrim, ofLine_trimLeft]
  exact ofLine_append hrun.ne_nil hrun.notBlank hrun.blank_back

/-- A cursor is at the end when its text has no words. -/
theorem ofLine_eq_nil_iff (cursor : List Char) : ofLine cursor = [] ↔ next? cursor = none := by
  constructor
  · intro hnil
    cases hnext : next? cursor with
    | none => rfl
    | some found =>
        rw [ofLine_of_next? hnext] at hnil
        simp at hnil
  · intro hnone
    rw [next?_eq_none_iff, atEnd, List.isEmpty_iff] at hnone
    rw [← ofLine_trimLeft, hnone]
    rfl

/-- A text whose words begin with a word has it as its next one. -/
theorem next?_of_ofLine {cursor word : List Char} {words : List (List Char)}
    (hwords : ofLine cursor = word :: words) :
    ∃ rest, next? cursor = some (word, rest) ∧ ofLine rest = words := by
  cases hnext : next? cursor with
  | none =>
      rw [(ofLine_eq_nil_iff cursor).mpr hnext] at hwords
      simp at hwords
  | some found =>
      obtain ⟨first, rest⟩ := found
      rw [ofLine_of_next? hnext] at hwords
      obtain ⟨rfl, rfl⟩ := List.cons.inj hwords
      exact ⟨rest, rfl, rfl⟩

end DeviceConsole.Words
