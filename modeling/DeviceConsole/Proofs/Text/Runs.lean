import Mathlib.Data.List.Basic

/-!
# Runs at the ends of a text

Characters with a property are taken off the front of a text as long as there are any.  A run of
them comes off whole where a character without the property, or the end of the text, follows it.

Main results:

- Theorem {lit}`takeWhile_append_of_stops`, {lit}`dropWhile_append_of_stops`: a text is cut behind
  such a run.
- Theorem {lit}`replicate_append_dropWhile`: what is taken off the front is a row of one character.
-/

namespace DeviceConsole

variable {property : Char → Bool} {run rest : List Char}

/-- Whether no character with a property stands in front of a text. -/
def Stops (property : Char → Bool) (rest : List Char) : Prop :=
  ∀ c ∈ rest.head?, property c = false

@[simp]
theorem stops_nil : Stops property [] :=
  nofun

@[simp]
theorem stops_cons_iff {c : Char} : Stops property (c :: rest) ↔ property c = false := by
  simp [Stops]

theorem takeWhile_of_stops (hrest : Stops property rest) : rest.takeWhile property = [] := by
  cases rest with
  | nil => rfl
  | cons c rest => rw [List.takeWhile_cons, stops_cons_iff.mp hrest]; rfl

theorem dropWhile_of_stops (hrest : Stops property rest) : rest.dropWhile property = rest := by
  cases rest with
  | nil => rfl
  | cons c rest => rw [List.dropWhile_cons, stops_cons_iff.mp hrest]; rfl

theorem takeWhile_append_of_stops (hrun : run.all property) (hrest : Stops property rest) :
    (run ++ rest).takeWhile property = run := by
  rw [List.takeWhile_append_of_pos (List.all_eq_true.mp hrun), takeWhile_of_stops hrest,
    List.append_nil]

theorem dropWhile_append_of_stops (hrun : run.all property) (hrest : Stops property rest) :
    (run ++ rest).dropWhile property = rest := by
  rw [List.dropWhile_append_of_pos (List.all_eq_true.mp hrun), dropWhile_of_stops hrest]

/-- What is taken off the front of a text is a row of one character. -/
theorem replicate_append_dropWhile (c : Char) (text : List Char) :
    List.replicate (text.takeWhile (· == c)).length c ++ text.dropWhile (· == c) = text := by
  have hrow : text.takeWhile (· == c) = List.replicate (text.takeWhile (· == c)).length c :=
    List.eq_replicate_iff.mpr
      ⟨rfl, fun d hmem => eq_of_beq (List.all_eq_true.mp List.all_takeWhile d hmem)⟩
  rw [← hrow, List.takeWhile_append_dropWhile]

/-- A row of one character comes off the front of a text that has none. -/
theorem dropWhile_replicate_append {c : Char} {text : List Char} (hfree : c ∉ text) (count : Nat) :
    (List.replicate count c ++ text).dropWhile (· == c) = text := by
  apply dropWhile_append_of_stops
  · rw [List.all_eq_true]
    intro d hmem
    exact beq_iff_eq.mpr (List.eq_of_mem_replicate hmem)
  · intro d hhead
    exact beq_eq_false_iff_ne.mpr fun h => hfree (h ▸ List.mem_of_mem_head? hhead)

end DeviceConsole
