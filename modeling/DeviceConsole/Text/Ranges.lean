/-!
# Ranges of code points

A property of characters is a table: the code points that have it, as inclusive ranges in
ascending order.  A code point is looked up by halving the table.

Main results:

- Theorem {lit}`exists_of_covers`: a code point that is found lies in one of the ranges.
-/

namespace DeviceConsole

/-- An inclusive range of code points. -/
abbrev CodeRange :=
  Nat × Nat

/-- Whether a code point lies in a range. -/
def CodeRange.contains (range : CodeRange) (code : Nat) : Bool :=
  range.1 ≤ code && code ≤ range.2

/-- Searches ascending ranges between the positions {lit}`low` and {lit}`high` for a code
point, halving the span {lit}`fuel` times at most. -/
def searchRanges (ranges : Array CodeRange) (code : Nat) : Nat → Nat → Nat → Bool
  | 0, _, _ => false
  | fuel + 1, low, high =>
      if low < high then
        let middle := (low + high) / 2
        match ranges[middle]? with
        | none => false
        | some range =>
            if code < range.1 then searchRanges ranges code fuel low middle
            else if range.2 < code then searchRanges ranges code fuel (middle + 1) high
            else true
      else
        false

/-- Whether a code point lies in one of the ascending ranges. -/
def covers (ranges : Array CodeRange) (code : Nat) : Bool :=
  searchRanges ranges code ranges.size 0 ranges.size

/-- What a search finds lies in one of the ranges. -/
theorem exists_of_searchRanges {ranges : Array CodeRange} {code fuel low high : Nat}
    (h : searchRanges ranges code fuel low high) : ∃ range ∈ ranges, range.contains code := by
  induction fuel generalizing low high with
  | zero => simp [searchRanges] at h
  | succ fuel ih =>
      unfold searchRanges at h
      split at h
      · dsimp only at h
        split at h
        · simp at h
        · rename_i range found
          split at h
          · exact ih h
          · split at h
            · exact ih h
            · refine ⟨range, Array.mem_of_getElem? found, ?_⟩
              simp only [CodeRange.contains, Bool.and_eq_true, decide_eq_true_eq]
              omega
      · simp at h

/-- A code point that is found lies in one of the ranges. -/
theorem exists_of_covers {ranges : Array CodeRange} {code : Nat} (h : covers ranges code) :
    ∃ range ∈ ranges, range.contains code :=
  exists_of_searchRanges h

end DeviceConsole
