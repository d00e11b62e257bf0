import DeviceConsole.Proofs.Path.Grammar

/-!
# Writing paths and reading them again

A path is written with one numeral for each level, and what is written is read as the same path,
unless a level has the reserved value.  Of the other texts of a path, each has a slash at its end
or a superfluous zero in front of a level.

Main results:

- Theorem {lit}`parse_chars`: a path is read from its own text.
- Theorem {lit}`parse_chars_reserved`: a reserved level is out of range.
- Theorem {lit}`chars_eq_iff`: which of the texts of a path is its own.
-/

namespace DeviceConsole

namespace Path

/-! ## The text of a path -/

/-- The numerals that the levels of a path are written with. -/
def numerals (path : Path) : List (List Char) :=
  path.levels.map fun level => Decimal.digits level.toNat

theorem chars_eq_flatMap (path : Path) : path.chars = path.numerals.flatMap ('/' :: ·) := by
  rw [chars, numerals, List.flatMap_map]

theorem length_numerals_le (path : Path) : path.numerals.length ≤ 4 := by
  rw [numerals, List.length_map]
  exact path.depth_pos_le.2

theorem numerals_ne_nil (path : Path) : path.numerals ≠ [] := by
  cases path <;> simp [numerals, levels]

theorem isNumeral_of_mem_numerals {path : Path} :
    ∀ segment ∈ path.numerals, ∃ n, IsNumeral segment n := by
  intro segment hmem
  obtain ⟨level, -, rfl⟩ := List.mem_map.mp hmem
  exact ⟨level.toNat, isNumeral_digits level.toNat⟩

theorem namesLevel_digits {level : UInt16} (h : level < reserved) :
    NamesLevel (Decimal.digits level.toNat) :=
  ⟨level.toNat, isNumeral_digits level.toNat, UInt16.lt_iff_toNat_lt.mp h⟩

theorem isSlashed_chars (path : Path) : IsSlashed path.chars path.numerals :=
  Or.inl path.chars_eq_flatMap

/-! ## Reading it -/

/-- A path is read from its own text, when no level has the reserved value. -/
theorem parse_chars {path : Path} (h : ∀ level ∈ path.levels, level < reserved) :
    parse path.chars = .ok path := by
  have hlevels : ∀ segment ∈ path.numerals, NamesLevel segment := by
    intro segment hmem
    obtain ⟨level, hlevel, rfl⟩ := List.mem_map.mp hmem
    exact namesLevel_digits (h level hlevel)
  have hvalues : path.levels.map UInt16.toNat = path.numerals.map Decimal.value := by
    simp [numerals, value_digits, Function.comp_def]
  rw [parse_eq_ok_iff]
  exact ⟨path.numerals,
    ⟨isSlashed_chars path, numerals_ne_nil path, length_numerals_le path, hlevels⟩,
    forall₂_isLevel_iff.mpr ⟨hlevels, hvalues⟩⟩

/-- The first level with the reserved value is out of range. -/
theorem parse_chars_reserved {path : Path} {front back : List UInt16} {level : UInt16}
    (hlevels : path.levels = front ++ level :: back) (hfront : ∀ other ∈ front, other < reserved)
    (hlevel : reserved ≤ level) :
    parse path.chars = .error (.outOfRange (String.ofList (Decimal.digits level.toNat))) := by
  obtain ⟨body, hbody, hsplit⟩ :=
    (isSlashed_iff (numerals_ne_nil path) isNumeral_of_mem_numerals).mp (isSlashed_chars path)
  have hnumerals : body.splitOn '/' = front.map (fun other => Decimal.digits other.toNat) ++
      Decimal.digits level.toNat :: back.map fun other => Decimal.digits other.toNat := by
    rw [hsplit, numerals, hlevels, List.map_append, List.map_cons]
  have hreached : IsReached 4 (body.splitOn '/') (Decimal.digits level.toNat) := by
    refine ⟨_, _, hnumerals, ?_, ?_⟩
    · have hlength := length_numerals_le path
      rw [← hsplit, hnumerals] at hlength
      simp at hlength ⊢
      omega
    · intro segment hmem
      obtain ⟨other, hother, rfl⟩ := List.mem_map.mp hmem
      exact namesLevel_digits (hfront other hother)
  have hfault := SegmentFault.tooLarge (isNumeral_digits level.toNat)
    (UInt16.le_iff_toNat_le.mp hlevel)
  rw [parse_eq_error_iff]
  exact Or.inr (Or.inr ⟨body, hbody, (body_of_numerals (hsplit ▸ isNumeral_of_mem_numerals)).1,
    Or.inl ⟨_, hreached, hfault⟩⟩)

/-- No level of a path that was read is reserved. -/
theorem lt_reserved_of_parse {text : List Char} {path : Path} (h : parse text = .ok path) :
    ∀ level ∈ path.levels, level < reserved := by
  obtain ⟨segments, -, hall⟩ := parse_eq_ok_iff.mp h
  generalize path.levels = levels at hall
  induction hall with
  | nil => simp
  | cons hlevel _ ih => exact List.forall_mem_cons.mpr ⟨hlevel.lt_reserved, ih⟩

/-! ## The texts of a path -/

section

variable {segments : List (List Char)} (hne : segments ≠ [])
  (hnumerals : ∀ segment ∈ segments, ∃ n, IsNumeral segment n)

include hne hnumerals

/-- The segments of a text are what stands between its slashes. -/
theorem splitOn_flatMap_slash :
    (segments.flatMap ('/' :: ·)).splitOn '/' = [] :: segments := by
  rw [flatMap_slash hne, ← List.nil_append ('/' :: _),
    List.splitOn_append_cons_self_of_not_mem (by simp), splitOn_intercalate_slash hne hnumerals]

/-- The last segment ends in a digit. -/
theorem not_slash_isSuffix_flatMap : ¬ ['/'] <:+ segments.flatMap ('/' :: ·) := by
  have hsplit := splitOn_intercalate_slash hne hnumerals
  have hbody := body_of_numerals (hsplit.symm ▸ hnumerals)
  rw [flatMap_slash hne, List.suffix_cons_iff]
  rintro (hsame | hsuffix)
  · exact hbody.1 (List.cons.inj hsame).2.symm
  · exact hbody.2 hsuffix

end

/-- Numerals are what their levels are written with when none has a superfluous zero. -/
theorem digits_eq_segments_iff {segments : List (List Char)} {levels : List UInt16}
    (h : List.Forall₂ IsLevel segments levels) :
    (levels.map fun level => Decimal.digits level.toNat) = segments ↔
      ∀ segment ∈ segments, ¬ HasSpareZero segment := by
  induction h with
  | nil => simp
  | cons hlevel _ ih =>
      rw [List.map_cons, List.cons_eq_cons, ih, hlevel.numeral.digits_eq_iff,
        List.forall_mem_cons]

/-- Of the texts of a path, its own one has no slash at the end and no superfluous zero. -/
theorem chars_eq_iff {text : List Char} {path : Path} (h : parse text = .ok path) :
    path.chars = text ↔
      ¬ ['/'] <:+ text ∧ ∀ segment ∈ text.splitOn '/', ¬ HasSpareZero segment := by
  obtain ⟨segments, hwritten, hall⟩ := parse_eq_ok_iff.mp h
  have hne := hwritten.ne_nil
  have hnumerals := fun segment hmem => (hwritten.levels segment hmem).isNumeral
  have hchars : ¬ ['/'] <:+ path.chars := by
    rw [chars_eq_flatMap]
    exact not_slash_isSuffix_flatMap (numerals_ne_nil path) isNumeral_of_mem_numerals
  rcases hwritten.slashed with rfl | rfl
  · have hsplit := splitOn_flatMap_slash hne hnumerals
    have hsame : path.chars = segments.flatMap ('/' :: ·) ↔ path.numerals = segments := by
      rw [chars_eq_flatMap]
      constructor
      · intro heq
        have hown := splitOn_flatMap_slash (numerals_ne_nil path) isNumeral_of_mem_numerals
        rw [heq, hsplit] at hown
        exact (List.cons.inj hown).2.symm
      · rintro rfl
        rfl
    have hempty : ¬ HasSpareZero [] := nofun
    rw [hsame, numerals, digits_eq_segments_iff hall, hsplit, List.forall_mem_cons]
    exact ⟨fun hzeros => ⟨not_slash_isSuffix_flatMap hne hnumerals, hempty, hzeros⟩,
      fun hown => hown.2.2⟩
  · have hslash : ['/'] <:+ segments.flatMap ('/' :: ·) ++ ['/'] := List.suffix_append _ _
    constructor
    · intro heq
      rw [heq] at hchars
      exact absurd hslash hchars
    · rintro ⟨hlast, -⟩
      exact absurd hslash hlast

theorem ofString_text (path : Path) : ofString path.text = parse path.chars := by
  rw [ofString, text, String.toList_ofList]

end Path

/-! ## There and back -/

/-- How a path is read from its own text, and which of its texts that is. -/
structure Path.RoundTrips (path : Path) : Prop where
  /-- A path is read from its own text. -/
  of_text : (∀ level ∈ path.levels, level < reserved) → ofString path.text = .ok path
  /-- Unless a level has the reserved value: then the first such level is out of range. -/
  of_reserved : reserved ∈ path.levels → ∃ front level back,
    path.levels = front ++ level :: back ∧ (∀ other ∈ front, other < reserved) ∧
      level = reserved ∧ ofString path.text = .error (.outOfRange (toString level.toNat))
  /-- Whatever text a path was read from, its own text gives it again, and a path that is read
  from it has that text. -/
  of_read : ∀ text, ofString text = .ok path → ofString path.text = .ok path ∧
    ∀ again, ofString path.text = .ok again → again.text = path.text
  /-- It is the text that it was read from when that one has no slash at its end, and no level in
  it has a superfluous zero. -/
  text_eq_iff : ∀ text, ofString text = .ok path → (path.text = text ↔
    ¬ ['/'] <:+ text.toList ∧ ∀ segment ∈ text.toList.splitOn '/', ¬ HasSpareZero segment)

/-- Paths are written and read again, and read and written again. -/
theorem Path.roundTrips (path : Path) : path.RoundTrips := by
  have hread : (∀ level ∈ path.levels, level < reserved) → ofString path.text = .ok path := by
    intro hlevels
    rw [ofString_text, parse_chars hlevels]
  constructor
  · exact hread
  · intro hmem
    obtain ⟨front, back, hlevels, hfront⟩ := List.eq_append_cons_of_mem hmem
    have hbelow : ∀ other ∈ front, other < reserved := by
      intro other hother
      have hne : other ≠ reserved := fun heq => hfront (heq ▸ hother)
      rw [UInt16.lt_iff_toNat_lt, toNat_reserved]
      have hle := other.toNat_lt
      have hnat : other.toNat ≠ 65535 := fun heq => hne (UInt16.toNat.inj heq)
      omega
    refine ⟨front, reserved, back, hlevels, hbelow, rfl, ?_⟩
    rw [ofString_text, parse_chars_reserved hlevels hbelow UInt16.le_rfl,
      Nat.toString_eq_ofList_toDigits, Decimal.digits]
  · intro text htext
    have hpath := hread (lt_reserved_of_parse htext)
    refine ⟨hpath, fun again hagain => ?_⟩
    rw [Except.ok.inj (hpath.symm.trans hagain)]
  · intro text htext
    rw [← chars_eq_iff htext, ← String.toList_inj, Path.text, String.toList_ofList]

end DeviceConsole
