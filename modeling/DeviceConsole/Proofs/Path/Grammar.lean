import DeviceConsole.Path.Parser
import DeviceConsole.Proofs.Text.Numerals
import Mathlib.Data.List.Forall2

/-!
# Which texts are paths

A path is written as one to four numerals, each behind a slash, and one more slash may follow.
Every other text has a fault, and when it has several the first one is told: the segments are
looked at in their order, and that there are too many of them is only found behind four levels.

Main results:

- Theorem {lit}`parseLevels_eq_ok_iff`: segments are read when each one is a level.
- Theorem {lit}`parseLevels_eq_error_iff`: the first segment that is no level decides the fault.
- Theorem {lit}`isWritten_iff`: the grammar in terms of what stands between the slashes.
- Theorem {lit}`ofString_readsPath`: what is made of a text, whatever it is.
-/

namespace DeviceConsole

/-- The pieces of a text are those of the standard library. -/
theorem pieces_eq_splitOn {α : Type} [DecidableEq α] (separator : α) (text : List α) :
    pieces separator text = text.splitOn separator := by
  induction text with
  | nil => rfl
  | cons c rest ih =>
      obtain ⟨piece, more, hrest⟩ :=
        List.exists_cons_of_ne_nil (List.splitOn_ne_nil separator rest)
      rw [pieces, ih, List.splitOn_cons_eq_if_modifyHead, hrest]
      simp

namespace Path

/-! ## One segment -/

/-- A segment stands for a level: it is a numeral of the level, which is not reserved. -/
structure IsLevel (segment : List Char) (level : UInt16) : Prop where
  numeral : IsNumeral segment level.toNat
  lt_reserved : level < reserved

/-- A segment is a numeral of some level. -/
def NamesLevel (segment : List Char) : Prop :=
  ∃ n, IsNumeral segment n ∧ n < reserved.toNat

/-- What is wrong with a segment that is no level. -/
inductive SegmentFault (segment : List Char) : PathError → Prop where
  /-- It is no numeral. -/
  | notDigits (h : segment = [] ∨ ∃ c ∈ segment, ¬ c.isDigit) :
      SegmentFault segment (.invalidLevel (String.ofList segment))
  /-- It is a numeral of a number that is reserved, or beyond. -/
  | tooLarge {n : Nat} (hnumeral : IsNumeral segment n) (hlarge : reserved.toNat ≤ n) :
      SegmentFault segment (.outOfRange (String.ofList segment))

theorem IsLevel.namesLevel {segment : List Char} {level : UInt16} (h : IsLevel segment level) :
    NamesLevel segment :=
  ⟨level.toNat, h.numeral, UInt16.lt_iff_toNat_lt.mp h.lt_reserved⟩

theorem NamesLevel.isNumeral {segment : List Char} (h : NamesLevel segment) :
    ∃ n, IsNumeral segment n :=
  h.imp fun _ hlevel => hlevel.1

theorem toNat_reserved : reserved.toNat = 65535 :=
  rfl

theorem toNat_ofNat_of_lt {n : Nat} (hsmall : n < reserved.toNat) : (UInt16.ofNat n).toNat = n :=
  UInt16.toNat_ofNat_of_lt' (Nat.lt_trans hsmall (by decide))

theorem parseLevel_eq_ok_iff {segment : List Char} {level : UInt16} :
    parseLevel segment = .ok level ↔ IsLevel segment level := by
  unfold parseLevel
  constructor
  · intro hread
    split at hread
    · simp at hread
    · rename_i n hnatural
      split at hread
      · rename_i hsmall
        obtain rfl := Except.ok.inj hread
        have hn := toNat_ofNat_of_lt hsmall
        constructor
        · rw [hn]
          exact natural?_eq_some_iff_isNumeral.mp hnatural
        · rwa [UInt16.lt_iff_toNat_lt, hn]
      · simp at hread
  · rintro ⟨hnumeral, hsmall⟩
    rw [natural?_eq_some_iff_isNumeral.mpr hnumeral]
    simp [UInt16.lt_iff_toNat_lt.mp hsmall]

theorem segmentFault_invalidLevel_iff {segment : List Char} {told : String} :
    SegmentFault segment (.invalidLevel told) ↔
      segment = told.toList ∧ (told.toList = [] ∨ ∃ c ∈ told.toList, ¬ c.isDigit) := by
  constructor
  · rintro ⟨h⟩
    rw [String.toList_ofList]
    exact ⟨rfl, h⟩
  · rintro ⟨rfl, h⟩
    simpa using SegmentFault.notDigits h

theorem segmentFault_outOfRange_iff {segment : List Char} {told : String} :
    SegmentFault segment (.outOfRange told) ↔
      segment = told.toList ∧ ∃ n, IsNumeral told.toList n ∧ reserved.toNat ≤ n := by
  constructor
  · intro h
    cases h with
    | tooLarge hnumeral hlarge =>
        rw [String.toList_ofList]
        exact ⟨rfl, _, hnumeral, hlarge⟩
  · rintro ⟨rfl, n, hnumeral, hlarge⟩
    simpa using SegmentFault.tooLarge hnumeral hlarge

theorem parseLevel_eq_error_iff {segment : List Char} {fault : PathError} :
    parseLevel segment = .error fault ↔ SegmentFault segment fault := by
  unfold parseLevel
  constructor
  · intro hread
    split at hread
    · rename_i hnone
      obtain rfl := Except.error.inj hread
      exact .notDigits (natural?_eq_none_iff.mp hnone)
    · rename_i n hnatural
      split at hread
      · simp at hread
      · rename_i hlarge
        obtain rfl := Except.error.inj hread
        exact .tooLarge (natural?_eq_some_iff_isNumeral.mp hnatural) (Nat.le_of_not_lt hlarge)
  · intro hfault
    cases hfault with
    | notDigits h => rw [natural?_eq_none_iff.mpr h]
    | tooLarge hnumeral hlarge =>
        rw [natural?_eq_some_iff_isNumeral.mpr hnumeral]
        simp [Nat.not_lt.mpr hlarge]

/-! ## The segments of a text -/

/-- Segments are levels when each of them is, and then their numbers are the levels. -/
theorem forall₂_isLevel_iff {segments : List (List Char)} {levels : List UInt16} :
    List.Forall₂ IsLevel segments levels ↔
      (∀ segment ∈ segments, NamesLevel segment) ∧
        levels.map UInt16.toNat = segments.map Decimal.value := by
  induction segments generalizing levels with
  | nil => cases levels <;> simp
  | cons segment segments ih =>
      cases levels with
      | nil => simp
      | cons level levels =>
          rw [List.forall₂_cons, ih, List.forall_mem_cons, List.map_cons, List.map_cons,
            List.cons_eq_cons]
          constructor
          · rintro ⟨hlevel, hall, hvalues⟩
            exact ⟨⟨hlevel.namesLevel, hall⟩, hlevel.numeral.value_eq.symm, hvalues⟩
          · rintro ⟨⟨⟨n, hnumeral, hsmall⟩, hall⟩, hvalue, hvalues⟩
            have hn : level.toNat = n := hvalue.trans hnumeral.value_eq
            exact ⟨⟨hn ▸ hnumeral, UInt16.lt_iff_toNat_lt.mpr (hn ▸ hsmall)⟩, hall, hvalues⟩

/-- The first segment is read, and then the others. -/
theorem parseLevels_cons_eq_ok_iff {room : Nat} {segment : List Char}
    {segments : List (List Char)} {levels : List UInt16} :
    parseLevels (room + 1) (segment :: segments) = .ok levels ↔
      ∃ level more, parseLevel segment = .ok level ∧ parseLevels room segments = .ok more ∧
        levels = level :: more := by
  rw [parseLevels]
  cases parseLevel segment with
  | error fault => simp
  | ok level =>
      cases parseLevels room segments with
      | error fault => simp [Except.map]
      | ok more => simp [Except.map, eq_comm]

/-- The fault is that of the first segment, or of the others when the first one is a level. -/
theorem parseLevels_cons_eq_error_iff {room : Nat} {segment : List Char}
    {segments : List (List Char)} {fault : PathError} :
    parseLevels (room + 1) (segment :: segments) = .error fault ↔
      parseLevel segment = .error fault ∨
        (∃ level, parseLevel segment = .ok level) ∧ parseLevels room segments = .error fault := by
  rw [parseLevels]
  cases parseLevel segment with
  | error fault => simp
  | ok level =>
      cases parseLevels room segments with
      | error fault => simp [Except.map]
      | ok more => simp [Except.map]

/-- Segments are read when there is room for them and each one is a level. -/
theorem parseLevels_eq_ok_iff {room : Nat} {segments : List (List Char)} {levels : List UInt16} :
    parseLevels room segments = .ok levels ↔
      segments.length ≤ room ∧ List.Forall₂ IsLevel segments levels := by
  induction segments generalizing room levels with
  | nil => cases levels <;> simp [parseLevels]
  | cons segment segments ih =>
      cases room with
      | zero => simp [parseLevels]
      | succ room =>
          simp only [parseLevels_cons_eq_ok_iff, parseLevel_eq_ok_iff, ih,
            List.forall₂_cons_left_iff, List.length_cons, Nat.add_le_add_iff_right]
          constructor
          · rintro ⟨level, more, hlevel, ⟨hroom, hmore⟩, rfl⟩
            exact ⟨hroom, level, more, hlevel, hmore, rfl⟩
          · rintro ⟨hroom, level, more, hlevel, hmore, rfl⟩
            exact ⟨level, more, hlevel, ⟨hroom, hmore⟩, rfl⟩

/-- A segment stands among the first ones, behind levels only. -/
def IsReached (room : Nat) (segments : List (List Char)) (segment : List Char) : Prop :=
  ∃ front back, segments = front ++ segment :: back ∧ front.length < room ∧
    ∀ piece ∈ front, NamesLevel piece

/-- There are more segments than there may be, and those for which there is room are levels. -/
def IsOverfull (room : Nat) (segments : List (List Char)) : Prop :=
  ∃ front back, segments = front ++ back ∧ front.length = room ∧ back ≠ [] ∧
    ∀ piece ∈ front, NamesLevel piece

theorem not_isReached_nil {room : Nat} {segment : List Char} : ¬ IsReached room [] segment := by
  rintro ⟨front, back, hsegments, -, -⟩
  simp at hsegments

theorem not_isReached_zero {segments : List (List Char)} {segment : List Char} :
    ¬ IsReached 0 segments segment := by
  rintro ⟨front, back, -, hroom, -⟩
  exact Nat.not_lt_zero _ hroom

theorem isReached_cons_iff {room : Nat} {first segment : List Char}
    {segments : List (List Char)} :
    IsReached (room + 1) (first :: segments) segment ↔
      first = segment ∨ NamesLevel first ∧ IsReached room segments segment := by
  constructor
  · rintro ⟨front, back, hsegments, hroom, hfront⟩
    cases front with
    | nil => exact Or.inl (List.cons.inj hsegments).1
    | cons piece front =>
        obtain ⟨rfl, rfl⟩ := List.cons.inj hsegments
        obtain ⟨hfirst, hrest⟩ := List.forall_mem_cons.mp hfront
        exact Or.inr ⟨hfirst, front, back, rfl, Nat.lt_of_succ_lt_succ hroom, hrest⟩
  · rintro (rfl | ⟨hfirst, front, back, rfl, hroom, hfront⟩)
    · exact ⟨[], segments, rfl, Nat.succ_pos room, by simp⟩
    · exact ⟨first :: front, back, rfl, Nat.succ_lt_succ hroom,
        List.forall_mem_cons.mpr ⟨hfirst, hfront⟩⟩

theorem not_isOverfull_nil {room : Nat} : ¬ IsOverfull room [] := by
  rintro ⟨front, back, hsegments, -, hback, -⟩
  exact hback (List.append_eq_nil_iff.mp hsegments.symm).2

theorem isOverfull_zero_cons (first : List Char) (segments : List (List Char)) :
    IsOverfull 0 (first :: segments) :=
  ⟨[], first :: segments, rfl, rfl, List.cons_ne_nil _ _, by simp⟩

theorem isOverfull_cons_iff {room : Nat} {first : List Char} {segments : List (List Char)} :
    IsOverfull (room + 1) (first :: segments) ↔
      NamesLevel first ∧ IsOverfull room segments := by
  constructor
  · rintro ⟨front, back, hsegments, hroom, hback, hfront⟩
    cases front with
    | nil => simp at hroom
    | cons piece front =>
        obtain ⟨rfl, rfl⟩ := List.cons.inj hsegments
        obtain ⟨hfirst, hrest⟩ := List.forall_mem_cons.mp hfront
        exact ⟨hfirst, front, back, rfl, Nat.succ.inj hroom, hback, hrest⟩
  · rintro ⟨hfirst, front, back, rfl, rfl, hback, hfront⟩
    exact ⟨first :: front, back, rfl, rfl, hback, List.forall_mem_cons.mpr ⟨hfirst, hfront⟩⟩

theorem exists_parseLevel_iff {segment : List Char} :
    (∃ level, parseLevel segment = .ok level) ↔ NamesLevel segment := by
  simp only [parseLevel_eq_ok_iff]
  constructor
  · rintro ⟨level, hlevel⟩
    exact hlevel.namesLevel
  · rintro ⟨n, hnumeral, hsmall⟩
    have hn := toNat_ofNat_of_lt hsmall
    exact ⟨.ofNat n, hn.symm ▸ hnumeral, UInt16.lt_iff_toNat_lt.mpr (hn.symm ▸ hsmall)⟩

/-- The first segment that is no level decides the fault, as long as there is room for it. -/
theorem parseLevels_eq_error_iff {room : Nat} {segments : List (List Char)} {fault : PathError} :
    parseLevels room segments = .error fault ↔
      (∃ segment, IsReached room segments segment ∧ SegmentFault segment fault) ∨
        IsOverfull room segments ∧ fault = .tooManyLevels := by
  induction segments generalizing room with
  | nil => simp [parseLevels, not_isReached_nil, not_isOverfull_nil]
  | cons first segments ih =>
      cases room with
      | zero => simp [parseLevels, not_isReached_zero, isOverfull_zero_cons, eq_comm]
      | succ room =>
          rw [parseLevels_cons_eq_error_iff, exists_parseLevel_iff, parseLevel_eq_error_iff, ih]
          simp only [isReached_cons_iff, isOverfull_cons_iff]
          constructor
          · rintro (hfault | ⟨hfirst, ⟨segment, hreached, hfault⟩ | ⟨hfull, rfl⟩⟩)
            · exact Or.inl ⟨first, Or.inl rfl, hfault⟩
            · exact Or.inl ⟨segment, Or.inr ⟨hfirst, hreached⟩, hfault⟩
            · exact Or.inr ⟨⟨hfirst, hfull⟩, rfl⟩
          · rintro (⟨segment, rfl | ⟨hfirst, hreached⟩, hfault⟩ | ⟨⟨hfirst, hfull⟩, rfl⟩)
            · exact Or.inl hfault
            · exact Or.inr ⟨hfirst, Or.inl ⟨segment, hreached, hfault⟩⟩
            · exact Or.inr ⟨hfirst, Or.inr ⟨hfull, rfl⟩⟩

/-! ## The slashes around the segments -/

/-- A text is a slash and a body, and when a slash stands at its end, that one is left out too. -/
def HasBody (text body : List Char) : Prop :=
  text = '/' :: (body ++ ['/']) ∨ text = '/' :: body ∧ ¬ ['/'] <:+ body

/-- A text is written from segments: each stands behind a slash, and one more slash may follow. -/
def IsSlashed (text : List Char) (segments : List (List Char)) : Prop :=
  text = segments.flatMap ('/' :: ·) ∨ text = segments.flatMap ('/' :: ·) ++ ['/']

/-- A text is written from the numerals of one to four levels. -/
structure IsWritten (text : List Char) (segments : List (List Char)) : Prop where
  slashed : IsSlashed text segments
  ne_nil : segments ≠ []
  length_le : segments.length ≤ 4
  levels : ∀ segment ∈ segments, NamesLevel segment

theorem getLast?_eq_slash_iff {text : List Char} : text.getLast? = some '/' ↔ ['/'] <:+ text := by
  rw [List.getLast?_eq_some_iff]
  exact exists_congr fun front => eq_comm

/-- Every text with a slash in front has a body, and only one. -/
theorem hasBody_cons_iff {rooted body : List Char} :
    HasBody ('/' :: rooted) body ↔ dropFinalSlash rooted = body := by
  unfold HasBody dropFinalSlash
  simp only [List.cons.injEq, true_and, getLast?_eq_slash_iff]
  constructor
  · rintro (rfl | ⟨rfl, hlast⟩)
    · simp
    · simp [hlast]
  · split
    · rename_i hlast
      rintro rfl
      obtain ⟨front, rfl⟩ := hlast
      exact Or.inl (by simp)
    · rename_i hlast
      rintro rfl
      exact Or.inr ⟨rfl, hlast⟩

theorem HasBody.exists_rooted {text body : List Char} (h : HasBody text body) :
    ∃ rooted, text = '/' :: rooted ∧ dropFinalSlash rooted = body := by
  obtain ⟨rooted, rfl⟩ : ∃ rooted, text = '/' :: rooted := by
    rcases h with rfl | ⟨rfl, -⟩
    · exact ⟨_, rfl⟩
    · exact ⟨_, rfl⟩
  exact ⟨rooted, rfl, hasBody_cons_iff.mp h⟩

theorem slash_isPrefix_iff {text : List Char} : ['/'] <+: text ↔ text.head? = some '/' := by
  cases text <;> simp [eq_comm]

theorem exists_hasBody_iff {text : List Char} :
    (∃ body, HasBody text body) ↔ ['/'] <+: text := by
  constructor
  · rintro ⟨body, hbody⟩
    obtain ⟨rooted, rfl, -⟩ := hbody.exists_rooted
    exact ⟨rooted, rfl⟩
  · rintro ⟨rooted, rfl⟩
    exact ⟨dropFinalSlash rooted, hasBody_cons_iff.mpr rfl⟩

theorem hasBody_nil_iff {text : List Char} :
    HasBody text [] ↔ text = ['/'] ∨ text = ['/', '/'] := by
  simp [HasBody, or_comm]

/-- The body lies between slashes, and so the slashes in it lie between the segments. -/
theorem flatMap_slash {segments : List (List Char)} (hne : segments ≠ []) :
    segments.flatMap ('/' :: ·) = '/' :: ['/'].intercalate segments := by
  induction segments with
  | nil => exact absurd rfl hne
  | cons segment segments ih =>
      cases segments with
      | nil => simp
      | cons next others =>
          rw [List.flatMap_cons, ih (List.cons_ne_nil _ _), List.intercalate_cons_cons]
          simp

section

variable {segments : List (List Char)}

theorem splitOn_intercalate_slash (hne : segments ≠ [])
    (hnumerals : ∀ segment ∈ segments, ∃ n, IsNumeral segment n) :
    (['/'].intercalate segments).splitOn '/' = segments := by
  refine List.splitOn_intercalate '/' (fun segment hmem hslash => ?_) hne
  obtain ⟨n, hnumeral⟩ := hnumerals segment hmem
  exact absurd (hnumeral.digits '/' hslash) (by decide)

/-- A body of numerals is not empty, and does not end in a slash: an empty segment would stand
there. -/
theorem body_of_numerals {body : List Char}
    (hnumerals : ∀ segment ∈ body.splitOn '/', ∃ n, IsNumeral segment n) :
    body ≠ [] ∧ ¬ ['/'] <:+ body := by
  have hnonempty : [] ∉ body.splitOn '/' := by
    intro hmem
    obtain ⟨n, hnumeral⟩ := hnumerals [] hmem
    exact hnumeral.ne_nil rfl
  constructor
  · rintro rfl
    exact hnonempty (by simp)
  · rintro ⟨front, rfl⟩
    exact hnonempty (by simp [List.splitOn_append_cons_self])

/-- A text is written from segments of digits when cutting its body gives them. -/
theorem isSlashed_iff {text : List Char} (hne : segments ≠ [])
    (hnumerals : ∀ segment ∈ segments, ∃ n, IsNumeral segment n) :
    IsSlashed text segments ↔ ∃ body, HasBody text body ∧ body.splitOn '/' = segments := by
  rw [IsSlashed, flatMap_slash hne]
  have hsplit := splitOn_intercalate_slash hne hnumerals
  constructor
  · rintro (rfl | rfl)
    · have hbody := body_of_numerals (hsplit.symm ▸ hnumerals)
      exact ⟨_, Or.inr ⟨rfl, hbody.2⟩, hsplit⟩
    · exact ⟨_, Or.inl rfl, hsplit⟩
  · rintro ⟨body, hbody, rfl⟩
    rw [List.intercalate_splitOn]
    rcases hbody with rfl | ⟨rfl, -⟩
    · exact Or.inr rfl
    · exact Or.inl rfl

end

/-- The grammar in terms of what stands between the slashes. -/
theorem isWritten_iff {text : List Char} {segments : List (List Char)} :
    IsWritten text segments ↔ ∃ body, HasBody text body ∧ body ≠ [] ∧
      body.splitOn '/' = segments ∧ segments.length ≤ 4 ∧
        ∀ segment ∈ segments, NamesLevel segment := by
  constructor
  · rintro ⟨hslashed, hne, hlength, hlevels⟩
    have hnumerals := fun segment hmem => (hlevels segment hmem).isNumeral
    obtain ⟨body, hbody, rfl⟩ := (isSlashed_iff hne hnumerals).mp hslashed
    exact ⟨body, hbody, (body_of_numerals hnumerals).1, rfl, hlength, hlevels⟩
  · rintro ⟨body, hbody, -, rfl, hlength, hlevels⟩
    have hne := List.splitOn_ne_nil '/' body
    have hnumerals := fun segment hmem => (hlevels segment hmem).isNumeral
    exact ⟨(isSlashed_iff hne hnumerals).mpr ⟨body, hbody, rfl⟩, hne, hlength, hlevels⟩

/-! ## Whole texts -/

theorem parse_of_hasBody_nil {text : List Char} (h : HasBody text []) :
    parse text = .error .empty := by
  rcases hasBody_nil_iff.mp h with rfl | rfl <;> rfl

/-- One to four levels make a path. -/
theorem exists_ofLevels? {levels : List UInt16} (hne : levels ≠ []) (hlength : levels.length ≤ 4) :
    ∃ path, ofLevels? levels = some path := by
  match levels with
  | [] => exact absurd rfl hne
  | [_] | [_, _] | [_, _, _] | [_, _, _, _] => exact ⟨_, rfl⟩
  | _ :: _ :: _ :: _ :: _ :: _ =>
      simp only [List.length_cons] at hlength
      omega

section

variable {text body : List Char}

theorem parse_of_levels (h : HasBody text body) (hne : body ≠ []) {levels : List UInt16}
    (hlevels : parseLevels 4 (body.splitOn '/') = .ok levels) :
    ∃ path, parse text = .ok path ∧ path.levels = levels := by
  obtain ⟨hroom, hall⟩ := parseLevels_eq_ok_iff.mp hlevels
  obtain ⟨path, hpath⟩ : ∃ path, ofLevels? levels = some path := by
    refine exists_ofLevels? ?_ (hall.length_eq ▸ hroom)
    rintro rfl
    exact List.splitOn_ne_nil '/' body (List.forall₂_nil_right_iff.mp hall)
  refine ⟨path, ?_, levels_of_ofLevels? hpath⟩
  obtain ⟨rooted, rfl, rfl⟩ := h.exists_rooted
  simp [parse, pieces_eq_splitOn, hne, hlevels, hpath]

theorem parse_of_fault (h : HasBody text body) (hne : body ≠ []) {fault : PathError}
    (hfault : parseLevels 4 (body.splitOn '/') = .error fault) : parse text = .error fault := by
  obtain ⟨rooted, rfl, rfl⟩ := h.exists_rooted
  simp [parse, pieces_eq_splitOn, hne, hfault]

/-- A path is read of a text when its levels are read between the slashes. -/
theorem parse_eq_ok_iff_of_hasBody (h : HasBody text body) (hne : body ≠ []) {path : Path} :
    parse text = .ok path ↔ parseLevels 4 (body.splitOn '/') = .ok path.levels := by
  constructor
  · intro hread
    cases hlevels : parseLevels 4 (body.splitOn '/') with
    | error fault => simp [parse_of_fault h hne hlevels] at hread
    | ok levels =>
        obtain ⟨found, hfound, rfl⟩ := parse_of_levels h hne hlevels
        rw [Except.ok.inj (hfound.symm.trans hread)]
  · intro hlevels
    obtain ⟨found, hfound, hsame⟩ := parse_of_levels h hne hlevels
    have hpath : some found = some path := by
      rw [← ofLevels?_levels found, hsame, ofLevels?_levels]
    rw [hfound, Option.some.inj hpath]

/-- A fault between the slashes is the fault of the text. -/
theorem parse_eq_error_iff_of_hasBody (h : HasBody text body) (hne : body ≠ [])
    {fault : PathError} :
    parse text = .error fault ↔ parseLevels 4 (body.splitOn '/') = .error fault := by
  constructor
  · intro hread
    cases hlevels : parseLevels 4 (body.splitOn '/') with
    | error found => rw [Except.error.inj ((parse_of_fault h hne hlevels).symm.trans hread)]
    | ok levels =>
        obtain ⟨found, hfound, -⟩ := parse_of_levels h hne hlevels
        simp [hfound] at hread
  · exact parse_of_fault h hne

/-- A text has no slash in front, or nothing behind it, or something. -/
theorem hasBody_cases (text : List Char) :
    (¬ ['/'] <+: text ∧ parse text = .error .missingLeadingSlash) ∨
      (HasBody text [] ∧ parse text = .error .empty) ∨
        ∃ body, HasBody text body ∧ body ≠ [] := by
  by_cases hslash : ['/'] <+: text
  · obtain ⟨body, hbody⟩ := exists_hasBody_iff.mpr hslash
    by_cases hne : body = []
    · subst hne
      exact Or.inr (Or.inl ⟨hbody, parse_of_hasBody_nil hbody⟩)
    · exact Or.inr (Or.inr ⟨body, hbody, hne⟩)
  · exact Or.inl ⟨hslash, parse_of_no_slash fun hhead => hslash (slash_isPrefix_iff.mpr hhead)⟩

/-- A path is read of exactly the texts that are written from its levels. -/
theorem parse_eq_ok_iff {path : Path} :
    parse text = .ok path ↔ ∃ segments, IsWritten text segments ∧
      List.Forall₂ IsLevel segments path.levels := by
  constructor
  · intro hread
    rcases hasBody_cases text with ⟨-, hfault⟩ | ⟨-, hfault⟩ | ⟨body, hbody, hne⟩
    · simp [hfault] at hread
    · simp [hfault] at hread
    · rw [parse_eq_ok_iff_of_hasBody hbody hne, parseLevels_eq_ok_iff] at hread
      obtain ⟨hroom, hall⟩ := hread
      have hlevels := (forall₂_isLevel_iff.mp hall).1
      exact ⟨_, isWritten_iff.mpr ⟨body, hbody, hne, rfl, hroom, hlevels⟩, hall⟩
  · rintro ⟨segments, hwritten, hall⟩
    obtain ⟨body, hbody, hne, rfl, hroom, -⟩ := isWritten_iff.mp hwritten
    rw [parse_eq_ok_iff_of_hasBody hbody hne, parseLevels_eq_ok_iff]
    exact ⟨hroom, hall⟩

/-- A text without a path has no slash in front, or nothing behind it, or a segment that is no
level, or too many of them. -/
theorem parse_eq_error_iff {fault : PathError} :
    parse text = .error fault ↔
      (¬ ['/'] <+: text ∧ fault = .missingLeadingSlash) ∨
      (HasBody text [] ∧ fault = .empty) ∨
      ∃ body, HasBody text body ∧ body ≠ [] ∧
        ((∃ segment, IsReached 4 (body.splitOn '/') segment ∧ SegmentFault segment fault) ∨
          IsOverfull 4 (body.splitOn '/') ∧ fault = .tooManyLevels) := by
  simp only [← parseLevels_eq_error_iff]
  constructor
  · intro hread
    rcases hasBody_cases text with ⟨hslash, hfault⟩ | ⟨hempty, hfault⟩ | ⟨body, hbody, hne⟩
    · exact Or.inl ⟨hslash, Except.error.inj (hread.symm.trans hfault)⟩
    · exact Or.inr (Or.inl ⟨hempty, Except.error.inj (hread.symm.trans hfault)⟩)
    · exact Or.inr (Or.inr ⟨body, hbody, hne, (parse_eq_error_iff_of_hasBody hbody hne).mp hread⟩)
  · rintro (⟨hslash, rfl⟩ | ⟨hempty, rfl⟩ | ⟨body, hbody, hne, hfault⟩)
    · exact parse_of_no_slash fun hhead => hslash (slash_isPrefix_iff.mpr hhead)
    · exact parse_of_hasBody_nil hempty
    · exact parse_of_fault hbody hne hfault

end

end Path

/-! ## What is made of a text -/

open DeviceConsole.Path in
/-- What is made of a text that may be a path. -/
structure ReadsPath (text : List Char) (answer : Except PathError Path) : Prop where
  /-- A path is read of exactly the texts that are written from numerals of levels, and then the
  levels are their numbers. -/
  ok_iff : ∀ path, answer = .ok path ↔ ∃ segments, IsWritten text segments ∧
    path.levels.map UInt16.toNat = segments.map Decimal.value
  missingLeadingSlash_iff : answer = .error .missingLeadingSlash ↔ ¬ ['/'] <+: text
  empty_iff : answer = .error .empty ↔ text = ['/'] ∨ text = ['/', '/']
  /-- A segment that is empty, or has something else than digits, is told when it is one of the
  first four and those in front of it are levels. -/
  invalidLevel_iff : ∀ segment, answer = .error (.invalidLevel segment) ↔
    ∃ body, HasBody text body ∧ body ≠ [] ∧ IsReached 4 (body.splitOn '/') segment.toList ∧
      (segment.toList = [] ∨ ∃ c ∈ segment.toList, ¬ c.isDigit)
  /-- So is a segment of digits whose number is too large, however many digits it has. -/
  outOfRange_iff : ∀ segment, answer = .error (.outOfRange segment) ↔
    ∃ body, HasBody text body ∧ body ≠ [] ∧ IsReached 4 (body.splitOn '/') segment.toList ∧
      ∃ n, IsNumeral segment.toList n ∧ 65535 ≤ n
  /-- Behind four levels anything more is too much, whatever it is. -/
  tooManyLevels_iff : answer = .error .tooManyLevels ↔
    ∃ body, HasBody text body ∧ body ≠ [] ∧ IsOverfull 4 (body.splitOn '/')

/-- A text is read by the grammar of paths, and its first fault is told. -/
theorem ofString_readsPath (text : String) : ReadsPath text.toList (Path.ofString text) := by
  unfold Path.ofString
  constructor
  · intro path
    rw [Path.parse_eq_ok_iff]
    refine exists_congr fun segments => and_congr_right fun hwritten => ?_
    rw [Path.forall₂_isLevel_iff]
    exact and_iff_right hwritten.levels
  · have hnone : ∀ segment, ¬ Path.SegmentFault segment .missingLeadingSlash := fun _ => nofun
    simp [Path.parse_eq_error_iff, hnone]
  · have hnone : ∀ segment, ¬ Path.SegmentFault segment .empty := fun _ => nofun
    simp [Path.parse_eq_error_iff, hnone, Path.hasBody_nil_iff]
  · intro segment
    simp [Path.parse_eq_error_iff, Path.segmentFault_invalidLevel_iff]
  · intro segment
    simp [Path.parse_eq_error_iff, Path.segmentFault_outOfRange_iff, Path.toNat_reserved]
  · have hnone : ∀ segment, ¬ Path.SegmentFault segment .tooManyLevels := fun _ => nofun
    simp [Path.parse_eq_error_iff, hnone]

/-- Zeros in front and one slash at the end make no difference, and of two faults the first one is
told. -/
example :
    Path.ofString "/3/007/" = .ok (.objectInstance 3 7) ∧
      Path.ofString "/3/70000/x" = .error (.outOfRange "70000") ∧
      Path.ofString "/1/2/3/4/x" = .error .tooManyLevels := by
  decide +kernel

end DeviceConsole
