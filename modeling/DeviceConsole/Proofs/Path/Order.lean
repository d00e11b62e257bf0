import DeviceConsole.Proofs.Path.RoundTrip
import Mathlib.Data.List.Lex

/-!
# Paths in their order

Paths are compared level by level, and an absent level comes before every present one.  As no
level is present without those above it, that is the lexicographic order of the lists of levels:
a path comes before all paths below it, and what is between two paths below it is below it too.
A sorted list of paths therefore shows each subtree in one piece, with its root in front.

Main results:

- Theorem {lit}`order_eq_lt_iff`: the order of paths is the lexicographic order of their levels.
- Theorem {lit}`text_inj`: paths with the same text are the same.
- Theorem {lit}`isPrefix_of_between`: what is between two paths below a path is below it.
- Theorem {lit}`dropRepeats_eq_eraseDupsBy`: in a sorted list equal entries are neighbours.
- Theorem {lit}`ordersLevels`: how two paths compare, and what sorting makes of a list of them.
-/

namespace DeviceConsole

/-! ## Lists in order -/

section

variable {α : Type} {before : α → α → Prop} {property : α → Bool}

/-- Behind an entry with a property that holds in between, the others with it come first. -/
theorem filter_isPrefix_of_between
    (hbetween : ∀ a b c, before a b → before b c → property a → property c → property b)
    {first : α} {list : List α} (hlist : (first :: list).Pairwise before)
    (hfirst : property first) : list.filter property <+: list := by
  induction list with
  | nil => exact List.prefix_rfl
  | cons second list ih =>
      obtain ⟨hahead, hrest⟩ := List.pairwise_cons.mp hlist
      by_cases hsecond : property second
      · rw [List.filter_cons_of_pos hsecond, List.prefix_cons_inj]
        exact ih (hlist.sublist (List.sublist_cons_self second list |>.cons_cons first))
      · have hnone : (second :: list).filter property = [] := by
          rw [List.filter_eq_nil_iff]
          intro other hother hproperty
          rcases List.mem_cons.mp hother with rfl | hmem
          · exact hsecond hproperty
          · exact hsecond (hbetween first second other (hahead second List.mem_cons_self)
              ((List.pairwise_cons.mp hrest).1 other hmem) hfirst hproperty)
        rw [hnone]
        exact List.nil_prefix

/-- The entries of an ordered list with a property that holds in between stand in one piece. -/
theorem filter_isInfix_of_between
    (hbetween : ∀ a b c, before a b → before b c → property a → property c → property b)
    {list : List α} (hlist : list.Pairwise before) : list.filter property <:+: list := by
  induction list with
  | nil => exact List.infix_rfl
  | cons first list ih =>
      by_cases hfirst : property first
      · rw [List.filter_cons_of_pos hfirst]
        exact (List.prefix_cons_inj first |>.mpr
          (filter_isPrefix_of_between hbetween hlist hfirst)).isInfix
      · rw [List.filter_cons_of_neg hfirst]
        exact List.infix_cons (ih (List.pairwise_cons.mp hlist).2)

end

namespace Path

/-! ## Two paths -/

/-- Levels are compared one by one, and the first difference decides. -/
theorem compare_levels_eq_lt_iff (left right : List UInt16) :
    compare left right = .lt ↔ List.Lex (· < ·) left right := by
  rw [List.compare_eq_compareLex]
  induction left generalizing right with
  | nil => cases right <;> simp [List.compareLex_nil_nil, List.compareLex_nil_cons]
  | cons a left ih =>
      cases right with
      | nil => simp [List.compareLex_cons_nil]
      | cons b right =>
          rw [List.compareLex_cons_cons, Ordering.then_eq_lt, ih, List.cons_lex_cons_iff,
            Std.compare_eq_lt, Std.compare_eq_iff_eq]

/-- Comparing level by level, with absent levels first, compares the levels that are there. -/
theorem order_eq_compare (left right : Path) :
    order left right = compare left.levels right.levels := by
  rw [List.compare_eq_compareLex]
  -- A path has no level without those above it, so the first absent level ends its list.
  cases left <;> cases right <;>
    simp [order, levels, objectId, instanceId?, resourceId?, resourceInstanceId?, compareLevel,
      List.compareLex_nil_nil, List.compareLex_nil_cons, List.compareLex_cons_nil,
      List.compareLex_cons_cons]

/-- The order of paths is the lexicographic order of their levels. -/
theorem order_eq_lt_iff {left right : Path} :
    order left right = .lt ↔ List.Lex (· < ·) left.levels right.levels := by
  rw [order_eq_compare, compare_levels_eq_lt_iff]

theorem levels_inj {left right : Path} : left.levels = right.levels ↔ left = right := by
  constructor
  · intro hlevels
    have hpath := congrArg ofLevels? hlevels
    rwa [ofLevels?_levels, ofLevels?_levels, Option.some_inj] at hpath
  · rintro rfl
    rfl

theorem order_eq_eq_iff {left right : Path} : order left right = .eq ↔ left = right := by
  rw [order_eq_compare, Std.compare_eq_iff_eq, levels_inj]

theorem order_eq_gt_iff {left right : Path} :
    order left right = .gt ↔ order right left = .lt := by
  rw [order_eq_compare, order_eq_compare, Std.OrientedCmp.gt_iff_lt]

theorem order_trans {first second third : Path} (hfront : order first second = .lt)
    (hback : order second third = .lt) : order first third = .lt := by
  rw [order_eq_lt_iff] at hfront hback ⊢
  exact List.lex_trans (fun hxy hyz => UInt16.lt_trans hxy hyz) hfront hback

theorem order_irrefl (path : Path) : order path path ≠ .lt := by
  rw [order_eq_eq_iff.mpr rfl]
  decide

/-- Paths with the same text are the same, whatever their levels are. -/
theorem text_inj {left right : Path} : left.text = right.text ↔ left = right := by
  constructor
  · intro htext
    have hchars : left.chars = right.chars := String.ofList_injective htext
    have hsplit := congrArg (List.splitOn '/') hchars
    rw [chars_eq_flatMap, chars_eq_flatMap,
      splitOn_flatMap_slash (numerals_ne_nil left) isNumeral_of_mem_numerals,
      splitOn_flatMap_slash (numerals_ne_nil right) isNumeral_of_mem_numerals] at hsplit
    have hvalues := congrArg (List.map Decimal.value) (List.cons.inj hsplit).2
    rw [numerals, numerals, List.map_map, List.map_map] at hvalues
    have hinjective : Function.Injective
        (Decimal.value ∘ fun level : UInt16 => Decimal.digits level.toNat) := by
      intro level other hsame
      simp only [Function.comp_apply, value_digits] at hsame
      exact UInt16.toNat_inj.mp hsame
    exact levels_inj.mp (List.map_injective_iff.mpr hinjective hvalues)
  · rintro rfl
    rfl

/-! ## Subtrees -/

/-- Whether a path is another one or lies below it. -/
def isWithin (path top : Path) : Bool :=
  top.levels.isPrefixOf path.levels

theorem isWithin_iff {path top : Path} : path.isWithin top ↔ top.levels <+: path.levels :=
  List.isPrefixOf_iff_prefix

/-- A path comes before all other paths within it. -/
theorem order_of_isWithin {path top : Path} (hwithin : path.isWithin top) (hne : top ≠ path) :
    order top path = .lt := by
  obtain ⟨below, hbelow⟩ := isWithin_iff.mp hwithin
  have hdeeper : below ≠ [] := by
    rintro rfl
    exact hne (levels_inj.mp (by rw [← hbelow, List.append_nil]))
  obtain ⟨level, more, rfl⟩ := List.exists_cons_of_ne_nil hdeeper
  rw [order_eq_lt_iff, ← hbelow]
  simpa using List.Lex.append_left (· < ·) (List.Lex.nil (a := level) (l := more)) top.levels

/-- What is between two lists with the same front has that front too. -/
theorem isPrefix_of_between {top low middle high : List UInt16} (hlow : top <+: low)
    (hhigh : top <+: high) (hfront : List.Lex (· < ·) low middle)
    (hback : List.Lex (· < ·) middle high) : top <+: middle := by
  induction top generalizing low middle high with
  | nil => exact List.nil_prefix
  | cons level top ih =>
      obtain ⟨low, rfl, hlow'⟩ := List.cons_prefix_iff.mp hlow
      obtain ⟨high, rfl, hhigh'⟩ := List.cons_prefix_iff.mp hhigh
      cases middle with
      | nil => nomatch hfront
      | cons other middle =>
          rw [List.cons_lex_cons_iff] at hfront hback
          rcases hfront with habove | ⟨rfl, hfront⟩
          · rcases hback with hbelow | ⟨rfl, -⟩
            · exact absurd (UInt16.lt_trans habove hbelow) (UInt16.lt_irrefl level)
            · exact absurd habove (UInt16.lt_irrefl _)
          · rcases hback with hbelow | ⟨-, hback⟩
            · exact absurd hbelow (UInt16.lt_irrefl level)
            · exact List.prefix_cons_inj level |>.mpr (ih hlow' hhigh' hfront hback)

/-! ## Sorted lists -/

theorem le_iff {left right : Path} : le left right ↔ order right left ≠ .lt := by
  rw [le, bne_iff_ne, ne_eq, order_eq_gt_iff]

theorem order_of_le_of_ne {left right : Path} (hle : le left right) (hne : left ≠ right) :
    order left right = .lt := by
  cases hcase : order left right with
  | lt => rfl
  | eq => exact absurd (order_eq_eq_iff.mp hcase) hne
  | gt => exact absurd (order_eq_gt_iff.mp hcase) (le_iff.mp hle)

theorem le_trans (first second third : Path) (hfront : le first second)
    (hback : le second third) : le first third := by
  by_cases hsame : first = second
  · exact hsame ▸ hback
  · rw [le_iff]
    intro hlate
    exact le_iff.mp hback (order_trans hlate (order_of_le_of_ne hfront hsame))

theorem le_total (left right : Path) : (le left right || le right left) = true := by
  rw [Bool.or_eq_true, le_iff, le_iff, ← not_and_or]
  rintro ⟨hright, hleft⟩
  exact order_irrefl _ (order_trans hright hleft)

/-- The paths of a list, repeats and all, in ascending order. -/
theorem pairwise_sorted (paths : List Path) : (paths.mergeSort le).Pairwise (le · ·) :=
  List.pairwise_mergeSort le_trans le_total paths

theorem mem_dropRepeats {path : Path} {list : List Path} :
    path ∈ dropRepeats list ↔ path ∈ list := by
  fun_induction dropRepeats list with
  | case1 first rest ih => simp [ih]
  | case2 first second rest hne ih => rw [List.mem_cons, ih, ← List.mem_cons]
  | case3 => rfl

/-- In a sorted list a path that differs from the next one comes before all others. -/
theorem order_of_mem_tail {first second path : Path} {rest : List Path}
    (hlist : (first :: second :: rest).Pairwise (le · ·)) (hne : first ≠ second)
    (hmem : path ∈ second :: rest) : order first path = .lt := by
  obtain ⟨hfirst, hrest⟩ := List.pairwise_cons.mp hlist
  have hstep : order first second = .lt :=
    order_of_le_of_ne (hfirst second List.mem_cons_self) hne
  rcases List.mem_cons.mp hmem with rfl | hmem
  · exact hstep
  · by_cases hsame : second = path
    · exact hsame ▸ hstep
    · exact order_trans hstep (order_of_le_of_ne ((List.pairwise_cons.mp hrest).1 path hmem) hsame)

/-- Without its repeats a sorted list ascends strictly. -/
theorem pairwise_dropRepeats {list : List Path} (hlist : list.Pairwise (le · ·)) :
    (dropRepeats list).Pairwise (order · · = .lt) := by
  fun_induction dropRepeats list with
  | case1 first rest ih => exact ih (List.pairwise_cons.mp hlist).2
  | case2 first second rest hne ih =>
      refine List.pairwise_cons.mpr ⟨fun path hmem => ?_, ih (List.pairwise_cons.mp hlist).2⟩
      exact order_of_mem_tail hlist hne (mem_dropRepeats.mp hmem)
  | case3 short hshort =>
      cases short with
      | nil => exact List.Pairwise.nil
      | cons first rest =>
          cases rest with
          | nil => exact List.pairwise_singleton _ first
          | cons second rest => exact absurd rfl (hshort first second rest)

/-- In a sorted list an entry is removed exactly when its text stands somewhere in front of it. -/
theorem dropRepeats_eq_eraseDupsBy {list : List Path} (hlist : list.Pairwise (le · ·)) :
    dropRepeats list = list.eraseDupsBy fun path earlier => path.text == earlier.text := by
  fun_induction dropRepeats list with
  | case1 first rest ih =>
      rw [ih (List.pairwise_cons.mp hlist).2, List.eraseDupsBy_cons, List.eraseDupsBy_cons,
        List.filter_cons_of_neg (by simp)]
  | case2 first second rest hne ih =>
      have hnew : ∀ path ∈ second :: rest, decide ((path.text == first.text) = false) = true := by
        intro path hmem
        have hlater := order_of_mem_tail hlist hne hmem
        rw [decide_eq_true_eq, beq_eq_false_iff_ne, ne_eq, text_inj]
        rintro rfl
        exact order_irrefl path hlater
      rw [ih (List.pairwise_cons.mp hlist).2, List.eraseDupsBy_cons (a := first),
        List.filter_eq_self.mpr hnew]
  | case3 short hshort =>
      cases short with
      | nil => rfl
      | cons first rest =>
          cases rest with
          | nil => rw [List.eraseDupsBy_cons, List.filter_nil, List.eraseDupsBy_nil]
          | cons second rest => exact absurd rfl (hshort first second rest)

end Path

/-! ## The order of paths -/

/-- How two paths compare. -/
structure Path.ComparesLevels (left right : Path) : Prop where
  /-- One comes before the other as its levels do, compared as lists of numbers. -/
  lt_iff : order left right = .lt ↔ List.Lex (· < ·) left.levels right.levels
  eq_iff : order left right = .eq ↔ left.levels = right.levels
  gt_iff : order left right = .gt ↔ List.Lex (· < ·) right.levels left.levels
  /-- A path comes before each of its extensions. -/
  before_extension : left.levels <+: right.levels → left.levels ≠ right.levels →
    order left right = .lt
  /-- The levels determine a path, and so does its text. -/
  eq_iff_levels : left = right ↔ left.levels = right.levels
  eq_iff_text : left = right ↔ left.text = right.text

/-- What is left of a list of paths that is sorted and whose repeats are dropped. -/
structure Path.SortsLevels (paths : List Path) : Prop where
  /-- The same paths are left, in strictly ascending order. -/
  mem_iff : ∀ path, path ∈ sortDistinct paths ↔ path ∈ paths
  ascending : (sortDistinct paths).Pairwise (order · · = .lt)
  /-- What was dropped are the entries of the sorted list with a text that stands in front of
  them. -/
  drops : sortDistinct paths =
    (paths.mergeSort le).eraseDupsBy fun path earlier => path.text == earlier.text
  /-- Every path stands in front of all paths strictly below it. -/
  root_first : ∀ i j (hi : i < (sortDistinct paths).length) (hj : j < (sortDistinct paths).length),
    (sortDistinct paths)[i].levels <+: (sortDistinct paths)[j].levels →
      (sortDistinct paths)[i].levels ≠ (sortDistinct paths)[j].levels → i < j
  /-- The paths at and below any path stand in one piece. -/
  in_one_piece : ∀ top : Path,
    (sortDistinct paths).filter (·.isWithin top) <:+: sortDistinct paths

/-- Paths are ordered and told apart by their levels, and sorting them keeps subtrees together. -/
theorem Path.ordersLevels (left right : Path) (paths : List Path) :
    ComparesLevels left right ∧ SortsLevels paths := by
  have hsorted := pairwise_sorted paths
  have hascending : (sortDistinct paths).Pairwise (order · · = .lt) := pairwise_dropRepeats hsorted
  have hextension : ∀ {top path : Path}, top.levels <+: path.levels →
      top.levels ≠ path.levels → order top path = .lt := by
    intro top path hprefix hne
    exact order_of_isWithin (isWithin_iff.mpr hprefix) fun hsame => hne (levels_inj.mpr hsame)
  constructor
  · constructor
    · exact order_eq_lt_iff
    · rw [order_eq_eq_iff, levels_inj]
    · rw [order_eq_gt_iff, order_eq_lt_iff]
    · exact hextension
    · exact levels_inj.symm
    · exact text_inj.symm
  · constructor
    · intro path
      rw [sortDistinct, mem_dropRepeats, List.mem_mergeSort]
    · exact hascending
    · exact dropRepeats_eq_eraseDupsBy hsorted
    · intro i j hi hj hprefix hne
      have hbefore := hextension hprefix hne
      rcases Nat.lt_trichotomy i j with hlt | rfl | hgt
      · exact hlt
      · exact absurd rfl hne
      · have hafter := List.pairwise_iff_getElem.mp hascending j i hj hi hgt
        exact absurd (order_trans hbefore hafter) (order_irrefl _)
    · intro top
      refine filter_isInfix_of_between ?_ hascending
      intro low middle high hfront hback hlow hhigh
      rw [isWithin_iff] at hlow hhigh ⊢
      exact isPrefix_of_between hlow hhigh (order_eq_lt_iff.mp hfront) (order_eq_lt_iff.mp hback)

/-- The subtree of an object stands together, with the object in front of its instances. -/
example : Path.sortDistinct [.object 4, .objectInstance 3 1, .resource 3 0 65535, .object 3,
      .objectInstance 3 1] =
    [.object 3, .resource 3 0 65535, .objectInstance 3 1, .object 4] := by
  cbv

end DeviceConsole
