import DeviceConsole.Command.Arguments
import DeviceConsole.Proofs.Line.Words
import Mathlib.Data.List.Basic
import Mathlib.Data.List.TakeWhile

/-!
# What a cursor takes off a line

A cursor that takes one word after the other comes to the end of its line, and what it has taken
are the runs of characters without blanks, each as long as it can be.  A cursor over arguments is
such a cursor: whether a take demands a word or merely asks for one, it gets the next word of the
line, and it fails when there is none.

Main results:

- Theorem {lit}`IsRun.at_next_or_behind`: a run of the line is the next word or a run of the rest.
- Theorem {lit}`Walk.mem_iff`: the words that are taken are the runs of the line.
- Theorem {lit}`Arguments.takeAll_eq`: takes of arguments get the words in their order.
- Theorem {lit}`line_isTakenApart`: how a line is taken apart, word by word and as arguments.
-/

namespace DeviceConsole

namespace Words

/-! ## Runs of a line and of its rest -/

theorem next?_eq_none_iff_blank {text : List Char} :
    next? text = none ↔ ∀ c ∈ text, isBlank c := by
  rw [next?_eq_none_iff, atEnd, List.isEmpty_iff, trimLeft, List.dropWhile_eq_nil_iff]

/-- The rest behind the next word is a shorter end of the line. -/
theorem rest_isSuffix {cursor word rest : List Char} (hnext : next? cursor = some (word, rest)) :
    rest <:+ cursor ∧ rest.length < cursor.length :=
  ⟨⟨_, (cursor_eq hnext).symm⟩, length_rest_lt hnext⟩

namespace IsRun

variable {line front run back word rest : List Char}

theorem not_isBlank (h : IsRun line front run back) {c : Char} (hmem : c ∈ run) : ¬ isBlank c := by
  simp [h.notBlank c hmem]

/-- A run is the next word, or it is a run of the rest. -/
theorem at_next_or_behind (h : IsRun line front run back) (hnext : next? line = some (word, rest)) :
    (run = word ∧ back = rest) ∨ ∃ between, IsRun rest between run back := by
  cases hfront : next? front with
  | none =>
      have hfirst : next? line = some (run, back) :=
        next?_eq_some_iff.mpr ⟨front, next?_eq_none_iff_blank.mp hfront, h⟩
      rw [hnext] at hfirst
      obtain ⟨rfl, rfl⟩ := Prod.mk.inj (Option.some.inj hfirst)
      exact Or.inl ⟨rfl, rfl⟩
  | some found =>
      -- The next word stands in front of the run, and a blank is between the two.
      obtain ⟨first, between⟩ := found
      obtain ⟨gap, hgap, hword⟩ := next?_eq_some_iff.mp hfront
      have hbetween : between ≠ [] := by
        rintro rfl
        have hne := hword.ne_nil
        have hlast : front.getLast? = some (first.getLast hne) := by
          rw [hword.line_eq, List.append_nil, List.getLast?_append_of_ne_nil _ hne,
            List.getLast?_eq_some_getLast hne]
        exact hword.not_isBlank (List.getLast_mem hne) (h.blank_front _ hlast)
      have hfirst : next? line = some (first, between ++ run ++ back) := by
        refine next?_eq_some_iff.mpr ⟨gap, hgap, ?_, hword.ne_nil, hword.notBlank,
          hword.blank_front, ?_⟩
        · rw [h.line_eq, hword.line_eq]
          simp only [List.append_assoc]
        · obtain ⟨c, more, rfl⟩ := List.exists_cons_of_ne_nil hbetween
          exact hword.blank_back
      rw [hnext] at hfirst
      obtain ⟨rfl, rfl⟩ := Prod.mk.inj (Option.some.inj hfirst)
      refine Or.inr ⟨between, rfl, h.ne_nil, h.notBlank, ?_, h.blank_back⟩
      have hlast := h.blank_front
      rwa [hword.line_eq, List.getLast?_append_of_ne_nil _ hbetween] at hlast

/-- A run of the rest is a run of the line, further back. -/
theorem of_rest (h : IsRun rest front run back) (hnext : next? line = some (word, rest)) :
    ∃ ahead, IsRun line ahead run back := by
  obtain ⟨gap, hgap, hword⟩ := next?_eq_some_iff.mp hnext
  have hfront : front ≠ [] := by
    rintro rfl
    obtain ⟨c, more, rfl⟩ := List.exists_cons_of_ne_nil h.ne_nil
    have hblank := hword.blank_back c (by rw [h.line_eq]; rfl)
    exact h.not_isBlank List.mem_cons_self hblank
  refine ⟨gap ++ word ++ front, ?_, h.ne_nil, h.notBlank, ?_, h.blank_back⟩
  · rw [hword.line_eq, h.line_eq]
    simp only [List.append_assoc]
  · rw [List.getLast?_append_of_ne_nil _ hfront]
    exact h.blank_front

end IsRun

/-! ## One word after the other -/

/-- A cursor takes words until there is none.  Each step is the word and the rest behind it. -/
inductive Walk : List Char → List (List Char × List Char) → Prop
  | atEnd {cursor : List Char} (hnone : next? cursor = none) : Walk cursor []
  | word {cursor word rest : List Char} {steps : List (List Char × List Char)}
      (hnext : next? cursor = some (word, rest)) (hrest : Walk rest steps) :
      Walk cursor ((word, rest) :: steps)

/-- Each rest is shorter than what it comes from, so a walk comes to its end. -/
theorem exists_walk (cursor : List Char) : ∃ steps, Walk cursor steps := by
  cases hnext : next? cursor with
  | none => exact ⟨[], .atEnd hnext⟩
  | some found =>
      obtain ⟨word, rest⟩ := found
      obtain ⟨steps, hsteps⟩ := exists_walk rest
      exact ⟨_, .word hnext hsteps⟩
termination_by cursor.length
decreasing_by exact length_rest_lt hnext

namespace Walk

variable {line : List Char} {steps : List (List Char × List Char)}

/-- A walk finds the words that cutting the line at its blanks finds. -/
theorem words_eq (h : Walk line steps) : steps.map Prod.fst = ofLine line := by
  induction h with
  | atEnd hnone => exact ((ofLine_eq_nil_iff _).mpr hnone).symm
  | word hnext _ ih => rw [List.map_cons, ih, ofLine_of_next? hnext]

/-- The words that are taken are the runs of the line. -/
theorem mem_iff (h : Walk line steps) {run back : List Char} :
    (run, back) ∈ steps ↔ ∃ front, IsRun line front run back := by
  induction h with
  | atEnd hnone =>
      simp only [List.not_mem_nil, false_iff]
      rintro ⟨front, hrun⟩
      obtain ⟨c, more, rfl⟩ := List.exists_cons_of_ne_nil hrun.ne_nil
      have hblank := next?_eq_none_iff_blank.mp hnone c (by rw [hrun.line_eq]; simp)
      exact hrun.not_isBlank List.mem_cons_self hblank
  | word hnext _ ih =>
      rw [List.mem_cons, ih, Prod.mk.injEq]
      constructor
      · rintro (⟨rfl, rfl⟩ | ⟨front, hrun⟩)
        · obtain ⟨gap, -, hrun⟩ := next?_eq_some_iff.mp hnext
          exact ⟨gap, hrun⟩
        · exact hrun.of_rest hnext
      · rintro ⟨front, hrun⟩
        exact hrun.at_next_or_behind hnext

/-- Every rest is an end of the line that is shorter than the line. -/
theorem rest_isSuffix_line (h : Walk line steps) :
    ∀ rest ∈ steps.map Prod.snd, rest <:+ line ∧ rest.length < line.length := by
  induction h with
  | atEnd => simp
  | @word cursor word rest steps hnext _ ih =>
      obtain ⟨hsuffix, hshorter⟩ := rest_isSuffix hnext
      rw [List.map_cons, List.forall_mem_cons]
      refine ⟨⟨hsuffix, hshorter⟩, fun later hlater => ?_⟩
      obtain ⟨hbehind, hless⟩ := ih later hlater
      exact ⟨hbehind.trans hsuffix, Nat.lt_trans hless hshorter⟩

/-- The rests come one behind the other. -/
theorem rests_pairwise (h : Walk line steps) :
    (line :: steps.map Prod.snd).Pairwise fun earlier later =>
      later <:+ earlier ∧ later.length < earlier.length := by
  induction h with
  | atEnd => exact List.pairwise_singleton _ _
  | word hnext hrest ih =>
      exact List.pairwise_cons.mpr ⟨(Walk.word hnext hrest).rest_isSuffix_line, ih⟩

end Walk

/-- How the words of a line are taken one after the other. -/
structure TakenApart (line : List Char) : Prop where
  /-- Taking words comes to an end. -/
  ends : ∃ steps, Walk line steps
  /-- What was taken are the words of the line in their order. -/
  words_eq : ∀ steps, Walk line steps → steps.map Prod.fst = ofLine line
  /-- They are exactly the runs without blanks that go on to neither side, each at its place. -/
  mem_iff : ∀ steps, Walk line steps → ∀ run back,
    (run, back) ∈ steps ↔ ∃ front, IsRun line front run back
  /-- Every rest is a shorter end of what was there before it, so no word is taken twice. -/
  rests : ∀ steps, Walk line steps → (line :: steps.map Prod.snd).Pairwise fun earlier later =>
    later <:+ earlier ∧ later.length < earlier.length
  /-- Where a word was taken the rest is empty or goes on with a blank. -/
  blank_behind : ∀ steps, Walk line steps → ∀ rest ∈ steps.map Prod.snd,
    rest = [] ∨ ∃ c more, rest = c :: more ∧ isBlank c

theorem takenApart (line : List Char) : TakenApart line := by
  constructor
  · exact exists_walk line
  · exact fun steps hwalk => hwalk.words_eq
  · exact fun steps hwalk run back => hwalk.mem_iff
  · exact fun steps hwalk => hwalk.rests_pairwise
  · intro steps hwalk rest hrest
    obtain ⟨⟨word, rest⟩, hmem, rfl⟩ := List.mem_map.mp hrest
    obtain ⟨front, hrun⟩ := hwalk.mem_iff.mp hmem
    cases rest with
    | nil => exact Or.inl rfl
    | cons c more => exact Or.inr ⟨c, more, rfl, hrun.blank_back c rfl⟩

end Words

/-! ## A cursor over arguments -/

/-- How an argument is taken. -/
inductive ArgumentTake where
  /-- It must be there. -/
  | required
  /-- It may be missing. -/
  | optional
deriving DecidableEq, Repr

namespace Arguments

/-- Takes an argument in one way or the other; there is none when the take fails. -/
def take (arguments : Arguments) : ArgumentTake → Option (List Char) × Arguments
  | .required => (arguments.required.1.toOption, arguments.required.2)
  | .optional => arguments.optional

/-- Takes one argument after the other.  The value is the words of the takes that succeed. -/
def takeAll (arguments : Arguments) : List ArgumentTake → List (List Char) × Arguments
  | [] => ([], arguments)
  | way :: ways =>
      let (word, rest) := arguments.take way
      let (words, last) := rest.takeAll ways
      (word.toList ++ words, last)

/-- Both ways of taking get the next word, or leave the cursor where it is. -/
theorem take_eq (arguments : Arguments) (way : ArgumentTake) :
    arguments.take way =
      match Words.next? arguments.rest with
      | none => (none, arguments)
      | some (word, rest) => (some word, ⟨rest⟩) := by
  cases way <;> cases hnext : Words.next? arguments.rest <;>
    simp [take, required, optional, hnext, Except.toOption]

/-- Takes of arguments get the words in their order, and leave those that they did not get. -/
theorem takeAll_eq (arguments : Arguments) (ways : List ArgumentTake) :
    (arguments.takeAll ways).1 = (Words.ofLine arguments.rest).take ways.length ∧
      Words.ofLine (arguments.takeAll ways).2.rest =
        (Words.ofLine arguments.rest).drop ways.length := by
  induction ways generalizing arguments with
  | nil => simp [takeAll]
  | cons way ways ih =>
      rw [takeAll, take_eq]
      cases hnext : Words.next? arguments.rest with
      | none =>
          have hnil := (Words.ofLine_eq_nil_iff _).mpr hnext
          obtain ⟨hwords, hrest⟩ := ih arguments
          simp [hwords, hrest, hnil]
      | some found =>
          obtain ⟨hwords, hrest⟩ := ih ⟨found.2⟩
          simp [hwords, hrest, Words.ofLine_of_next? hnext]

/-- Either way gets the first of the words that are left. -/
theorem take_fst (arguments : Arguments) (way : ArgumentTake) :
    (arguments.take way).1 = (Words.ofLine arguments.rest).head? := by
  rw [take_eq]
  cases hnext : Words.next? arguments.rest with
  | none => rw [(Words.ofLine_eq_nil_iff _).mpr hnext]; rfl
  | some found => rw [Words.ofLine_of_next? hnext]; rfl

/-- A take that fails leaves the cursor where it was. -/
theorem take_snd_of_none {arguments : Arguments} {way : ArgumentTake}
    (hnone : (arguments.take way).1 = none) : (arguments.take way).2 = arguments := by
  rw [take_eq] at hnone ⊢
  cases hnext : Words.next? arguments.rest with
  | none => rfl
  | some found =>
      rw [hnext] at hnone
      simp at hnone

theorem toOption_eq_none_iff {ε α : Type} {answer : Except ε α} :
    answer.toOption = none ↔ ∃ failure, answer = .error failure := by
  cases answer <;> simp [Except.toOption]

theorem toOption_eq_some_iff {ε α : Type} {answer : Except ε α} {value : α} :
    answer.toOption = some value ↔ answer = .ok value := by
  cases answer <;> simp [Except.toOption]

/-- How a cursor over a line stands after takes in some ways, when they took some words. -/
structure HasTaken (line : List Char) (ways : List ArgumentTake) (taken : List (List Char))
    (after : Arguments) : Prop where
  /-- The takes got the first words of the line, one for each take while there were any. -/
  taken_eq : taken = (Words.ofLine line).take ways.length
  /-- The arguments are complete exactly when all words were taken. -/
  finish_iff : after.finish = .ok () ↔ taken.length = (Words.ofLine line).length
  /-- A further take fails exactly then, in either way. -/
  required_fails_iff : (∃ failure, after.required.1 = .error failure) ↔
    taken.length = (Words.ofLine line).length
  optional_none_iff : after.optional.1 = none ↔ taken.length = (Words.ofLine line).length
  /-- Otherwise it gets the next word. -/
  required_iff : ∀ word, after.required.1 = .ok word ↔
    (Words.ofLine line)[taken.length]? = some word
  optional_eq : after.optional.1 = (Words.ofLine line)[taken.length]?
  /-- A take that fails leaves the cursor where it was. -/
  required_stays : (∃ failure, after.required.1 = .error failure) → after.required.2 = after
  optional_stays : after.optional.1 = none → after.optional.2 = after

theorem hasTaken (line : List Char) (ways : List ArgumentTake) :
    HasTaken line ways ((Arguments.mk line).takeAll ways).1
      ((Arguments.mk line).takeAll ways).2 := by
  obtain ⟨htaken, hrest⟩ := takeAll_eq ⟨line⟩ ways
  generalize (Arguments.mk line).takeAll ways = ran at htaken hrest
  obtain ⟨taken, after⟩ := ran
  dsimp only at htaken hrest ⊢
  -- A take that fails takes nothing, so the words taken count how far the cursor has come.
  have hlength : taken.length = min ways.length (Words.ofLine line).length := by
    rw [htaken, List.length_take]
  have hnext : ∀ way, (after.take way).1 = (Words.ofLine line)[taken.length]? := by
    intro way
    rw [take_fst, hrest, List.head?_drop, hlength]
    rcases Nat.le_total ways.length (Words.ofLine line).length with hle | hle
    · rw [Nat.min_eq_left hle]
    · rw [Nat.min_eq_right hle, List.getElem?_eq_none hle, List.getElem?_eq_none (Nat.le_refl _)]
  have hfails : ∀ way, (after.take way).1 = none ↔ taken.length = (Words.ofLine line).length := by
    intro way
    rw [hnext, List.getElem?_eq_none_iff]
    omega
  constructor
  · exact htaken
  · rw [finish_eq_ok_iff, ← Words.ofLine_eq_nil_iff, ← List.head?_eq_none_iff,
      ← take_fst after .optional, hfails]
  · rw [← toOption_eq_none_iff]
    exact hfails .required
  · exact hfails .optional
  · intro word
    rw [← toOption_eq_some_iff, ← hnext .required]
    rfl
  · exact hnext .optional
  · intro hfailed
    exact take_snd_of_none (show (after.take .required).1 = none from
      toOption_eq_none_iff.mpr hfailed)
  · exact fun hnone => take_snd_of_none (show (after.take .optional).1 = none from hnone)

end Arguments

/-! ## The words of a line -/

/-- A line is taken apart into its words, one by one as well as by any takes of arguments. -/
theorem line_isTakenApart (line : List Char) :
    Words.TakenApart line ∧
      (∀ cursor, (Arguments.mk cursor).finish = .ok () ↔ Words.next? cursor = none) ∧
      ∀ ways : List ArgumentTake, Arguments.HasTaken line ways
        ((Arguments.mk line).takeAll ways).1 ((Arguments.mk line).takeAll ways).2 :=
  ⟨Words.takenApart line, fun cursor => Arguments.finish_eq_ok_iff ⟨cursor⟩,
    Arguments.hasTaken line⟩

/-- A wide blank parts words as any other one does, and the third take finds no more of them. -/
example : (Arguments.mk " list\u3000all ".toList).takeAll [.required, .optional, .optional] =
    (["list".toList, "all".toList], ⟨[' ']⟩) := by
  decide +kernel

end DeviceConsole
