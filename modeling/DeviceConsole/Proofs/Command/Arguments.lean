import DeviceConsole.Command.Arguments
import DeviceConsole.Proofs.Line.Words
import DeviceConsole.Proofs.Text.Numerals

/-!
# What the readers of arguments take

A reader walks over a text, but what it takes depends only on the words of the text.  This
module says of each reader which words it takes off the front and which value it has of
them, so that a reader of several arguments takes what its parts take in a row.

Main results:

- Theorem {lit}`Takes.bind`: a reader and the reader after it take what the two take in a row.
- Theorem {lit}`Takes.onTarget`: a device, a path and what follows them.
- Theorem {lit}`Takes.read_iff`: what a reader makes of a text, by the words of the text.
-/

namespace DeviceConsole

/-! ## Words that stand for values -/

/-- A word stands for a path that an operation accepts. -/
structure IsTarget (operation : Operation) (word : List Char) (path : Path) : Prop where
  parse_eq : Path.parse word = .ok path
  accepts : operation.accepts path

/-- A word stands for a finite number. -/
structure IsThreshold (word : List Char) (number : Binary64) : Prop where
  nearest : (Binary64.decimal? word).map Binary64.ofDecimal = some number
  finite : number.isFinite

theorem below?_eq_some_iff {limit n : Nat} {word : List Char} :
    Decimal.below? limit word = some n ↔ IsNumeral word n ∧ n < limit := by
  rw [Decimal.below?, Option.filter_eq_some_iff, natural?_eq_some_iff_isNumeral,
    decide_eq_true_iff]

theorem finite?_eq_some_iff {word : List Char} {number : Binary64} :
    Binary64.finite? word = some number ↔ IsThreshold word number := by
  rw [Binary64.finite?, Option.filter_eq_some_iff]
  exact ⟨fun ⟨hnearest, hfinite⟩ => ⟨hnearest, hfinite⟩, fun h => ⟨h.nearest, h.finite⟩⟩

/-! ## What a reader takes -/

/-- A reader takes words off the front and has a value of them exactly as a form says, which
relates the words that are there, the value and the words that are left. -/
structure Takes {α : Type} (reader : ArgumentReader α)
    (form : List (List Char) → α → List (List Char) → Prop) : Prop where
  sound : ∀ {text rest : List Char} {value : α}, reader.run ⟨text⟩ = (.ok value, ⟨rest⟩) →
    form (Words.ofLine text) value (Words.ofLine rest)
  complete : ∀ {text : List Char} {value : α} {left : List (List Char)},
    form (Words.ofLine text) value left →
      ∃ rest, reader.run ⟨text⟩ = (.ok value, ⟨rest⟩) ∧ Words.ofLine rest = left

namespace ArgumentReader

variable {α β : Type}

/-- A reader and the one after it: the first failure ends the reading. -/
theorem run_bind (first : ArgumentReader α) (next : α → ArgumentReader β)
    (arguments : Arguments) :
    (first >>= next).run arguments =
      match first.run arguments with
      | (.ok value, rest) => (next value).run rest
      | (.error failure, rest) => (.error failure, rest) := by
  change (ExceptT.bindCont next (first.run arguments).1) (first.run arguments).2 = _
  rcases first.run arguments with ⟨answer, rest⟩
  cases answer with
  | ok value => rfl
  | error failure => rfl

end ArgumentReader

namespace Takes

variable {α β : Type}

theorem pure (value : α) :
    Takes (pure value) fun words result left => result = value ∧ left = words where
  sound := by
    rintro text rest result hrun
    obtain ⟨hvalue, hrest⟩ := Prod.mk.inj hrun
    exact ⟨(Except.ok.inj hvalue).symm, by rw [Arguments.mk.inj hrest]⟩
  complete := by
    rintro text result left ⟨rfl, rfl⟩
    exact ⟨text, rfl, rfl⟩

/-- A form may be said in other words. -/
theorem congr {reader : ArgumentReader α}
    {form other : List (List Char) → α → List (List Char) → Prop}
    (h : Takes reader form) (hother : ∀ words value left, form words value left ↔
      other words value left) : Takes reader other where
  sound hrun := (hother _ _ _).mp (h.sound hrun)
  complete hform := h.complete ((hother _ _ _).mpr hform)

/-- A reader and the reader after it take what the two take in a row. -/
theorem bind {first : ArgumentReader α} {next : α → ArgumentReader β}
    {front : List (List Char) → α → List (List Char) → Prop}
    {back : α → List (List Char) → β → List (List Char) → Prop} (hfirst : Takes first front)
    (hnext : ∀ value, Takes (next value) (back value)) :
    Takes (first >>= next) fun words result left =>
      ∃ value between, front words value between ∧ back value between result left where
  sound := by
    intro text rest result hrun
    rw [ArgumentReader.run_bind] at hrun
    rcases hmiddle : first.run ⟨text⟩ with ⟨answer, middle⟩
    rw [hmiddle] at hrun
    cases answer with
    | ok value => exact ⟨value, _, hfirst.sound hmiddle, (hnext value).sound hrun⟩
    | error failure => exact nomatch (Prod.mk.inj hrun).1
  complete := by
    rintro text result left ⟨value, between, hfront, hback⟩
    obtain ⟨middle, hmiddle, rfl⟩ := hfirst.complete hfront
    obtain ⟨rest, hrest, rfl⟩ := (hnext value).complete hback
    refine ⟨rest, ?_, rfl⟩
    rw [ArgumentReader.run_bind, hmiddle]
    exact hrest

theorem fail (failure : CommandFailure) :
    Takes (throw failure : ArgumentReader α) fun _ _ _ => False where
  sound := by
    intro text rest value hrun
    exact nomatch (Prod.mk.inj hrun).1
  complete := by
    rintro text value left ⟨⟩

theorem valueOf (value : Option α) :
    Takes (ArgumentReader.valueOf value) fun words result left =>
      value = some result ∧ left = words := by
  cases value with
  | none => simpa [ArgumentReader.valueOf] using @fail α .badSyntax
  | some value => simpa [ArgumentReader.valueOf, eq_comm] using pure value

/-! ### Single words -/

theorem optional :
    Takes ArgumentReader.optional fun words word left =>
      words = word.toList ++ left ∧ (word = none → left = []) where
  sound := by
    intro text rest word hrun
    change (Except.ok (Arguments.optional ⟨text⟩).1, (Arguments.optional ⟨text⟩).2) = _ at hrun
    unfold Arguments.optional at hrun
    cases hnext : Words.next? text with
    | none =>
        simp only [hnext, Prod.mk.injEq, Except.ok.injEq, Arguments.mk.injEq] at hrun
        obtain ⟨rfl, rfl⟩ := hrun
        simp [(Words.ofLine_eq_nil_iff text).mpr hnext]
    | some found =>
        simp only [hnext, Prod.mk.injEq, Except.ok.injEq, Arguments.mk.injEq] at hrun
        obtain ⟨rfl, rfl⟩ := hrun
        simp [Words.ofLine_of_next? hnext]
  complete := by
    rintro text word left ⟨hwords, hnone⟩
    change ∃ rest, (Except.ok (Arguments.optional ⟨text⟩).1, (Arguments.optional ⟨text⟩).2) = _ ∧ _
    unfold Arguments.optional
    cases word with
    | none =>
        obtain rfl := hnone rfl
        have hnext := (Words.ofLine_eq_nil_iff text).mp hwords
        exact ⟨text, by simp [hnext], hwords⟩
    | some word =>
        obtain ⟨rest, hnext, hrest⟩ := Words.next?_of_ofLine hwords
        exact ⟨rest, by simp [hnext], hrest⟩

theorem required :
    Takes ArgumentReader.required fun words word left => words = word :: left where
  sound := by
    intro text rest word hrun
    change Arguments.required ⟨text⟩ = _ at hrun
    unfold Arguments.required Arguments.optional at hrun
    cases hnext : Words.next? text with
    | none => simp [hnext] at hrun
    | some found =>
        simp only [hnext, Prod.mk.injEq, Except.ok.injEq, Arguments.mk.injEq] at hrun
        obtain ⟨rfl, rfl⟩ := hrun
        exact Words.ofLine_of_next? hnext
  complete := by
    intro text word left hwords
    obtain ⟨rest, hnext, hrest⟩ := Words.next?_of_ofLine hwords
    refine ⟨rest, ?_, hrest⟩
    change Arguments.required ⟨text⟩ = _
    simp [Arguments.required, Arguments.optional, hnext]

theorem finish :
    Takes ArgumentReader.finish fun words _ left => words = [] ∧ left = [] where
  sound := by
    intro text rest word hrun
    obtain ⟨hfinish, hrest⟩ := Prod.mk.inj
      (show (Arguments.finish ⟨text⟩, Arguments.mk text) = _ from hrun)
    obtain rfl := Arguments.mk.inj hrest
    have hnext := (Arguments.finish_eq_ok_iff _).mp hfinish
    exact ⟨(Words.ofLine_eq_nil_iff text).mpr hnext, (Words.ofLine_eq_nil_iff text).mpr hnext⟩
  complete := by
    rintro text word left ⟨hwords, rfl⟩
    have hnext := (Words.ofLine_eq_nil_iff text).mp hwords
    have hfinish := (Arguments.finish_eq_ok_iff ⟨text⟩).mpr hnext
    exact ⟨text, congrArg (·, Arguments.mk text) hfinish, hwords⟩

/-! ### Typed words -/

/-- A word that must be there and have a value. -/
theorem requiredValue {read : List Char → Option α} {isValue : List Char → α → Prop}
    (hread : ∀ word value, read word = some value ↔ isValue word value) :
    Takes (ArgumentReader.required >>= fun word => ArgumentReader.valueOf (read word))
      fun words value left => ∃ word, words = word :: left ∧ isValue word value := by
  refine (bind required fun word => valueOf (read word)).congr fun words value left => ?_
  constructor
  · rintro ⟨word, between, hwords, hvalue, rfl⟩
    exact ⟨word, hwords, (hread word value).mp hvalue⟩
  · rintro ⟨word, hwords, hvalue⟩
    exact ⟨word, left, hwords, (hread word value).mpr hvalue, rfl⟩

/-- A numeral that is taken as a value of a type that holds the numbers below a limit. -/
theorem numeral {limit : Nat} {ofNat : Nat → α} {toNat : α → Nat}
    (hlimit : ∀ value, toNat value < limit) (hofNat : ∀ value, ofNat (toNat value) = value)
    (htoNat : ∀ n, n < limit → toNat (ofNat n) = n) :
    Takes (do
        let word ← ArgumentReader.required
        let n ← ArgumentReader.valueOf (Decimal.below? limit word)
        return ofNat n)
      fun words value left => ∃ word, words = word :: left ∧ IsNumeral word (toNat value) := by
  have hboth := bind (@requiredValue Nat (Decimal.below? limit) _ fun _ _ => below?_eq_some_iff)
    fun n => pure (ofNat n)
  rw [bind_assoc] at hboth
  refine hboth.congr fun words value left => ?_
  constructor
  · rintro ⟨n, between, ⟨word, rfl, hnumeral, hlt⟩, rfl, rfl⟩
    refine ⟨word, rfl, ?_⟩
    rwa [htoNat n hlt]
  · rintro ⟨word, rfl, hnumeral⟩
    exact ⟨toNat value, left, ⟨word, rfl, hnumeral, hlimit value⟩, (hofNat value).symm, rfl⟩

theorem device :
    Takes ArgumentReader.device fun words device left =>
      ∃ word, words = word :: left ∧ IsNumeral word device.toNat :=
  numeral UInt16.toNat_lt (fun _ => UInt16.ofNat_toNat) fun _ => UInt16.toNat_ofNat_of_lt'

theorem period :
    Takes ArgumentReader.period fun words period left =>
      ∃ word, words = word :: left ∧ IsNumeral word period.toNat :=
  numeral UInt32.toNat_lt (fun _ => UInt32.ofNat_toNat) fun _ => UInt32.toNat_ofNat_of_lt'

theorem threshold :
    Takes ArgumentReader.threshold fun words number left =>
      ∃ word, words = word :: left ∧ IsThreshold word number :=
  requiredValue fun _ _ => finite?_eq_some_iff

theorem path (operation : Operation) :
    Takes (ArgumentReader.path operation) fun words path left =>
      ∃ word, words = word :: left ∧ IsTarget operation word path := by
  have hparse : ∀ word path,
      (Path.parse word).toOption = some path ↔ Path.parse word = .ok path := by
    intro word path
    cases Path.parse word <;> simp [Except.toOption]
  have hcheck : ∀ path, Takes
      (if operation.accepts path then Pure.pure path else throw .badSyntax : ArgumentReader Path)
      fun words result left => operation.accepts path ∧ result = path ∧ left = words := by
    intro path
    split
    · rename_i haccepts
      simpa [haccepts] using pure path
    · rename_i haccepts
      simpa [haccepts] using @fail Path .badSyntax
  have hboth := bind (requiredValue hparse) hcheck
  rw [bind_assoc] at hboth
  refine hboth.congr fun words path left => ?_
  constructor
  · rintro ⟨found, between, ⟨word, rfl, hfound⟩, haccepts, rfl, rfl⟩
    exact ⟨word, rfl, hfound, haccepts⟩
  · rintro ⟨word, rfl, htarget⟩
    exact ⟨path, left, ⟨word, rfl, htarget.parse_eq⟩, htarget.accepts, rfl, rfl⟩

/-! ### Argument forms -/

/-- The reading is over when no word is left. -/
theorem done (value : α) :
    Takes (do
        ArgumentReader.finish
        return value)
      fun words result left => words = [] ∧ result = value ∧ left = [] := by
  refine (bind finish fun _ => pure value).congr fun words result left => ?_
  constructor
  · rintro ⟨-, between, ⟨rfl, rfl⟩, rfl, rfl⟩
    exact ⟨rfl, rfl, rfl⟩
  · rintro ⟨rfl, rfl, rfl⟩
    exact ⟨(), [], ⟨rfl, rfl⟩, rfl, rfl⟩

/-- One more word, and then the reading is over. -/
theorem lastWord (result : List Char → α) :
    Takes (do
        let text ← ArgumentReader.required
        ArgumentReader.finish
        return result text)
      fun words value left => ∃ text, words = [text] ∧ value = result text ∧ left = [] := by
  refine (bind required fun text => done (result text)).congr fun words value left => ?_
  constructor
  · rintro ⟨text, between, rfl, rfl, rfl, rfl⟩
    exact ⟨text, rfl, rfl, rfl⟩
  · rintro ⟨text, rfl, rfl, rfl⟩
    exact ⟨text, [], rfl, rfl, rfl, rfl⟩

/-- Perhaps one more word, and then the reading is over. -/
theorem lastOptional (result : Option (List Char) → α) :
    Takes (do
        let word ← ArgumentReader.optional
        ArgumentReader.finish
        return result word)
      fun words value left => ∃ word : Option (List Char),
        words = word.toList ∧ value = result word ∧ left = [] := by
  refine (bind optional fun word => done (result word)).congr fun words value left => ?_
  constructor
  · rintro ⟨word, between, ⟨rfl, -⟩, rfl, rfl, rfl⟩
    exact ⟨word, List.append_nil _, rfl, rfl⟩
  · rintro ⟨word, rfl, rfl, rfl⟩
    exact ⟨word, [], ⟨(List.append_nil _).symm, fun _ => rfl⟩, rfl, rfl, rfl⟩

/-- A device, a path that suits the operation, and what follows them. -/
theorem onTarget {operation : Operation} {next : DeviceId → Path → ArgumentReader α}
    {form : DeviceId → Path → List (List Char) → α → List (List Char) → Prop}
    (hnext : ∀ device path, Takes (next device path) (form device path)) :
    Takes (do
        let device ← ArgumentReader.device
        let path ← ArgumentReader.path operation
        next device path)
      fun words value left => ∃ first second rest device path, words = first :: second :: rest ∧
        IsNumeral first device.toNat ∧ IsTarget operation second path ∧
        form device path rest value left := by
  refine (bind device fun device => bind (path operation) fun path =>
    hnext device path).congr fun words value left => ?_
  constructor
  · rintro ⟨device, -, ⟨first, rfl, hdevice⟩, path, rest, ⟨second, rfl, hpath⟩, hform⟩
    exact ⟨first, second, rest, device, path, rfl, hdevice, hpath, hform⟩
  · rintro ⟨first, second, rest, device, path, rfl, hdevice, hpath, hform⟩
    exact ⟨device, _, ⟨first, rfl, hdevice⟩, path, rest, ⟨second, rfl, hpath⟩, hform⟩

/-- Two periods. -/
theorem periods (result : UInt32 → UInt32 → α) :
    Takes (do
        let min ← ArgumentReader.period
        let max ← ArgumentReader.period
        ArgumentReader.finish
        return result min max)
      fun words value left => ∃ least most min max, words = [least, most] ∧
        IsNumeral least min.toNat ∧ IsNumeral most max.toNat ∧ value = result min max ∧
        left = [] := by
  refine (bind period fun min => bind period fun max =>
    done (result min max)).congr fun words value left => ?_
  constructor
  · rintro ⟨min, -, ⟨least, rfl, hmin⟩, max, -, ⟨most, rfl, hmax⟩, rfl, rfl, rfl⟩
    exact ⟨least, most, min, max, rfl, hmin, hmax, rfl, rfl⟩
  · rintro ⟨least, most, min, max, rfl, hmin, hmax, rfl, rfl⟩
    exact ⟨min, _, ⟨least, rfl, hmin⟩, max, _, ⟨most, rfl, hmax⟩, rfl, rfl, rfl⟩

/-- Two thresholds and perhaps a step. -/
theorem thresholds (result : Binary64 → Binary64 → Option Binary64 → α) :
    Takes (do
        let lessThan ← ArgumentReader.threshold
        let greaterThan ← ArgumentReader.threshold
        let step ← match ← ArgumentReader.optional with
          | none => Pure.pure none
          | some word => some <$> ArgumentReader.valueOf (Binary64.finite? word)
        ArgumentReader.finish
        return result lessThan greaterThan step)
      fun words value left => ∃ less greater last lessThan greaterThan step,
        words = less :: greater :: last.toList ∧ IsThreshold less lessThan ∧
        IsThreshold greater greaterThan ∧ Option.Rel IsThreshold last step ∧
        value = result lessThan greaterThan step ∧ left = [] := by
  have hlast : ∀ lessThan greaterThan (last : Option (List Char)), Takes
      (match last with
        | none => do
            let step ← Pure.pure none
            ArgumentReader.finish
            Pure.pure (result lessThan greaterThan step)
        | some word => do
            let step ← some <$> ArgumentReader.valueOf (Binary64.finite? word)
            ArgumentReader.finish
            Pure.pure (result lessThan greaterThan step))
      fun words value left => ∃ step, Option.Rel IsThreshold last step ∧
        words = [] ∧ value = result lessThan greaterThan step ∧ left = [] := by
    intro lessThan greaterThan last
    cases last with
    | none =>
        refine (done (result lessThan greaterThan none)).congr fun words value left => ?_
        constructor
        · rintro ⟨rfl, rfl, rfl⟩
          exact ⟨none, Option.Rel.none, rfl, rfl, rfl⟩
        · rintro ⟨step, ⟨⟩, rfl, rfl, rfl⟩
          exact ⟨rfl, rfl, rfl⟩
    | some word =>
        simp only [map_eq_pure_bind, bind_assoc, pure_bind]
        refine (bind (valueOf (Binary64.finite? word)) fun step =>
          done (result lessThan greaterThan (some step))).congr fun words value left => ?_
        constructor
        · rintro ⟨step, -, ⟨hfinite, rfl⟩, rfl, rfl, rfl⟩
          exact ⟨some step, Option.Rel.some (finite?_eq_some_iff.mp hfinite), rfl, rfl, rfl⟩
        · rintro ⟨step, hstep, rfl, rfl, rfl⟩
          cases hstep with
          | some hfinite =>
              exact ⟨_, [], ⟨finite?_eq_some_iff.mpr hfinite, rfl⟩, rfl, rfl, rfl⟩
  refine (bind threshold fun lessThan => bind threshold fun greaterThan =>
    bind optional fun last => hlast lessThan greaterThan last).congr fun words value left => ?_
  constructor
  · rintro ⟨lessThan, -, ⟨less, rfl, hless⟩, greaterThan, -, ⟨greater, rfl, hgreater⟩,
      last, -, ⟨rfl, -⟩, step, hstep, rfl, rfl, rfl⟩
    exact ⟨less, greater, last, lessThan, greaterThan, step, by simp, hless, hgreater, hstep,
      rfl, rfl⟩
  · rintro ⟨less, greater, last, lessThan, greaterThan, step, rfl, hless, hgreater, hstep,
      rfl, rfl⟩
    exact ⟨lessThan, _, ⟨less, rfl, hless⟩, greaterThan, _, ⟨greater, rfl, hgreater⟩,
      last, [], ⟨(List.append_nil _).symm, fun _ => rfl⟩, step, hstep, rfl, rfl, rfl⟩

end Takes

/-- What a reader makes of a whole text, by the words of the text. -/
theorem Takes.read_iff {α : Type} {reader : ArgumentReader α}
    {form : List (List Char) → α → List (List Char) → Prop} (h : Takes reader form)
    {text : List Char} {value : α} :
    reader.read text = .ok value ↔ ∃ left, form (Words.ofLine text) value left := by
  constructor
  · intro hread
    exact ⟨_, h.sound (Prod.ext hread rfl)⟩
  · rintro ⟨left, hform⟩
    obtain ⟨rest, hrun, -⟩ := h.complete hform
    rw [ArgumentReader.read, hrun]

/-- What a reader and the one after it read, the one after it has read from some text. -/
theorem ArgumentReader.exists_of_read_bind {α β : Type} {text : List Char}
    {first : ArgumentReader α} {next : α → ArgumentReader β} {value : β}
    (hread : (first >>= next).read text = .ok value) :
    ∃ found rest, (next found).read rest = .ok value := by
  rw [ArgumentReader.read, ArgumentReader.run_bind] at hread
  rcases hfirst : first.run ⟨text⟩ with ⟨answer, rest⟩
  rw [hfirst] at hread
  cases answer with
  | ok found => exact ⟨found, rest.rest, hread⟩
  | error failure => simp at hread

end DeviceConsole
