import DeviceConsole.Proofs.Text.Runs
import DeviceConsole.Settings.Variable
import DeviceConsole.Text.Alphabet

/-!
# Variables of letters and digits

The text of a variable may look like something other than a text.  One that consists of letters and
digits has no blanks around it, no commas, no brackets and no quotes, so all that it can be taken
for is an integer or a truth value.

Main results:

- Theorem {lit}`readValue_of_isAlphanum`: such a text is read as a bare value, or begins with a
  truth value.
- Theorem {lit}`interpret_of_isAlphanum`: it is itself, an integer, or neither a text nor nothing.
- Theorem {lit}`layer_of_aliens`: variables of other programs do not count.
-/

namespace DeviceConsole

/-! ## Letters and digits -/

section Letters

variable {text : List Char}

/-- What holds of the letters and digits among the characters of ASCII holds of all of them. -/
theorem of_isAlphanum (property : Char → Prop)
    (h : ∀ n : Fin 128, (Char.ofNat n).isAlphanum → property (Char.ofNat n)) {c : Char}
    (hc : c.isAlphanum) : property c := by
  have hproperty := h ⟨c.toNat, Alphabet.toNat_lt_of_isAlphanum hc⟩
  simp only [Char.ofNat_toNat] at hproperty
  exact hproperty hc

theorem all_of_isAlphanum {property : Char → Bool}
    (h : ∀ n : Fin 128, (Char.ofNat n).isAlphanum → property (Char.ofNat n))
    (htext : text.all Char.isAlphanum) : text.all property :=
  List.all_eq_true.mpr fun c hmem =>
    of_isAlphanum (property · = true) h (List.all_eq_true.mp htext c hmem)

/-- Nothing comes off the front of such a text for a property that no letter and no digit has. -/
theorem stops_of_isAlphanum {property : Char → Bool}
    (h : ∀ n : Fin 128, (Char.ofNat n).isAlphanum → property (Char.ofNat n) = false)
    (htext : text.all Char.isAlphanum) : Stops property text :=
  fun c hhead =>
    of_isAlphanum (property · = false) h
      (List.all_eq_true.mp htext c (List.mem_of_mem_head? hhead))

/-- A character that is neither a letter nor a digit does not stand in such a text. -/
theorem notMem_of_isAlphanum {c : Char} (hc : ¬ c.isAlphanum)
    (htext : text.all Char.isAlphanum) : c ∉ text :=
  fun hmem => hc (List.all_eq_true.mp htext c hmem)

theorem trim_of_isAlphanum (htext : text.all Char.isAlphanum) : trim text = text := by
  have hback : text.reverse.all Char.isAlphanum := by rwa [List.all_reverse]
  have hblank {row : List Char} (hrow : row.all Char.isAlphanum) : Stops isBlank row :=
    stops_of_isAlphanum (by decide +kernel) hrow
  rw [trim, trimLeft, dropWhile_of_stops (hblank htext), trimRight,
    dropWhile_of_stops (hblank hback), List.reverse_reverse]

end Letters

/-! ## What such a text is taken for -/

namespace VariableValue

variable {text : List Char}

theorem skipBlanks_of_isAlphanum (htext : text.all Char.isAlphanum) : skipBlanks text = text :=
  dropWhile_of_stops (stops_of_isAlphanum (by decide +kernel) htext)

/-- Without a point the text is an integer or itself. -/
theorem ofBare_of_isAlphanum (htext : text.all Char.isAlphanum) :
    ofBare text = .text (String.ofList text) ∨ ∃ n, ofBare text = .integer n := by
  have hpoint : text.contains '.' = false :=
    List.contains_eq_mem '.' text ▸ decide_eq_false (notMem_of_isAlphanum (by decide) htext)
  rw [ofBare, hpoint, Bool.false_and, if_neg Bool.false_ne_true]
  cases integer? text with
  | none => exact .inl rfl
  | some n => exact .inr ⟨n, rfl⟩

/-- Such a text is read as a bare value, or begins with a truth value. -/
theorem readValue_of_isAlphanum (htext : text.all Char.isAlphanum) (fuel : Nat) :
    readValue (fuel + 1) text = some (.plain (ofBare text), []) ∨
      ∃ rest, readValue (fuel + 1) text = some (.plain .other, rest) := by
  have hfirst {c : Char} {rest : List Char} (hcons : text = c :: rest) : c.isAlphanum :=
    List.all_eq_true.mp htext c (hcons ▸ List.mem_cons_self)
  have hinner : text.all (!isSeparator ·) := all_of_isAlphanum (by decide +kernel) htext
  have hwhole := takeWhile_append_of_stops hinner stops_nil
  have hrest := dropWhile_append_of_stops hinner stops_nil
  rw [List.append_nil] at hwhole hrest
  rw [readValue, skipBlanks_of_isAlphanum htext]
  split
  · exact .inr ⟨_, rfl⟩
  · exact .inr ⟨_, rfl⟩
  -- no letter and no digit opens a table, a list, a text or a character
  iterate 5 exact absurd (hfirst rfl) (by decide)
  · rw [hwhole, hrest, trim_of_isAlphanum htext]
    exact .inl rfl

/-- A text of letters and digits is itself, an integer, or neither a text nor nothing. -/
theorem interpret_of_isAlphanum {written : String} (htext : written.toList.all Char.isAlphanum) :
    interpret written = .plain (.text written) ∨
      (∃ n, interpret written = .plain (.integer n)) ∨ interpret written = .plain .other := by
  have hitself : LayerValue.plain (.text (String.ofList written.toList)) = .plain (.text written) :=
    by rw [String.ofList_toList]
  simp only [interpret, trim_of_isAlphanum htext]
  split
  · exact .inr (.inr rfl)
  · rcases readValue_of_isAlphanum htext (2 * written.toList.length + 1) with hbare | ⟨rest, hother⟩
    · rw [Reader.whole_eq_some_iff.mpr hbare, Option.getD_some]
      rcases ofBare_of_isAlphanum htext with htextual | ⟨n, hinteger⟩
      · rw [htextual]
        exact .inl hitself
      · exact .inr (.inl ⟨n, by rw [hinteger]⟩)
    · rw [Reader.whole, hother]
      cases rest with
      | nil => exact .inr (.inr rfl)
      | cons c rest => exact .inl hitself

end VariableValue

/-! ## Variables of other programs -/

namespace SettingKey

/-- Settings are told apart by their names. -/
theorem name_inj {key other : SettingKey} : key.name = other.name ↔ key = other := by
  constructor
  · cases key <;> cases other <;> simp [name]
  · exact congrArg name

end SettingKey

/-- The layer with a value for one setting. -/
def Layer.only (key : SettingKey) (value : LayerValue) : Layer := fun other =>
  if other = key then some value else none

namespace Variable

/-- Whether variables lead to no setting, and to nothing else that settings might be in. -/
def AreAlien (environment : List (String × String)) : Prop :=
  ∀ entry ∈ environment, path? entry.1 = none

theorem AreAlien.reverse {environment : List (String × String)} (h : AreAlien environment) :
    AreAlien environment.reverse :=
  fun entry hmem => h entry (List.mem_reverse.mp hmem)

theorem AreAlien.filterMap {environment : List (String × String)} (h : AreAlien environment) :
    environment.filterMap (fun (name, text) => entry? name text) = [] := by
  rw [List.filterMap_eq_nil_iff]
  rintro ⟨name, text⟩ hmem
  simp only [h _ hmem, entry?]

/-- Variables of other programs give no settings. -/
theorem layer_of_aliens {environment : List (String × String)} (h : AreAlien environment) :
    layer environment = .empty := by
  funext key
  simp only [layer, h.reverse.filterMap]
  rfl

/-- Among variables of other programs that of a setting gives its value, and nothing else. -/
theorem layer_among_aliens {front back : List (String × String)} (hfront : AreAlien front)
    (hback : AreAlien back) (key : SettingKey) (text : String) :
    layer (front ++ (key.variableName, text) :: back) =
      .only key (VariableValue.interpret text) := by
  funext other
  have hentry : entry? key.variableName text = some (key.name, VariableValue.interpret text) := by
    simp only [path?_variableName, entry?]
  simp only [layer, List.reverse_append, List.reverse_cons, List.filterMap_append,
    hfront.reverse.filterMap, hback.reverse.filterMap, List.nil_append, List.append_nil,
    List.filterMap_cons, List.filterMap_nil, hentry]
  by_cases hother : other = key
  · subst hother
    simp [Layer.only]
  · have hname : (other.name == key.name) = false :=
      beq_eq_false_iff_ne.mpr fun h => hother (SettingKey.name_inj.mp h)
    simp [Layer.only, List.lookup_cons, hother, hname]

end Variable

end DeviceConsole
