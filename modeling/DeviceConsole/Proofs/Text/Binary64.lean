import DeviceConsole.Binary64

/-!
# Texts of binary64 words

A text may also name an infinity, or no number at all, and a decimal too large for the format
comes to an infinity.  A word that is read as a finite number is one among these readings: the
others are left out, and nothing else is.

Main results:

- Definition {lit}`ofText?`: the word that a text stands for, the infinities and NaN among them.
- Theorem {lit}`finite?_eq_some_iff_ofText?`: the finite ones are those that are accepted.
-/

namespace DeviceConsole.Binary64

/-- The magnitude bits of the word that is no number. -/
def nanBits : Nat :=
  infinityBits + Nat.pow 2 51

/-- The word that a name stands for, with a sign perhaps and in either case: an infinity, or no
number. -/
def ofName? (text : List Char) : Option Binary64 :=
  let (negative, name) := splitSign text
  let lower := name.map Char.toLower
  if lower = "inf".toList ∨ lower = "infinity".toList then some (ofMagnitude negative infinityBits)
  else if lower = "nan".toList then some (ofMagnitude negative nanBits)
  else none

/-- The word that a text stands for: the one nearest to it when it is a decimal, which is an
infinity when the decimal is too large, or the one that it names. -/
def ofText? (text : List Char) : Option Binary64 :=
  ((decimal? text).map ofDecimal).or (ofName? text)

/-- No finite word has a name. -/
theorem not_isFinite_of_ofName? {text : List Char} {word : Binary64}
    (h : ofName? text = some word) : word.isFinite = false := by
  have hinfinity : ∀ negative, (ofMagnitude negative infinityBits).isFinite = false := by
    decide +kernel
  have hnan : ∀ negative, (ofMagnitude negative nanBits).isFinite = false := by
    decide +kernel
  unfold ofName? at h
  dsimp only at h
  split at h
  · obtain rfl := Option.some.inj h
    exact hinfinity _
  · split at h
    · obtain rfl := Option.some.inj h
      exact hnan _
    · exact nomatch h

/-- Exactly the texts of finite words are accepted. -/
theorem finite?_eq_some_iff_ofText? {text : List Char} {word : Binary64} :
    finite? text = some word ↔ ofText? text = some word ∧ word.isFinite := by
  rw [finite?, Option.filter_eq_some_iff, ofText?]
  cases hdecimal : (decimal? text).map ofDecimal with
  | some nearest => rw [Option.some_or]
  | none =>
      rw [Option.none_or]
      constructor
      · rintro ⟨hnone, -⟩
        exact nomatch hnone
      · rintro ⟨hname, hfinite⟩
        rw [not_isFinite_of_ofName? hname] at hfinite
        exact nomatch hfinite

/-- An infinity and a decimal that is too large stand for words, but not for finite ones. -/
example :
    (ofText? "-Infinity".toList).map bits = some 0xFFF0000000000000 ∧
    (ofText? "1e999".toList).map bits = some 0x7FF0000000000000 ∧
    (ofText? "NaN".toList).map isFinite = some false ∧
    finite? "inf".toList = none ∧ finite? "1e999".toList = none := by
  decide +kernel

end DeviceConsole.Binary64
