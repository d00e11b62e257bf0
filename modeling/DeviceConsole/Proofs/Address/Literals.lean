import DeviceConsole.Address.Parser

/-!
# The characters of address literals

A reader of addresses takes digits, points and colons off the front of a text and nothing else.  A
literal is a text that is taken off whole, so these are its only characters, and no bracket is among
them.

Main results:

- Theorem {lit}`Consumes.trans`: what two readers take one after the other is taken together.
- Theorem {lit}`consumes_group`: the segments of an IPv6 address are address characters.
- Theorem {lit}`IpAddress.all_isAddressChar`: a literal has no other characters.
-/

namespace DeviceConsole

/-- Whether a character may stand in an address literal: a digit, a point or a colon. -/
def isAddressChar (c : Char) : Bool :=
  (Hex.digit? c).isSome || c == '.' || c == ':'

namespace Reader

/-- What is left of a text when address characters have been taken off its front. -/
def Consumes (text rest : List Char) : Prop :=
  ∃ taken, taken.all isAddressChar ∧ text = taken ++ rest

variable {α β : Type} {text middle rest : List Char}

namespace Consumes

theorem refl (text : List Char) : Consumes text text :=
  ⟨[], rfl, rfl⟩

/-- What two readers take one after the other is taken together. -/
theorem trans (front : Consumes text middle) (back : Consumes middle rest) :
    Consumes text rest := by
  obtain ⟨first, hfirst, rfl⟩ := front
  obtain ⟨second, hsecond, rfl⟩ := back
  refine ⟨first ++ second, ?_, (List.append_assoc first second rest).symm⟩
  rw [List.all_append, hfirst, hsecond, Bool.and_self]

/-- Where nothing is left, the whole text was taken. -/
theorem all_isAddressChar (h : Consumes text []) : text.all isAddressChar := by
  obtain ⟨taken, htaken, rfl⟩ := h
  rwa [List.append_nil]

end Consumes

/-- Whether a reader takes address characters only. -/
def ReadsAddress (reader : Reader α) : Prop :=
  ∀ ⦃text value rest⦄, reader text = some (value, rest) → Consumes text rest

/-! ## The readers of the parts -/

theorem readsAddress_char {expected : Char} (hexpected : isAddressChar expected) :
    ReadsAddress (char expected) := by
  intro text value rest hread
  cases text with
  | nil => exact absurd hread (by simp [char])
  | cons c tail =>
      rw [char] at hread
      split at hread
      · next hsame =>
        obtain ⟨-, rfl⟩ := Prod.mk.inj (Option.some.inj hread)
        exact ⟨[c], by simpa [hsame] using hexpected, rfl⟩
      · cases hread

theorem isAddressChar_of_isDigit {radix : Nat} {c : Char} (h : isDigit radix c) :
    isAddressChar c := by
  unfold isDigit at h
  unfold isAddressChar
  cases hdigit : Hex.digit? c with
  | none => simp [hdigit] at h
  | some n => rfl

/-- What is left of a number is the text behind its digits. -/
theorem rest_of_number {radix limit n : Nat} {maxDigits : Option Nat} {padded : Bool}
    (h : number radix maxDigits padded limit text = some (n, rest)) :
    rest = text.dropWhile (isDigit radix) := by
  simp only [number, Option.ite_none_left_eq_some, Option.ite_none_right_eq_some,
    Option.some.injEq, Prod.mk.injEq] at h
  obtain ⟨-, -, -, -, hrest⟩ := h
  exact hrest.symm

theorem readsAddress_number (radix limit : Nat) (maxDigits : Option Nat) (padded : Bool) :
    ReadsAddress (number radix maxDigits padded limit) := by
  intro text n rest hread
  refine ⟨text.takeWhile (isDigit radix), List.all_eq_true.mpr fun c hmem => ?_, ?_⟩
  · exact isAddressChar_of_isDigit (List.all_eq_true.mp List.all_takeWhile c hmem)
  · rw [rest_of_number hread, List.takeWhile_append_dropWhile]

/-- A reader takes what it takes whatever is made of its value. -/
theorem ReadsAddress.map {reader : Reader α} (h : ReadsAddress reader) (f : α → β) :
    ReadsAddress fun text => (reader text).map fun (value, rest) => (f value, rest) := by
  intro text value rest hread
  obtain ⟨⟨found, left⟩, hfound, hpair⟩ := Option.map_eq_some_iff.mp hread
  obtain ⟨-, rfl⟩ := Prod.mk.inj hpair
  exact h hfound

end Reader

open Reader

/-! ## IPv4 -/

namespace Ipv4

theorem readsAddress_octet : ReadsAddress readOctet :=
  (readsAddress_number 10 256 (some 3) false).map UInt8.ofNat

theorem readsAddress_read : ReadsAddress read := by
  have hpoint : ReadsAddress (Reader.char '.') := readsAddress_char (by decide)
  intro text address rest hread
  simp only [read, Option.bind_eq_bind, Option.bind_eq_some_iff, Prod.exists] at hread
  obtain ⟨a, _, ha, _, _, hfirst, b, _, hb, _, _, hsecond, c, _, hc, _, _, hthird, d, _, hd,
    hend⟩ := hread
  obtain ⟨-, rfl⟩ := Prod.mk.inj (Option.some.inj hend)
  exact (readsAddress_octet ha).trans <| (hpoint hfirst).trans <|
    (readsAddress_octet hb).trans <| (hpoint hsecond).trans <|
    (readsAddress_octet hc).trans <| (hpoint hthird).trans (readsAddress_octet hd)

end Ipv4

/-! ## IPv6 -/

namespace Ipv6

theorem readsAddress_colon : ReadsAddress (Reader.char ':') :=
  readsAddress_char (by decide)

theorem readsAddress_afterColon {α : Type} {reader : Reader α} (h : ReadsAddress reader)
    (first : Bool) : ReadsAddress (readAfterColon first reader) := by
  intro text value rest hread
  cases first with
  | true => exact h hread
  | false =>
      simp only [readAfterColon, Bool.false_eq_true, if_false, Option.bind_eq_bind,
        Option.bind_eq_some_iff, Prod.exists] at hread
      obtain ⟨_, _, hcolon, hread⟩ := hread
      exact (readsAddress_colon hcolon).trans (h hread)

theorem readsAddress_segment : ReadsAddress readSegment :=
  (readsAddress_number 16 65536 (some 4) true).map UInt16.ofNat

/-- The segments of an address are taken off as address characters. -/
theorem consumes_group (first : Bool) (room : Nat) (text : List Char) :
    Consumes text (readGroup first room text).rest := by
  induction room generalizing first text with
  | zero => exact Consumes.refl text
  | succ room ih =>
      simp only [readGroup]
      split
      · next hipv4 =>
        split at hipv4
        · cases hipv4
        · exact readsAddress_afterColon Ipv4.readsAddress_read first hipv4
      · split
        · exact Consumes.refl text
        · next hsegment =>
          exact (readsAddress_afterColon readsAddress_segment first hsegment).trans (ih false _)

theorem readsAddress_read : ReadsAddress read := by
  intro text address rest hread
  have hfront := consumes_group true 8 text
  simp only [read] at hread
  split at hread
  · obtain ⟨_, -, hpair⟩ := Option.map_eq_some_iff.mp hread
    obtain ⟨-, rfl⟩ := Prod.mk.inj hpair
    exact hfront
  · split at hread
    · cases hread
    · simp only [Option.bind_eq_bind, Option.bind_eq_some_iff, Prod.exists] at hread
      obtain ⟨_, _, hone, _, middle, htwo, _, -, hend⟩ := hread
      obtain ⟨-, rfl⟩ := Prod.mk.inj (Option.some.inj hend)
      exact hfront.trans <| (readsAddress_colon hone).trans <| (readsAddress_colon htwo).trans
        (consumes_group true _ middle)

end Ipv6

namespace IpAddress

variable {text : List Char} {address : IpAddress}

/-- The text of a literal is read whole by one of the two readers. -/
theorem consumes_of_parse? (h : parse? text = some address) : Consumes text [] := by
  rcases Option.or_eq_some_iff.mp h with hv4 | ⟨-, hv6⟩
  · obtain ⟨_, hwhole, -⟩ := Option.map_eq_some_iff.mp hv4
    exact Ipv4.readsAddress_read (whole_eq_some_iff.mp hwhole)
  · obtain ⟨_, hwhole, -⟩ := Option.map_eq_some_iff.mp hv6
    exact Ipv6.readsAddress_read (whole_eq_some_iff.mp hwhole)

/-- A literal has no other characters than digits, points and colons. -/
theorem all_isAddressChar (h : parse? text = some address) : text.all isAddressChar :=
  (consumes_of_parse? h).all_isAddressChar

/-- A character that is none of those stands in no literal. -/
theorem not_mem_of_parse? (h : parse? text = some address) {c : Char} (hc : ¬ isAddressChar c) :
    c ∉ text :=
  fun hmem => hc (List.all_eq_true.mp (all_isAddressChar h) c hmem)

end IpAddress

end DeviceConsole
