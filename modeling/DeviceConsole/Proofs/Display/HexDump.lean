import DeviceConsole.Proofs.Reactor.Outcomes
import DeviceConsole.Proofs.Text.Hex
import DeviceConsole.Proofs.Text.Utf8
import Mathlib.Data.List.Forall2

/-!
# Hex dumps lose nothing

A dump has a row for every sixteen bytes: the offset of the row, its bytes in hexadecimal up to a
fixed width, and its bytes as characters.  It is made of visible characters and newlines whatever
the bytes are, and the bytes can be read again from the hexadecimal column alone.

Main results:

- Theorem {lit}`toList_text`: the dump row by row.
- Theorem {lit}`isDump_text`: it is laid out as a dump.
- Theorem {lit}`IsDump.read?_eq`: the bytes of a dump are read from it again.
- Theorem {lit}`dump_losesNothing`: what a dump promises, and that binary payloads are shown so.
-/

namespace DeviceConsole

namespace HexDump

/-! ## What a dump is -/

/-- A character of ASCII that has a shape, the blank among them. -/
def IsVisible (c : Char) : Prop :=
  ' ' ≤ c ∧ c ≤ '~'

instance (c : Char) : Decidable (IsVisible c) :=
  inferInstanceAs (Decidable (_ ∧ _))

/-- The character of a byte: the one of ASCII with its code, or a point where that has no shape. -/
def IsShape (byte : UInt8) (c : Char) : Prop :=
  if 0x20 ≤ byte.toNat ∧ byte.toNat ≤ 0x7E then c.toNat = byte.toNat else c = '.'

/-- The two digits of a byte. -/
def IsPair (byte : UInt8) (word : List Char) : Prop :=
  Hex.IsUpper word byte.toNat ∧ word.length = 2

/-- The hexadecimal column of some bytes: the digits of each with a blank between two, and blanks
behind them up to the width of the column. -/
def IsHexColumn (chunk : List UInt8) (column : List Char) : Prop :=
  ∃ pairs blanks, List.Forall₂ IsPair chunk pairs ∧
    column = [' '].intercalate pairs ++ List.replicate blanks ' ' ∧ column.length = 47

/-- The row of some bytes: their offset in four digits or as many as it needs, the hexadecimal
column and the characters, with two blanks between two of them. -/
def IsRow (offset : Nat) (chunk : List UInt8) (row : List Char) : Prop :=
  ∃ number column shapes, Hex.IsPadded 4 number offset ∧ IsHexColumn chunk column ∧
    List.Forall₂ IsShape chunk shapes ∧
    row = number ++ [' ', ' '] ++ column ++ [' ', ' '] ++ shapes

/-- The bytes of a row: sixteen, or those that are left. -/
def rowBytes (bytes : List UInt8) (i : Nat) : List UInt8 :=
  (bytes.drop (16 * i)).take 16

/-- The dump of some bytes: lines, each of them ended by a newline, one for every sixteen bytes. -/
def IsDump (bytes : List UInt8) (text : List Char) : Prop :=
  ∃ rows, text.splitOn '\n' = rows ++ [[]] ∧ rows.length = (bytes.length + 15) / 16 ∧
    ∀ i row, rows[i]? = some row → IsRow (16 * i) (rowBytes bytes i) row

/-- The bytes of a row, read from its hexadecimal column: what stands behind the first two blanks,
as wide as the column is. -/
def readRow? (row : List Char) : Option (List UInt8) :=
  Hex.bytes? ((((row.dropWhile (· ≠ ' ')).drop 2).take 47).filter (· ≠ ' '))

/-- The bytes of a dump, read row by row. -/
def read? (text : List Char) : Option (List UInt8) :=
  ((text.splitOn '\n').dropLast.mapM readRow?).map List.flatten

/-! ## Visible characters -/

theorem isVisible_iff_toNat (c : Char) : IsVisible c ↔ 0x20 ≤ c.toNat ∧ c.toNat ≤ 0x7E :=
  Iff.rfl

theorem isVisible_blank : IsVisible ' ' := by
  decide

theorem isVisible_of_isDigitUpper {c : Char} (h : Hex.IsDigitUpper c) : IsVisible c := by
  rcases h with ⟨hlow, hhigh⟩ | ⟨hlow, hhigh⟩
  · exact ⟨Char.le_trans (show ' ' ≤ '0' by decide) hlow,
      Char.le_trans hhigh (show '9' ≤ '~' by decide)⟩
  · exact ⟨Char.le_trans (show ' ' ≤ 'A' by decide) hlow,
      Char.le_trans hhigh (show 'F' ≤ '~' by decide)⟩

theorem ne_blank_of_isDigitUpper {c : Char} (h : Hex.IsDigitUpper c) : c ≠ ' ' := by
  rintro rfl
  exact absurd h (by decide)

theorem isVisible_of_isShape {byte : UInt8} {c : Char} (h : IsShape byte c) : IsVisible c := by
  unfold IsShape at h
  split at h
  · rename_i hrange
    rwa [isVisible_iff_toNat, h]
  · rw [h]
    decide

theorem toNat_ofNat : ∀ n ≤ 0x7E, (Char.ofNat n).toNat = n := by
  decide

theorem isShape_shown (byte : UInt8) : IsShape byte (shown byte) := by
  have hiff : isShown byte = true ↔ 0x20 ≤ byte.toNat ∧ byte.toNat ≤ 0x7E := by
    simp [isShown, UInt8.le_iff_toNat_le]
  by_cases hrange : 0x20 ≤ byte.toNat ∧ byte.toNat ≤ 0x7E
  · rw [IsShape, if_pos hrange, shown, if_pos (hiff.mpr hrange)]
    exact toNat_ofNat _ hrange.2
  · rw [IsShape, if_neg hrange, shown, if_neg (mt hiff.mp hrange)]

/-! ## The hexadecimal column -/

/-- What every image of an element has, all images of a list have. -/
theorem forall_mem_right {α β : Type} {relation : α → β → Prop} {good : β → Prop}
    (himage : ∀ a b, relation a b → good b) {left : List α} {right : List β}
    (h : List.Forall₂ relation left right) : ∀ b ∈ right, good b := by
  induction h with
  | nil => simp
  | cons hfirst _ ih => exact List.forall_mem_cons.mpr ⟨himage _ _ hfirst, ih⟩

section

variable {chunk : List UInt8} {pairs : List (List Char)}

theorem length_eq_of_isPair (h : List.Forall₂ IsPair chunk pairs) :
    ∀ word ∈ pairs, word.length = 2 :=
  forall_mem_right (fun _ _ hpair => hpair.2) h

theorem isDigitUpper_of_isPair (h : List.Forall₂ IsPair chunk pairs) :
    ∀ word ∈ pairs, ∀ c ∈ word, Hex.IsDigitUpper c :=
  forall_mem_right (fun _ _ hpair => hpair.1.digits) h

/-- Words of two digits, with a blank between two. -/
theorem length_intercalate_blank (h : ∀ word ∈ pairs, word.length = 2) :
    ([' '].intercalate pairs).length = 3 * pairs.length - 1 := by
  induction pairs with
  | nil => rfl
  | cons word rest ih =>
      have hword : word.length = 2 := h word List.mem_cons_self
      have hrest := ih fun other hmem => h other (List.mem_cons_of_mem _ hmem)
      cases rest with
      | nil => simpa using hword
      | cons next rest =>
          rw [List.intercalate_cons_cons, List.length_append, List.length_append, hword, hrest]
          simp only [List.length_cons, List.length_nil]
          omega

/-- The blanks between words are all that there is beside the words. -/
theorem filter_intercalate_blank (h : ∀ word ∈ pairs, ∀ c ∈ word, c ≠ ' ') :
    ([' '].intercalate pairs).filter (· ≠ ' ') = pairs.flatten := by
  induction pairs with
  | nil => rfl
  | cons word rest ih =>
      have hrest := ih fun other hmem => h other (List.mem_cons_of_mem _ hmem)
      have hword : word.filter (· ≠ ' ') = word := by
        rw [List.filter_eq_self]
        intro c hmem
        simpa using h word List.mem_cons_self c hmem
      cases rest with
      | nil => simpa using hword
      | cons next rest =>
          rw [List.intercalate_cons_cons, List.filter_append, List.filter_append, hword, hrest]
          simp

/-- So are the blanks of a column, those behind the words too. -/
theorem filter_column (h : List.Forall₂ IsPair chunk pairs) (blanks : Nat) :
    ([' '].intercalate pairs ++ List.replicate blanks ' ').filter (· ≠ ' ') = pairs.flatten := by
  rw [List.filter_append, filter_intercalate_blank fun word hword c hmem =>
    ne_blank_of_isDigitUpper (isDigitUpper_of_isPair h word hword c hmem)]
  simp

end

theorem forall₂_isPair (chunk : List UInt8) :
    List.Forall₂ IsPair chunk (chunk.map Hex.byteUpper) := by
  rw [List.forall₂_map_right_iff, List.forall₂_same]
  exact fun byte _ => ⟨Hex.isUpper_byteUpper byte, rfl⟩

theorem isHexColumn_hexColumn {chunk : List UInt8} (h : chunk.length ≤ 16) :
    IsHexColumn chunk (hexColumn chunk) := by
  have hlength := length_intercalate_blank (length_eq_of_isPair (forall₂_isPair chunk))
  rw [List.length_map] at hlength
  refine ⟨_, _, forall₂_isPair chunk, rfl, ?_⟩
  rw [hexColumn, List.length_append, List.length_replicate, hlength]
  simp only [rowSize]
  omega

namespace IsHexColumn

variable {chunk : List UInt8} {column : List Char}

theorem isVisible (h : IsHexColumn chunk column) : ∀ c ∈ column, IsVisible c := by
  obtain ⟨pairs, blanks, hpairs, rfl, -⟩ := h
  intro c hmem
  by_cases hblank : c = ' '
  · rw [hblank]
    exact isVisible_blank
  · have hkept : c ∈ pairs.flatten := by
      rw [← filter_column hpairs blanks, List.mem_filter]
      exact ⟨hmem, by simpa using hblank⟩
    obtain ⟨word, hword, hc⟩ := List.mem_flatten.mp hkept
    exact isVisible_of_isDigitUpper (isDigitUpper_of_isPair hpairs word hword c hc)

/-- A column is read as the bytes that it shows. -/
theorem bytes?_filter (h : IsHexColumn chunk column) :
    Hex.bytes? (column.filter (· ≠ ' ')) = some chunk := by
  obtain ⟨pairs, blanks, hpairs, rfl, -⟩ := h
  rw [filter_column hpairs blanks]
  exact Hex.bytes?_flatten hpairs

end IsHexColumn

/-! ## Rows -/

/-- A row as it is written, without the newline that ends it. -/
def row (offset : Nat) (chunk : List UInt8) : List Char :=
  Hex.paddedUpper 4 offset ++ [' ', ' '] ++ hexColumn chunk ++ [' ', ' '] ++ chunk.map shown

theorem line_eq (offset : Nat) (chunk : List UInt8) :
    line offset chunk = row offset chunk ++ ['\n'] :=
  rfl

theorem isRow_row {chunk : List UInt8} (h : chunk.length ≤ 16) (offset : Nat) :
    IsRow offset chunk (row offset chunk) := by
  have hshapes : List.Forall₂ IsShape chunk (chunk.map shown) := by
    rw [List.forall₂_map_right_iff, List.forall₂_same]
    exact fun byte _ => isShape_shown byte
  exact ⟨_, _, _, Hex.isPadded_paddedUpper 4 offset, isHexColumn_hexColumn h, hshapes, rfl⟩

namespace IsRow

variable {offset : Nat} {chunk : List UInt8} {row : List Char}

theorem isVisible (h : IsRow offset chunk row) : ∀ c ∈ row, IsVisible c := by
  obtain ⟨number, column, shapes, hnumber, hcolumn, hshapes, rfl⟩ := h
  have hblanks : ∀ c ∈ [' ', ' '], IsVisible c := by
    intro c hmem
    obtain rfl : c = ' ' := by simpa using hmem
    exact isVisible_blank
  have hshown : ∀ c ∈ shapes, IsVisible c :=
    forall_mem_right (fun _ _ hshape => isVisible_of_isShape hshape) hshapes
  intro c hmem
  simp only [List.mem_append] at hmem
  rcases hmem with (((hmem | hmem) | hmem) | hmem) | hmem
  · exact isVisible_of_isDigitUpper (hnumber.isUpper.digits c hmem)
  · exact hblanks c hmem
  · exact hcolumn.isVisible c hmem
  · exact hblanks c hmem
  · exact hshown c hmem

/-- The bytes of a row are read from it again: the width of the column keeps the characters behind
it apart. -/
theorem readRow?_eq (h : IsRow offset chunk row) : readRow? row = some chunk := by
  obtain ⟨number, column, shapes, hnumber, hcolumn, -, rfl⟩ := h
  have hnoBlank : ∀ c ∈ number, (decide (c ≠ ' ')) = true := by
    intro c hmem
    simpa using ne_blank_of_isDigitUpper (hnumber.isUpper.digits c hmem)
  have hwidth : column.length = 47 := hcolumn.choose_spec.choose_spec.2.2
  have hbehind : (number ++ [' ', ' '] ++ column ++ [' ', ' '] ++ shapes).dropWhile (· ≠ ' ') =
      ' ' :: ' ' :: (column ++ ([' ', ' '] ++ shapes)) := by
    simp only [List.append_assoc, List.dropWhile_append_of_pos hnoBlank]
    rfl
  rw [readRow?, hbehind, List.drop_succ_cons, List.drop_succ_cons, List.drop_zero,
    List.take_left' hwidth]
  exact hcolumn.bytes?_filter

end IsRow

/-! ## The dump row by row -/

theorem rowBytes_succ (bytes : List UInt8) (i : Nat) :
    rowBytes bytes (i + 1) = rowBytes (bytes.drop 16) i := by
  rw [rowBytes, rowBytes, List.drop_drop, Nat.mul_succ, Nat.add_comm]

/-- There is a row for every sixteen bytes, and one for those that are left. -/
theorem lines_rows (offset : Nat) (bytes : List UInt8) :
    lines offset (rows bytes) = (List.range ((bytes.length + 15) / 16)).map fun i =>
      line (offset + 16 * i) (rowBytes bytes i) := by
  fun_induction rows bytes generalizing offset with
  | case1 => rfl
  | case2 byte rest ih =>
      have hcount : ((byte :: rest).length + 15) / 16 =
          (((byte :: rest).drop 16).length + 15) / 16 + 1 := by
        rw [List.length_drop, List.length_cons]
        omega
      have hlater (i : Nat) : line (offset + 16 * (i + 1)) (rowBytes (byte :: rest) (i + 1)) =
          line (offset + 16 + 16 * i) (rowBytes ((byte :: rest).drop 16) i) := by
        rw [rowBytes_succ, Nat.mul_succ, Nat.add_assoc offset 16, Nat.add_comm 16]
      rw [hcount, List.range_succ_eq_map, List.map_cons, List.map_map, lines, ih]
      simp only [Function.comp_def, Nat.succ_eq_add_one, hlater]
      rfl

/-- The rows of a dump as they are written. -/
def shownRows (bytes : List UInt8) : List (List Char) :=
  (List.range ((bytes.length + 15) / 16)).map fun i => row (16 * i) (rowBytes bytes i)

/-- The dump row by row. -/
theorem toList_text (bytes : List UInt8) :
    (text bytes).toList = (shownRows bytes).flatMap (· ++ ['\n']) := by
  rw [text, String.toList_ofList, lines_rows, shownRows, List.flatMap_map, ← List.flatMap_def]
  simp only [Nat.zero_add, line_eq]

theorem isRow_of_shownRows {bytes : List UInt8} {i : Nat} {row : List Char}
    (h : (shownRows bytes)[i]? = some row) : IsRow (16 * i) (rowBytes bytes i) row := by
  rw [shownRows, List.getElem?_map, Option.map_eq_some_iff] at h
  obtain ⟨j, hj, rfl⟩ := h
  obtain ⟨hlt, rfl⟩ := List.getElem?_eq_some_iff.mp hj
  rw [List.getElem_range]
  exact isRow_row (List.length_take_le ..) _

theorem isVisible_of_mem_shownRows {bytes : List UInt8} {row : List Char}
    (h : row ∈ shownRows bytes) : ∀ c ∈ row, IsVisible c := by
  obtain ⟨i, hi⟩ := List.mem_iff_getElem?.mp h
  exact (isRow_of_shownRows hi).isVisible

/-- Lines that are ended by newlines, taken apart. -/
theorem splitOn_lines {rows : List (List Char)} (h : ∀ row ∈ rows, '\n' ∉ row) :
    (rows.flatMap (· ++ ['\n'])).splitOn '\n' = rows ++ [[]] := by
  induction rows with
  | nil => rfl
  | cons row rest ih =>
      rw [List.flatMap_cons, List.append_assoc, List.singleton_append,
        List.splitOn_append_cons_self_of_not_mem (h row List.mem_cons_self),
        ih fun other hmem => h other (List.mem_cons_of_mem _ hmem), List.cons_append]

/-- The dump is laid out as one. -/
theorem isDump_text (bytes : List UInt8) : IsDump bytes (text bytes).toList := by
  refine ⟨shownRows bytes, ?_, ?_, fun i row => isRow_of_shownRows⟩
  · rw [toList_text]
    apply splitOn_lines
    intro row hmem hnewline
    exact absurd (isVisible_of_mem_shownRows hmem _ hnewline) (by decide)
  · rw [shownRows, List.length_map, List.length_range]

theorem isVisible_text (bytes : List UInt8) :
    ∀ c ∈ (text bytes).toList, c = '\n' ∨ IsVisible c := by
  intro c hmem
  rw [toList_text] at hmem
  obtain ⟨row, hrow, hc⟩ := List.mem_flatMap.mp hmem
  rcases List.mem_append.mp hc with hc | hc
  · exact Or.inr (isVisible_of_mem_shownRows hrow c hc)
  · exact Or.inl (List.mem_singleton.mp hc)

/-- What the terminal receives of a dump: codes of visible characters, and newlines. -/
theorem encode_text (bytes : List UInt8) :
    ∀ byte ∈ Utf8.encode (text bytes), byte = 0x0A ∨ 0x20 ≤ byte ∧ byte ≤ 0x7E := by
  have hascii : ∀ c ∈ (text bytes).toList, c.toNat ≤ 0x7E := by
    intro c hmem
    rcases isVisible_text bytes c hmem with rfl | hvisible
    · decide
    · exact hvisible.2
  intro byte hmem
  rw [Utf8.encode_ascii fun c hc => Nat.lt_succ_of_le (Nat.le_succ_of_le (hascii c hc))] at hmem
  obtain ⟨c, hc, rfl⟩ := List.mem_map.mp hmem
  have hcode : (UInt8.ofNat c.toNat).toNat = c.toNat :=
    UInt8.toNat_ofNat_of_lt' (Nat.lt_of_le_of_lt (hascii c hc) (by decide))
  rcases isVisible_text bytes c hc with rfl | hvisible
  · exact Or.inl rfl
  · refine Or.inr ?_
    rw [UInt8.le_iff_toNat_le, UInt8.le_iff_toNat_le, hcode]
    exact hvisible

/-! ## Reading a dump -/

/-- Rows that are read one after the other are read as all the bytes. -/
theorem mapM_readRow? {bytes : List UInt8} {rows : List (List Char)}
    (hlength : rows.length = (bytes.length + 15) / 16)
    (hrows : ∀ i row, rows[i]? = some row → readRow? row = some (rowBytes bytes i)) :
    (rows.mapM readRow?).map List.flatten = some bytes := by
  induction rows generalizing bytes with
  | nil =>
      have hempty : bytes = [] := List.length_eq_zero_iff.mp (by simp at hlength; omega)
      rw [hempty]
      rfl
  | cons row rest ih =>
      have hfirst : readRow? row = some (bytes.take 16) := hrows 0 row rfl
      have hrest := @ih (bytes.drop 16) (by simp at hlength ⊢; omega) fun i other hother => by
        rw [← rowBytes_succ]
        exact hrows (i + 1) other hother
      obtain ⟨later, hlater, hflatten⟩ := Option.map_eq_some_iff.mp hrest
      rw [List.mapM_cons, hfirst, hlater]
      simp [hflatten]

/-- The bytes of a dump are read from it again. -/
theorem IsDump.read?_eq {bytes : List UInt8} {text : List Char} (h : IsDump bytes text) :
    read? text = some bytes := by
  obtain ⟨rows, hsplit, hlength, hrows⟩ := h
  rw [read?, hsplit, List.dropLast_concat]
  exact mapM_readRow? hlength fun i row hrow => (hrows i row hrow).readRow?_eq

theorem text_injective {bytes other : List UInt8} (h : text bytes = text other) :
    bytes = other := by
  have hread := (isDump_text bytes).read?_eq
  rw [h, (isDump_text other).read?_eq] at hread
  exact (Option.some.inj hread).symm

end HexDump

/-! ## Payloads -/

/-- The payload of an outcome that has one, with its format. -/
def Outcome.payload? : Outcome → Option (MediaFormat × List UInt8)
  | .result _ _ _ format payload => some (format, payload)
  | .notification _ _ _ format payload => some (format, payload)
  | .registration _ _ => none

/-- A payload that is not text is shown as its dump, between the banner and the prompt. -/
theorem Outcome.text_of_binary {outcome : Outcome} {format : MediaFormat} {payload : List UInt8}
    (hpayload : outcome.payload? = some (format, payload)) (hne : payload ≠ [])
    (hbinary : format.isTextual = false) (registry : Registry) :
    outcome.text registry = outcome.banner ++ HexDump.text payload ++ "\n" ++ prompt := by
  have hshown : payloadText format payload = HexDump.text payload := by
    rw [payloadText, if_neg (by simpa using hne), if_neg (by simp [hbinary])]
  have hbody : outcome.body registry = payloadText format payload := by
    cases outcome with
    | result =>
        obtain ⟨rfl, rfl⟩ := Prod.mk.inj (Option.some.inj hpayload)
        rfl
    | notification =>
        obtain ⟨rfl, rfl⟩ := Prod.mk.inj (Option.some.inj hpayload)
        rfl
    | registration => simp [payload?] at hpayload
  rw [Outcome.text, hbody, hshown]

namespace HexDump

variable {η ω : Type}

/-- What the dump of some bytes promises, and that a payload of these bytes is shown so. -/
structure LosesNothing (S : Setting η ω) (session : Session η ω) (bytes : List UInt8) :
    Prop where
  laidOut : IsDump bytes (text bytes).toList
  harmless : ∀ byte ∈ Utf8.encode (text bytes), byte = 0x0A ∨ 0x20 ≤ byte ∧ byte ≤ 0x7E
  readBack : read? (text bytes).toList = some bytes
  distinct : ∀ other, text other = text bytes → other = bytes
  delivered : ∀ outcome format, outcome.payload? = some (format, bytes) → bytes ≠ [] →
    format.isTextual = false → (deliver S outcome session).events.texts =
      [session.console.clip
        (Utf8.encode (outcome.banner ++ text bytes ++ "\n" ++ prompt))]

/-- A dump of any bytes loses none of them and cannot disturb the terminal, and a payload that is
not text is always delivered as one. -/
theorem dump_losesNothing (S : Setting η ω) (session : Session η ω) (bytes : List UInt8) :
    LosesNothing S session bytes where
  laidOut := isDump_text bytes
  harmless := encode_text bytes
  readBack := (isDump_text bytes).read?_eq
  distinct _ := text_injective
  delivered := by
    intro outcome format hpayload hne hbinary
    rw [← Trace.texts_presentation, presentation_deliver,
      Outcome.text_of_binary hpayload hne hbinary]
    rfl

end HexDump

end DeviceConsole
