import DeviceConsole.Text.Utf8

/-!
# ASCII among other bytes

A byte below {lit}`0x80` is a character wherever it stands: no character in front of it takes it
in, and no other bytes are read as that character.

Main results:

- Theorem {lit}`decode_append_cons`: decoding starts afresh at a byte of ASCII.
- Theorem {lit}`mem_of_mem_decode`: a character of ASCII in the text is its byte in the bytes.
- Theorem {lit}`encode_ascii`: a text of ASCII is encoded as the codes of its characters.
-/

namespace DeviceConsole.Utf8

/-! ## Leading bytes -/

/-- The least code that some first bits and ranges allow. -/
def leastCode (bits : Nat) (wanted : List ByteRange) : Nat :=
  wanted.foldl (fun code range => code * 64 + (range.first.toNat - 0x80)) bits

theorem leastCode_cons (bits : Nat) (range : ByteRange) (wanted : List ByteRange) :
    leastCode bits (range :: wanted) =
      leastCode (bits * 64 + (range.first.toNat - 0x80)) wanted := by
  simp only [leastCode, List.foldl_cons]

theorem leastCode_mono {bits more : Nat} (h : bits ≤ more) (wanted : List ByteRange) :
    leastCode bits wanted ≤ leastCode more wanted := by
  induction wanted generalizing bits more with
  | nil => exact h
  | cons range wanted ih =>
      simp only [leastCode_cons]
      apply ih
      omega

/-- A byte that starts a character is one of ASCII, and the character is complete, or it demands
bytes above ASCII, and a code above ASCII with them. -/
theorem lead?_cases {byte : UInt8} {bits : Nat} {wanted : List ByteRange}
    (hlead : lead? byte = some (bits, wanted)) :
    (byte.toNat < 0x80 ∧ wanted = []) ∨
      ((∀ range ∈ wanted, 0x80 ≤ range.first) ∧ 0x80 ≤ leastCode bits wanted) := by
  unfold lead? at hlead
  dsimp only at hlead
  repeat' split at hlead
  all_goals simp only [Option.some.injEq, Prod.mk.injEq, reduceCtorEq] at hlead
  all_goals obtain ⟨rfl, rfl⟩ := hlead
  · exact Or.inl ⟨by omega, rfl⟩
  all_goals
    refine Or.inr ⟨by decide, ?_⟩
    simp only [leastCode, tail, List.foldl_cons, List.foldl_nil, UInt8.reduceToNat]
    omega

/-! ## Before a byte of ASCII -/

theorem not_contains_ascii {range : ByteRange} {byte : UInt8} (hrange : 0x80 ≤ range.first)
    (hbyte : byte < 0x80) : range.contains byte = false := by
  have hlt : byte < range.first := UInt8.lt_of_lt_of_le hbyte hrange
  simp [ByteRange.contains, UInt8.not_le.mpr hlt]

/-- A scan of continuation bytes goes no further than a byte of ASCII. -/
theorem continuation_append_cons {wanted : List ByteRange} {byte : UInt8} (hbyte : byte < 0x80)
    (hwanted : ∀ range ∈ wanted, 0x80 ≤ range.first) (bits : Nat) (bytes rest : List UInt8) :
    continuation bits wanted (bytes ++ byte :: rest) =
      ((continuation bits wanted bytes).1,
        (continuation bits wanted bytes).2 ++ byte :: rest) := by
  fun_induction continuation bits wanted bytes with
  | case1 => rfl
  | case2 bits range wanted =>
      simp [continuation, not_contains_ascii (hwanted range (by simp)) hbyte]
  | case3 bits range wanted first bytes hcontains ih =>
      rw [List.cons_append, continuation, if_pos hcontains]
      exact ih fun range hrange => hwanted range (List.mem_cons_of_mem _ hrange)
  | case4 bits range wanted first bytes hcontains =>
      rw [List.cons_append, continuation, if_neg hcontains]

theorem take_append_cons {byte : UInt8} (hbyte : byte < 0x80) (first : UInt8)
    (bytes rest : List UInt8) :
    take first (bytes ++ byte :: rest) =
      ((take first bytes).1, (take first bytes).2 ++ byte :: rest) := by
  unfold take
  split
  · rfl
  · rename_i bits wanted hlead
    have hwanted : ∀ range ∈ wanted, 0x80 ≤ range.first := by
      rcases lead?_cases hlead with ⟨-, rfl⟩ | ⟨hranges, -⟩
      · simp
      · exact hranges
    rw [continuation_append_cons hbyte hwanted]
    rcases continuation bits wanted bytes with ⟨_ | code, after⟩ <;> rfl

/-- A byte of ASCII is a character. -/
theorem take_ascii {byte : UInt8} (hbyte : byte < 0x80) (rest : List UInt8) :
    take byte rest = (Char.ofNat byte.toNat, rest) := by
  have hsmall : byte.toNat ≤ 0x7F := Nat.le_of_lt_succ (UInt8.lt_iff_toNat_lt.mp hbyte)
  simp [take, lead?, hsmall, continuation]

/-- Decoding starts afresh at a byte of ASCII, whatever is in front of it. -/
theorem decode_append_cons {byte : UInt8} (hbyte : byte < 0x80) (bytes rest : List UInt8) :
    decode (bytes ++ byte :: rest) = decode bytes ++ decode (byte :: rest) := by
  induction bytes using decode.induct with
  | case1 => simp
  | case2 first bytes read ih =>
      rw [List.cons_append, decode_cons first, decode_cons first, take_append_cons hbyte]
      simpa using ih

/-! ## Characters of ASCII in a text -/

theorem continuation_suffix (bits : Nat) (wanted : List ByteRange) (bytes : List UInt8) :
    (continuation bits wanted bytes).2 <:+ bytes := by
  fun_induction continuation bits wanted bytes with
  | case1 => exact List.suffix_rfl
  | case2 => exact List.suffix_rfl
  | case3 bits range wanted byte rest _ ih => exact ih.trans (List.suffix_cons _ _)
  | case4 => exact List.suffix_rfl

theorem take_suffix (byte : UInt8) (rest : List UInt8) : (take byte rest).2 <:+ rest := by
  unfold take
  split
  · exact List.suffix_rfl
  · rename_i bits wanted _
    have hrest := continuation_suffix bits wanted rest
    split <;> simp_all

theorem leastCode_le_of_continuation {bits code : Nat} {wanted : List ByteRange}
    {bytes rest : List UInt8} (h : continuation bits wanted bytes = (some code, rest)) :
    leastCode bits wanted ≤ code := by
  fun_induction continuation bits wanted bytes with
  | case1 => simp_all [leastCode]
  | case2 => simp at h
  | case3 bits range wanted byte bytes hcontains ih =>
      have hfirst : range.first.toNat ≤ byte.toNat := by
        simp only [ByteRange.contains, Bool.and_eq_true, decide_eq_true_eq] at hcontains
        exact UInt8.le_iff_toNat_le.mp hcontains.1
      have hmono : leastCode (bits * 64 + (range.first.toNat - 0x80)) wanted ≤
          leastCode (bits * 64 + (byte.toNat - 0x80)) wanted := by
        apply leastCode_mono
        omega
      rw [leastCode_cons]
      exact Nat.le_trans hmono (ih h)
  | case4 => simp at h

/-- The code of a character is the only one read as it, but for the one that stands for no
character. -/
theorem eq_of_ofNat_eq {code : Nat} {c : Char} (hne : c ≠ '\x00') (h : Char.ofNat code = c) :
    code = c.toNat := by
  by_cases hvalid : code.isValidChar
  · have hchar : Char.ofNat code = Char.ofNatAux code hvalid := dif_pos hvalid
    exact congrArg Char.toNat (hchar.symm.trans h)
  · have hnone : Char.ofNat code = '\x00' := dif_neg hvalid
    exact absurd (hnone.symm.trans h).symm hne

/-- Only its own byte is read as a character of ASCII. -/
theorem toNat_eq_of_take {byte : UInt8} {rest : List UInt8} {c : Char} (hne : c ≠ '\x00')
    (hc : c.toNat < 0x80) (h : (take byte rest).1 = c) : byte.toNat = c.toNat := by
  by_cases hbyte : byte < 0x80
  · rw [take_ascii hbyte] at h
    exact eq_of_ofNat_eq hne h
  · have hlarge : 0x80 ≤ byte.toNat := by
      simpa using UInt8.le_iff_toNat_le.mp (UInt8.not_lt.mp hbyte)
    have hreplacement : replacement ≠ c := by
      rintro rfl
      exact absurd hc (by decide)
    unfold take at h
    split at h
    · exact absurd h hreplacement
    · rename_i bits wanted hlead
      have hleast : 0x80 ≤ leastCode bits wanted := by
        rcases lead?_cases hlead with ⟨hsmall, -⟩ | ⟨-, hleast⟩
        · omega
        · exact hleast
      split at h
      · rename_i code after hcode
        have hcode := leastCode_le_of_continuation hcode
        have hsame := eq_of_ofNat_eq hne h
        omega
      · exact absurd h hreplacement

/-- A character of ASCII in the text is its byte in the bytes. -/
theorem mem_of_mem_decode {bytes : List UInt8} {c : Char} (hne : c ≠ '\x00')
    (hc : c.toNat < 0x80) (h : c ∈ decode bytes) : UInt8.ofNat c.toNat ∈ bytes := by
  induction bytes using decode.induct with
  | case1 => simp at h
  | case2 byte rest read ih =>
      rw [decode_cons, List.mem_cons] at h
      rcases h with hfirst | hrest
      · rw [← toNat_eq_of_take hne hc hfirst.symm, UInt8.ofNat_toNat]
        exact List.mem_cons_self
      · exact List.mem_cons_of_mem _ ((take_suffix byte rest).mem (ih hrest))

/-! ## Texts of ASCII -/

/-- A text of ASCII is encoded as the codes of its characters. -/
theorem encode_ascii {text : String} (h : ∀ c ∈ text.toList, c.toNat < 0x80) :
    encode text = text.toList.map fun c => UInt8.ofNat c.toNat := by
  have heach : ∀ c ∈ text.toList, String.utf8EncodeChar c = [UInt8.ofNat c.toNat] := by
    intro c hmem
    have hcode : c.toNat < 0x80 := h c hmem
    have hsize : c.utf8Size = 1 := by
      rw [Char.utf8Size_eq_one_iff, UInt32.le_iff_toNat_le]
      exact Nat.le_of_lt_succ hcode
    exact String.utf8EncodeChar_eq_singleton hsize
  rw [encode, List.flatMap_def, List.map_congr_left heach, ← List.flatMap_def, List.map_eq_flatMap]

end DeviceConsole.Utf8
