import RequestTelemetry.Text.Utf8

/-!
# Texts survive UTF-8

The decoder reads what the encoder writes. One character at a time: the first octet says how many
follow and in which range the next one lies, and the octets that follow carry six bits each. That
the ranges admit them is where the encoder's choice of the shortest form, and the gap of the
surrogates, are needed.
-/

namespace RequestTelemetry.Utf8

/-! ## First octets -/

theorem opening_one : ∀ n < 0x80, opening (UInt8.ofNat n) = .whole (Char.ofNat n) := by
  decide +kernel

theorem opening_two : ∀ n < 0x20, 2 ≤ n →
    opening (UInt8.ofNat (n + 0xC0)) = .opens ⟨n, 0, 0x80, 0xBF⟩ := by
  decide +kernel

/-- The range after the first octet leaves out what two octets can write, and the surrogates. -/
theorem opening_three : ∀ n < 0x10, opening (UInt8.ofNat (n + 0xE0)) =
    .opens ⟨n, 1, if n = 0 then 0xA0 else 0x80, if n = 0x0D then 0x9F else 0xBF⟩ := by
  decide +kernel

/-- The range after the first octet leaves out what three octets can write, and what is above
U+10FFFF. -/
theorem opening_four : ∀ n < 5, opening (UInt8.ofNat (n + 0xF0)) =
    .opens ⟨n, 2, if n = 0 then 0x90 else 0x80, if n = 4 then 0x8F else 0xBF⟩ := by
  decide +kernel

/-! ## Later octets -/

theorem tail_bits : ∀ n < 0x40, (UInt8.ofNat (n + 0x80) &&& 0x3F).toNat = n := by
  decide +kernel

theorem toNat_tail {n : Nat} (hn : n < 0x40) : (UInt8.ofNat (n + 0x80)).toNat = n + 0x80 := by
  rw [UInt8.toNat_ofNat']
  omega

section Push

variable {read : List (Option Char)} {bits n : Nat} {low high : UInt8}

/-- An octet in range adds its six bits. -/
theorem push_in_range (owed : Nat) (hn : n < 0x40) (hlow : low.toNat ≤ n + 0x80)
    (hhigh : n + 0x80 ≤ high.toNat) :
    (Decoder.mk read (some ⟨bits, owed, low, high⟩)).push (UInt8.ofNat (n + 0x80)) =
      match owed with
      | 0 => ⟨some (Char.ofNat (bits * 64 + n)) :: read, none⟩
      | k + 1 => ⟨read, some ⟨bits * 64 + n, k, 0x80, 0xBF⟩⟩ := by
  have hrange : low ≤ UInt8.ofNat (n + 0x80) ∧ UInt8.ofNat (n + 0x80) ≤ high := by
    rw [UInt8.le_iff_toNat_le, UInt8.le_iff_toNat_le, toNat_tail hn]
    exact ⟨hlow, hhigh⟩
  cases owed with
  | zero =>
    rw [Decoder.push]
    simp only [if_pos hrange, tail_bits n hn]
  | succ k =>
    rw [Decoder.push]
    simp only [if_pos hrange, tail_bits n hn]

/-- The last octet of a character. -/
theorem push_last (hn : n < 0x40) :
    (Decoder.mk read (some ⟨bits, 0, 0x80, 0xBF⟩)).push (UInt8.ofNat (n + 0x80))
      = ⟨some (Char.ofNat (bits * 64 + n)) :: read, none⟩ :=
  push_in_range 0 hn (Nat.le_add_left _ _) (Nat.add_le_add_right (Nat.le_of_lt_succ hn) _)

/-- An octet in the middle of a character. -/
theorem push_middle (owed : Nat) (hn : n < 0x40) :
    (Decoder.mk read (some ⟨bits, owed + 1, 0x80, 0xBF⟩)).push (UInt8.ofNat (n + 0x80))
      = ⟨read, some ⟨bits * 64 + n, owed, 0x80, 0xBF⟩⟩ :=
  push_in_range (owed + 1) hn (Nat.le_add_left _ _)
    (Nat.add_le_add_right (Nat.le_of_lt_succ hn) _)

end Push

/-! ## Whole characters -/

theorem foldl_push_char (read : List (Option Char)) (c : Char) :
    (String.utf8EncodeChar c).foldl Decoder.push ⟨read, none⟩ = ⟨some c :: read, none⟩ := by
  have hc : Char.ofNat c.val.toNat = c := Char.ofNat_toNat c
  have hvalid : c.val.toNat < 0xD800 ∨ 0xDFFF < c.val.toNat ∧ c.val.toNat < 0x110000 := c.valid
  have hstart : ∀ b, (Decoder.mk read none).push b = Decoder.start read b := fun _ ↦ rfl
  rw [String.utf8EncodeChar]
  -- one case for each length; in each the pieces of the number add up to it again
  generalize c.val.toNat = v at hc hvalid
  by_cases h₁ : v ≤ 0x7F
  · rw [if_pos h₁, List.foldl_cons, List.foldl_nil, hstart, Decoder.start,
      opening_one v (Nat.lt_succ_of_le h₁)]
    simp only [hc]
  rw [if_neg h₁]
  by_cases h₂ : v ≤ 0x7FF
  · have hv : v / 64 % 0x20 * 64 + v % 0x40 = v := by omega
    rw [if_pos h₂, List.foldl_cons, hstart, Decoder.start,
      opening_two _ (Nat.mod_lt _ (by decide)) (by omega), List.foldl_cons, List.foldl_nil,
      push_last (Nat.mod_lt _ (by decide)), hv, hc]
  rw [if_neg h₂]
  by_cases h₃ : v ≤ 0xFFFF
  · have hv : (v / 4096 % 0x10 * 64 + v / 64 % 0x40) * 64 + v % 0x40 = v := by omega
    rw [if_pos h₃, List.foldl_cons, hstart, Decoder.start,
      opening_three _ (Nat.mod_lt _ (by decide)), List.foldl_cons, List.foldl_cons, List.foldl_nil]
    simp only
    -- the second octet is in range: the form is the shortest, and no surrogate is written
    rw [push_in_range 1 (Nat.mod_lt _ (by decide)), push_last (Nat.mod_lt _ (by decide)), hv, hc]
    · split
      · show 0xA0 ≤ _
        omega
      · exact Nat.le_add_left _ _
    · split
      · show _ ≤ 0x9F
        omega
      · show _ ≤ 0xBF
        omega
  · have hv : ((v / 262144 % 0x08 * 64 + v / 4096 % 0x40) * 64 + v / 64 % 0x40) * 64 + v % 0x40
        = v := by omega
    rw [if_neg h₃, List.foldl_cons, hstart, Decoder.start, opening_four _ (by omega),
      List.foldl_cons, List.foldl_cons, List.foldl_cons, List.foldl_nil]
    simp only
    rw [push_in_range 2 (Nat.mod_lt _ (by decide)), push_middle 0 (Nat.mod_lt _ (by decide)),
      push_last (Nat.mod_lt _ (by decide)), hv, hc]
    · split
      · show 0x90 ≤ _
        omega
      · exact Nat.le_add_left _ _
    · split
      · show _ ≤ 0x8F
        omega
      · show _ ≤ 0xBF
        omega

/-! ## Texts -/

theorem foldl_push_chars (read : List (Option Char)) (cs : List Char) :
    (encodeChars cs).foldl Decoder.push ⟨read, none⟩ = ⟨(cs.map some).reverse ++ read, none⟩ := by
  induction cs generalizing read with
  | nil => rfl
  | cons c cs ih =>
    rw [encodeChars, List.flatMap_cons, List.foldl_append, foldl_push_char, ← encodeChars, ih,
      List.map_cons, List.reverse_cons, List.append_assoc]
    rfl

/-- Decoding what was encoded gives the characters, and no ill-formed stretch. -/
theorem units_encodeChars (cs : List Char) : units (encodeChars cs) = cs.map some := by
  rw [units, foldl_push_chars, Decoder.finish]
  simp

theorem lossyChars_encodeChars (cs : List Char) : lossyChars (encodeChars cs) = cs := by
  rw [lossyChars, units_encodeChars, List.map_map]
  exact List.map_id _

/-- A text survives encoding and decoding with replacement characters. -/
theorem lossy_encode (s : String) : lossy (encode s) = s := by
  rw [lossy, encode, lossyChars_encodeChars, String.ofList_toList]

theorem decodeChars?_encodeChars (cs : List Char) : decodeChars? (encodeChars cs) = some cs := by
  rw [decodeChars?, units_encodeChars]
  simp

end RequestTelemetry.Utf8
