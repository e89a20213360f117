import Mathlib.Algebra.Group.Nat.Defs
import RequestTelemetry.Text.Utf8

/-!
# UTF-8 keeps the order of texts

Texts that are ordered by the numbers of their characters are ordered by their octets in the same
way. The octets of a character are the digits of its number to the base 64, the highest first, so
that characters of one length compare as their numbers do; and the first octet of a longer character
is above all those of shorter ones.
-/

namespace RequestTelemetry.Utf8

theorem toNat_val_lt (c : Char) : c.val.toNat < 0x110000 := by
  rcases c.valid with hc | hc
  · exact Nat.lt_trans hc (by decide)
  · exact hc.2

/-! ## The octets of a character as digits -/

/-- The last octets of a character, which carry the last digits of its number to the base 64. -/
def lastOctets : Nat → Nat → Bytes
  | 0, _ => []
  | k + 1, v => lastOctets k (v / 64) ++ [UInt8.ofNat (v % 64 + 0x80)]

/-- The octets of a character, by the size of its number. -/
theorem utf8EncodeChar_eq (c : Char) :
    String.utf8EncodeChar c =
      if c.val.toNat ≤ 0x7F then UInt8.ofNat (c.val.toNat / 64 ^ 0 + 0) :: lastOctets 0 c.val.toNat
      else if c.val.toNat ≤ 0x7FF then
        UInt8.ofNat (c.val.toNat / 64 ^ 1 + 0xC0) :: lastOctets 1 c.val.toNat
      else if c.val.toNat ≤ 0xFFFF then
        UInt8.ofNat (c.val.toNat / 64 ^ 2 + 0xE0) :: lastOctets 2 c.val.toNat
      else UInt8.ofNat (c.val.toNat / 64 ^ 3 + 0xF0) :: lastOctets 3 c.val.toNat := by
  have hmax := toNat_val_lt c
  rw [String.utf8EncodeChar]
  generalize c.val.toNat = v at hmax
  simp only [lastOctets, Nat.div_div_eq_div_mul, List.nil_append, List.cons_append, Nat.reduceMul,
    Nat.reducePow]
  split
  · simp
  split
  · rw [Nat.mod_eq_of_lt (by omega : v / 64 < 0x20)]
  split
  · rw [Nat.mod_eq_of_lt (by omega : v / 4096 < 0x10)]
  · rw [Nat.mod_eq_of_lt (by omega : v / 262144 < 0x08)]

theorem ofNat_cons_lt {m n : Nat} (hn : n < 256) {xs ys : Bytes} (h : m < n ∨ m = n ∧ xs < ys) :
    UInt8.ofNat m :: xs < UInt8.ofNat n :: ys := by
  rw [List.cons_lt_cons_iff]
  rcases h with hlt | ⟨rfl, hrest⟩
  · left
    rw [UInt8.lt_iff_toNat_lt, UInt8.toNat_ofNat', UInt8.toNat_ofNat']
    omega
  · exact .inr ⟨rfl, hrest⟩

/-- If the digits before the last `k` are equal, these decide. -/
theorem lastOctets_append_lt (k : Nat) {v w : Nat} (hlt : v < w) (heq : v / 64 ^ k = w / 64 ^ k)
    (xs ys : Bytes) : lastOctets k v ++ xs < lastOctets k w ++ ys := by
  induction k generalizing v w xs ys with
  | zero =>
    rw [Nat.pow_zero, Nat.div_one, Nat.div_one] at heq
    exact absurd heq (Nat.ne_of_lt hlt)
  | succ k ih =>
    rw [lastOctets, lastOctets, List.append_assoc, List.append_assoc]
    rcases Nat.lt_or_ge (v / 64) (w / 64) with hhigh | hhigh
    · apply ih hhigh
      rwa [Nat.div_div_eq_div_mul, Nat.div_div_eq_div_mul, ← Nat.pow_succ']
    · -- only the very last digit differs
      rw [Nat.le_antisymm (Nat.div_le_div_right (Nat.le_of_lt hlt)) hhigh]
      exact List.append_left_lt (ofNat_cons_lt (by omega) (.inl (by omega)))

/-- Characters of one length compare as their numbers do. -/
theorem octets_append_lt (k first : Nat) {v w : Nat} (hlt : v < w)
    (hmax : w / 64 ^ k + first < 256) (xs ys : Bytes) :
    UInt8.ofNat (v / 64 ^ k + first) :: lastOctets k v ++ xs
      < UInt8.ofNat (w / 64 ^ k + first) :: lastOctets k w ++ ys := by
  apply ofNat_cons_lt hmax
  rcases Nat.lt_or_eq_of_le (Nat.div_le_div_right (c := 64 ^ k) (Nat.le_of_lt hlt)) with hhigh | heq
  · exact .inl (Nat.add_lt_add_right hhigh first)
  · exact .inr ⟨congrArg (· + first) heq, lastOctets_append_lt k hlt heq xs ys⟩

/-! ## The order of texts -/

theorem utf8EncodeChar_append_lt {c d : Char} (h : c < d) (xs ys : Bytes) :
    String.utf8EncodeChar c ++ xs < String.utf8EncodeChar d ++ ys := by
  have hlt : c.val.toNat < d.val.toNat := UInt32.lt_iff_toNat_lt.mp h
  have hmax := toNat_val_lt d
  rw [utf8EncodeChar_eq, utf8EncodeChar_eq]
  generalize c.val.toNat = v at hlt
  generalize d.val.toNat = w at hlt hmax
  -- by the length of the greater character; a shorter one has a smaller first octet
  by_cases h₁ : w ≤ 0x7F
  · rw [if_pos h₁, if_pos (by omega)]
    exact octets_append_lt 0 0 hlt (by omega) xs ys
  rw [if_neg h₁]
  by_cases h₂ : w ≤ 0x7FF
  · rw [if_pos h₂]
    split
    · exact ofNat_cons_lt (by omega) (.inl (by omega))
    rw [if_pos (by omega)]
    exact octets_append_lt 1 0xC0 hlt (by omega) xs ys
  rw [if_neg h₂]
  by_cases h₃ : w ≤ 0xFFFF
  · rw [if_pos h₃]
    split
    · exact ofNat_cons_lt (by omega) (.inl (by omega))
    split
    · exact ofNat_cons_lt (by omega) (.inl (by omega))
    rw [if_pos (by omega)]
    exact octets_append_lt 2 0xE0 hlt (by omega) xs ys
  · rw [if_neg h₃]
    split
    · exact ofNat_cons_lt (by omega) (.inl (by omega))
    split
    · exact ofNat_cons_lt (by omega) (.inl (by omega))
    split
    · exact ofNat_cons_lt (by omega) (.inl (by omega))
    · exact octets_append_lt 3 0xF0 hlt (by omega) xs ys

theorem encodeChars_lt {cs ds : List Char} (h : cs < ds) : encodeChars cs < encodeChars ds := by
  induction ds generalizing cs with
  | nil => exact absurd h (List.not_lt_nil cs)
  | cons d ds ih =>
    rcases cs with _ | ⟨c, cs⟩
    · obtain ⟨b, rest, hd⟩ := List.ne_nil_iff_exists_cons.mp (String.utf8EncodeChar_ne_nil (c := d))
      rw [encodeChars, encodeChars, List.flatMap_nil, List.flatMap_cons, hd]
      exact List.nil_lt_cons b _
    · rw [encodeChars, encodeChars, List.flatMap_cons, List.flatMap_cons]
      rcases List.cons_lt_cons_iff.mp h with hlt | ⟨rfl, hrest⟩
      · exact utf8EncodeChar_append_lt hlt _ _
      · exact List.append_left_lt (ih hrest)

/-- **UTF-8 keeps the order of texts.** -/
theorem encode_lt {a b : String} (h : a < b) : encode a < encode b := encodeChars_lt h

end RequestTelemetry.Utf8
