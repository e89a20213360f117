import Mathlib.Algebra.Group.Nat.Defs
import RequestTelemetry.Proofs.Utf8

/-!
# The decoder finds its place again

UTF-8 synchronises itself. The first octet of a character is none that goes on with another, so a
character that was cut short ends where a whole one starts, and the whole one is read as if nothing
had stood before it. Hence a well-formed text takes the octets apart in which it stands: what comes
before it and what comes after it decode as they do alone, also if they are ill-formed.

An ASCII character, the other way round, is read from its own octet only. The longer forms stand for
greater numbers, and overlong ones are not read.
-/

namespace RequestTelemetry.Utf8

/-! ## What is pending -/

/-- The least number that a pending character can still have. -/
def Pending.least (p : Pending) : Nat := (p.bits * 64 + (p.low.toNat - 0x80)) * 64 ^ p.owed

/-- A pending character waits for an octet that starts none, and it is beyond ASCII. -/
structure Pending.IsSound (p : Pending) : Prop where
  low : 0x80 ≤ p.low.toNat
  high : p.high.toNat ≤ 0xBF
  beyond : 0x80 ≤ p.least

instance (p : Pending) : Decidable p.IsSound :=
  decidable_of_iff (0x80 ≤ p.low.toNat ∧ p.high.toNat ≤ 0xBF ∧ 0x80 ≤ p.least)
    ⟨fun ⟨hlow, hhigh, hbeyond⟩ ↦ ⟨hlow, hhigh, hbeyond⟩, fun h ↦ ⟨h.low, h.high, h.beyond⟩⟩

/-- The six bits of an octet that goes on with a character. -/
theorem toNat_sixBits {b : UInt8} (hlow : 0x80 ≤ b.toNat) (hhigh : b.toNat ≤ 0xBF) :
    (b &&& 0x3F).toNat = b.toNat - 0x80 := by
  have hb : UInt8.ofNat (b.toNat - 0x80 + 0x80) = b := by
    rw [Nat.sub_add_cancel hlow, UInt8.ofNat_toNat]
  have hbits := tail_bits (b.toNat - 0x80) (by omega)
  rwa [hb] at hbits

/-- With an octet in range the least number does not shrink. -/
theorem Pending.IsSound.least_le {p : Pending} (hp : p.IsSound) {b : UInt8} (hlow : p.low ≤ b)
    (hhigh : b ≤ p.high) : p.least ≤ (p.bits * 64 + (b &&& 0x3F).toNat) * 64 ^ p.owed := by
  have hfrom : p.low.toNat ≤ b.toNat := UInt8.le_iff_toNat_le.mp hlow
  have hto : b.toNat ≤ p.high.toNat := UInt8.le_iff_toNat_le.mp hhigh
  rw [toNat_sixBits (Nat.le_trans hp.low hfrom) (Nat.le_trans hto hp.high), Pending.least]
  exact Nat.mul_le_mul_right _ (Nat.add_le_add_left (Nat.sub_le_sub_right hfrom _) _)

namespace Decoder

/-- What is pending is sound. -/
def IsSound (d : Decoder) : Prop := ∀ p ∈ d.pending, p.IsSound

theorem isSound_between (read : List (Option Char)) : IsSound ⟨read, none⟩ :=
  fun p h ↦ absurd h.symm (Option.some_ne_none p)

theorem isSound_start (read : List (Option Char)) (b : UInt8) : (start read b).IsSound := by
  have hall : ∀ n < 256, ∀ p ∈ (start [] (UInt8.ofNat n)).pending, p.IsSound := by decide +kernel
  have hstart : ∀ p ∈ (start [] b).pending, p.IsSound := by
    have hb := hall b.toNat b.toNat_lt_size
    rwa [UInt8.ofNat_toNat] at hb
  have hpending : (start read b).pending = (start [] b).pending := by
    rw [start, start]
    cases opening b <;> rfl
  rw [IsSound, hpending]
  exact hstart

theorem IsSound.push {d : Decoder} (hd : d.IsSound) (b : UInt8) : (d.push b).IsSound := by
  obtain ⟨read, _ | p⟩ := d
  · exact isSound_start read b
  · have hp : p.IsSound := hd p rfl
    rw [Decoder.push]
    by_cases hrange : p.low ≤ b ∧ b ≤ p.high
    · have hleast := hp.least_le hrange.1 hrange.2
      simp only [if_pos hrange]
      obtain ⟨bits, _ | owed, low, high⟩ := p
      · exact isSound_between _
      · rintro q ⟨⟩
        refine ⟨Nat.le_refl _, Nat.le_refl _, ?_⟩
        refine Nat.le_trans hp.beyond (Nat.le_trans hleast (Nat.le_of_eq ?_))
        simp only [Pending.least, Nat.pow_succ]
        rw [Nat.mul_comm (64 ^ owed) 64, ← Nat.mul_assoc]
        rfl
    · simp only [if_neg hrange]
      exact isSound_start _ b

theorem IsSound.foldl {d : Decoder} (hd : d.IsSound) (bs : Bytes) :
    (bs.foldl Decoder.push d).IsSound := by
  induction bs generalizing d with
  | nil => exact hd
  | cons b bs ih => exact ih (hd.push b)

/-! ## Where a character starts -/

/-- An octet that starts a character ends what is pending. -/
theorem IsSound.push_of_starts {d : Decoder} (hd : d.IsSound) {b : UInt8}
    (hb : b.toNat < 0x80 ∨ 0xBF < b.toNat) :
    d.push b = Decoder.push ⟨d.finish.reverse, none⟩ b := by
  obtain ⟨read, _ | p⟩ := d
  · simp [finish]
  · have hp : p.IsSound := hd p rfl
    have hrange : ¬(p.low ≤ b ∧ b ≤ p.high) := by
      rintro ⟨hlow, hhigh⟩
      have hfrom := Nat.le_trans hp.low (UInt8.le_iff_toNat_le.mp hlow)
      have hto := Nat.le_trans (UInt8.le_iff_toNat_le.mp hhigh) hp.high
      omega
    simp [Decoder.push, hrange, finish]

end Decoder

theorem exists_utf8EncodeChar_eq_cons (c : Char) :
    ∃ b rest, String.utf8EncodeChar c = b :: rest ∧ (b.toNat < 0x80 ∨ 0xBF < b.toNat) := by
  have hvalid : c.val.toNat < 0xD800 ∨ 0xDFFF < c.val.toNat ∧ c.val.toNat < 0x110000 := c.valid
  rw [String.utf8EncodeChar]
  generalize c.val.toNat = v at hvalid
  by_cases h₁ : v ≤ 0x7F
  · rw [if_pos h₁]
    exact ⟨_, _, rfl, .inl (by rw [UInt8.toNat_ofNat']; omega)⟩
  rw [if_neg h₁]
  by_cases h₂ : v ≤ 0x7FF
  · rw [if_pos h₂]
    exact ⟨_, _, rfl, .inr (by rw [UInt8.toNat_ofNat']; omega)⟩
  rw [if_neg h₂]
  by_cases h₃ : v ≤ 0xFFFF
  · rw [if_pos h₃]
    exact ⟨_, _, rfl, .inr (by rw [UInt8.toNat_ofNat']; omega)⟩
  · rw [if_neg h₃]
    exact ⟨_, _, rfl, .inr (by rw [UInt8.toNat_ofNat']; omega)⟩

/-- A text that follows is read as if what is pending were complete. -/
theorem Decoder.IsSound.foldl_push_encodeChars {d : Decoder} (hd : d.IsSound) {cs : List Char}
    (hne : cs ≠ []) :
    (encodeChars cs).foldl Decoder.push d = ⟨(cs.map some).reverse ++ d.finish.reverse, none⟩ := by
  rw [← foldl_push_chars]
  obtain ⟨c, cs, rfl⟩ := List.exists_cons_of_ne_nil hne
  obtain ⟨b, rest, hc, hb⟩ := exists_utf8EncodeChar_eq_cons c
  have hcons : encodeChars (c :: cs) = b :: (rest ++ encodeChars cs) := by
    rw [encodeChars, List.flatMap_cons, hc, List.cons_append, encodeChars]
  rw [hcons, List.foldl_cons, List.foldl_cons, hd.push_of_starts hb]

/-! ## Octets taken apart -/

/-- A decoder that has read something else before. -/
def Decoder.onto (d : Decoder) (read : List (Option Char)) : Decoder := ⟨d.read ++ read, d.pending⟩

theorem Decoder.push_onto (d : Decoder) (read : List (Option Char)) (b : UInt8) :
    (d.onto read).push b = (d.push b).onto read := by
  have hstart : ∀ read', start (read' ++ read) b = (start read' b).onto read := by
    intro read'
    rw [start, start]
    cases opening b <;> rfl
  obtain ⟨read', _ | p⟩ := d
  · exact hstart read'
  · simp only [onto, push]
    split
    · split <;> rfl
    · exact hstart (none :: read')

theorem Decoder.foldl_push_onto (d : Decoder) (read : List (Option Char)) (bs : Bytes) :
    bs.foldl push (d.onto read) = (bs.foldl push d).onto read := by
  induction bs generalizing d with
  | nil => rfl
  | cons b bs ih => rw [List.foldl_cons, push_onto, ih, List.foldl_cons]

theorem Decoder.finish_onto (d : Decoder) (read : List (Option Char)) :
    (d.onto read).finish = read.reverse ++ d.finish := by
  obtain ⟨read', _ | p⟩ := d <;> simp [onto, finish]

/-- A text in the middle takes octets apart. -/
theorem units_append_encodeChars (bs : Bytes) {cs : List Char} (hne : cs ≠ []) (rest : Bytes) :
    units (bs ++ (encodeChars cs ++ rest)) = units bs ++ (cs.map some ++ units rest) := by
  have hsound : (bs.foldl Decoder.push {}).IsSound := (Decoder.isSound_between []).foldl bs
  have hread : ∀ read : List (Option Char), (⟨read, none⟩ : Decoder) = Decoder.onto {} read :=
    fun _ ↦ rfl
  rw [units, List.foldl_append, List.foldl_append, hsound.foldl_push_encodeChars hne, hread,
    Decoder.foldl_push_onto, Decoder.finish_onto]
  simp [units]

theorem lossyChars_append_encodeChars (bs : Bytes) {cs : List Char} (hne : cs ≠ []) (rest : Bytes) :
    lossyChars (bs ++ (encodeChars cs ++ rest)) = lossyChars bs ++ (cs ++ lossyChars rest) := by
  simp only [lossyChars, units_append_encodeChars bs hne, List.map_append, List.map_map]
  congr 2
  exact List.map_id cs

/-! ## ASCII characters -/

/-- A number is that of its character, or there is no such character and NUL stands for it. -/
theorem toNat_ofNat (n : Nat) : (Char.ofNat n).toNat = n ∨ (Char.ofNat n).toNat = 0 := by
  rw [Char.ofNat]
  by_cases hvalid : n.isValidChar
  · rw [dif_pos hvalid]
    exact .inl rfl
  · rw [dif_neg hvalid]
    exact .inr rfl

section Ascii

variable {c : Char} (hpos : 0 < c.toNat) (hlt : c.toNat < 0x80)

include hpos

theorem Decoder.mem_read_start {read : List (Option Char)} {b : UInt8}
    (h : some c ∈ (start read b).read) : some c ∈ read ∨ UInt8.ofNat c.toNat = b := by
  have hopening : opening b = .whole c → UInt8.ofNat c.toNat = b := by
    intro hwhole
    rw [opening] at hwhole
    split at hwhole
    · obtain rfl := Opening.whole.inj hwhole
      rcases toNat_ofNat b.toNat with hnat | hnat
      · rw [hnat, UInt8.ofNat_toNat]
      · exact absurd hnat (Nat.ne_of_gt hpos)
    · grind
  rw [start] at h
  cases hb : opening b with
  | whole d =>
    rw [hb] at h
    rcases List.mem_cons.mp h with heq | h
    · obtain rfl := Option.some.inj heq
      exact .inr (hopening hb)
    · exact .inl h
  | opens p => exact .inl (by simpa [hb] using h)
  | never => exact .inl (by simpa [hb] using h)

include hlt

theorem Decoder.IsSound.mem_read_push {d : Decoder} (hd : d.IsSound) {b : UInt8}
    (h : some c ∈ (d.push b).read) : some c ∈ d.read ∨ UInt8.ofNat c.toNat = b := by
  obtain ⟨read, _ | p⟩ := d
  · exact mem_read_start hpos h
  · have hp : p.IsSound := hd p rfl
    rw [Decoder.push] at h
    by_cases hrange : p.low ≤ b ∧ b ≤ p.high
    · have hleast := Nat.le_trans hp.beyond (hp.least_le hrange.1 hrange.2)
      simp only [if_pos hrange] at h
      obtain ⟨bits, _ | owed, low, high⟩ := p
      · rcases List.mem_cons.mp h with heq | h
        · -- the number of a longer character is beyond ASCII
          have hnat := toNat_ofNat (bits * 64 + (b &&& 0x3F).toNat)
          rw [← Option.some.inj heq] at hnat
          simp only [Nat.pow_zero, Nat.mul_one] at hleast
          omega
        · exact .inl h
      · exact .inl h
    · simp only [if_neg hrange] at h
      rcases mem_read_start hpos h with h | h
      · exact .inl (by simpa using h)
      · exact .inr h

theorem Decoder.IsSound.mem_read_foldl {d : Decoder} (hd : d.IsSound) {bs : Bytes}
    (h : some c ∈ (bs.foldl Decoder.push d).read) :
    some c ∈ d.read ∨ UInt8.ofNat c.toNat ∈ bs := by
  induction bs generalizing d with
  | nil => exact .inl h
  | cons b bs ih =>
    rcases ih (hd.push b) h with h | h
    · rcases hd.mem_read_push hpos hlt h with h | h
      · exact .inl h
      · exact .inr (h ▸ List.mem_cons_self)
    · exact .inr (List.mem_cons_of_mem b h)

/-- An ASCII character other than NUL is read from its own octet. -/
theorem octet_mem_of_mem_lossyChars {bs : Bytes} (h : c ∈ lossyChars bs) :
    UInt8.ofNat c.toNat ∈ bs := by
  obtain ⟨u, hu, hc⟩ := List.mem_map.mp h
  rcases u with _ | d
  · subst hc
    exact absurd hlt (by decide)
  · obtain rfl : d = c := hc
    have hread : some d ∈ (bs.foldl Decoder.push {}).read := by
      rw [units, Decoder.finish, List.mem_reverse] at hu
      split at hu
      · exact (List.mem_cons.mp hu).resolve_left (Option.some_ne_none d)
      · exact hu
    exact ((Decoder.isSound_between []).mem_read_foldl hpos hlt hread).resolve_left List.not_mem_nil

end Ascii
end RequestTelemetry.Utf8
