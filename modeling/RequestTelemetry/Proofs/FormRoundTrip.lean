import RequestTelemetry.Proofs.Utf8
import RequestTelemetry.Url.Form

/-!
# Pairs survive form encoding

Reading the pairs that were written gives them back, whatever their names and values hold. An octet
is written as itself, as a plus sign or as a percent sign with two digits, and each of the three
reads back as the octet no matter what follows. What is written of a name or a value holds neither
an ampersand nor an equals sign, so the text falls apart again where it was put together. The
octets are UTF-8 of a text, so no replacement character comes in.
-/

namespace RequestTelemetry.Url

open Http

/-- What holds of the 256 octets by their numbers holds of every octet. -/
@[elab_as_elim]
theorem forall_octet {P : UInt8 → Prop} (h : ∀ n < 256, P (UInt8.ofNat n)) (b : UInt8) : P b := by
  have hb := h b.toNat b.toNat_lt_size
  rwa [UInt8.ofNat_toNat] at hb

/-! ## Percent signs -/

theorem digitValue?_upperDigit : ∀ n < 16, digitValue? (upperDigit n) = some n := by
  decide +kernel

/-- Whether a character can stand in form-encoded text beside the separators. -/
def isFormChar (c : Char) : Bool :=
  c.toNat < 128 && (c.isAlphanum || ['*', '-', '.', '_', '+', '%'].contains c)

theorem octets_cons_of_ne {c : Char} (hc : c ≠ '%') (rest : List Char) :
    octets (c :: rest) = String.utf8EncodeChar c ++ octets rest := by
  rw [octets]
  intro a b tail heq
  exact absurd heq hc

/-- An escaped octet reads back. -/
theorem octets_escapeOctet (b : UInt8) (rest : List Char) :
    octets (escapeOctet b ++ rest) = b :: octets rest := by
  have hb : b.toNat < 256 := b.toNat_lt_size
  have hvalue : (b.toNat / 16 * 16 + b.toNat % 16).toUInt8 = b := by
    rw [Nat.div_add_mod']
    exact UInt8.ofNat_toNat
  rw [escapeOctet, List.cons_append, List.cons_append, List.cons_append, List.nil_append, octets,
    digitValue?_upperDigit _ (by omega), digitValue?_upperDigit _ (Nat.mod_lt _ (by decide))]
  simp only [hvalue]

namespace Form

/-! ## Octets -/

/-- A character with a plus sign turned into a space. -/
def unplus (c : Char) : Char := if c = '+' then ' ' else c

theorem isFormChar_of_mem_writeOctet (b : UInt8) : ∀ c ∈ writeOctet b, isFormChar c = true := by
  have hall : (writeOctet b).all isFormChar = true := forall_octet (by decide +kernel) b
  exact List.all_eq_true.mp hall

theorem map_unplus_escapeOctet (b : UInt8) : (escapeOctet b).map unplus = escapeOctet b :=
  forall_octet (by decide +kernel) b

/-- An octet that is written as itself is an ASCII character without a meaning of its own. -/
theorem plain_octet (b : UInt8) : isPlain b = true →
    toChar b ≠ '+' ∧ toChar b ≠ '%' ∧ String.utf8EncodeChar (toChar b) = [b] :=
  forall_octet (by decide +kernel) b

/-- A written octet reads back, whatever follows. -/
theorem octets_writeOctet (b : UInt8) (rest : List Char) :
    octets ((writeOctet b).map unplus ++ rest) = b :: octets rest := by
  rw [writeOctet]
  by_cases hplain : isPlain b = true
  · obtain ⟨hplus, hpercent, hutf8⟩ := plain_octet b hplain
    rw [if_pos hplain, List.map_cons, List.map_nil, unplus, if_neg hplus, List.cons_append,
      octets_cons_of_ne hpercent, hutf8]
    rfl
  · rw [if_neg hplain]
    by_cases hspace : b = 0x20
    · rw [if_pos hspace, hspace, List.map_cons, List.map_nil, unplus, if_pos rfl,
        List.cons_append, octets_cons_of_ne (by decide)]
      rfl
    · rw [if_neg hspace, map_unplus_escapeOctet, octets_escapeOctet]

theorem octets_writeOctets (bs : Bytes) : octets ((bs.flatMap writeOctet).map unplus) = bs := by
  induction bs with
  | nil => rfl
  | cons b bs ih => rw [List.flatMap_cons, List.map_append, octets_writeOctet, ih]

/-! ## Names and values -/

/-- A name or a value reads back. -/
theorem read_write (s : String) : read (write s) = s := by
  rw [read, write]
  exact (congrArg Utf8.lossy (octets_writeOctets (Utf8.encode s))).trans (Utf8.lossy_encode s)

theorem isFormChar_of_mem_write (s : String) : ∀ c ∈ write s, isFormChar c = true := by
  intro c hc
  obtain ⟨b, -, hcb⟩ := List.mem_flatMap.mp hc
  exact isFormChar_of_mem_writeOctet b c hcb

theorem write_ne {s : String} {c d : Char} (hc : c ∈ write s) (hd : isFormChar d = false) :
    c ≠ d := by
  rintro rfl
  exact Bool.false_ne_true (hd.symm.trans (isFormChar_of_mem_write s c hc))

/-! ## Pairs -/

/-- A pair reads back: the first equals sign is the one between name and value. -/
theorem readPair_writePair (p : String × String) : readPair (writePair p) = p := by
  -- a name is written without equals signs
  have hname : ∀ c ∈ write p.1, decide (c ≠ '=') = true :=
    fun c hc ↦ decide_eq_true (write_ne hc (by decide))
  rw [readPair, writePair, List.takeWhile_append_of_pos hname, List.dropWhile_append_of_pos hname,
    List.takeWhile_cons_of_neg (by decide), List.dropWhile_cons_of_neg (by decide),
    List.append_nil, List.drop_one, List.tail_cons, read_write, read_write]

theorem amp_not_mem_writePair (p : String × String) : '&' ∉ writePair p := by
  intro h
  rcases List.mem_append.mp h with hname | hrest
  · exact write_ne hname (by decide) rfl
  · rcases List.mem_cons.mp hrest with heq | hvalue
    · exact absurd heq (by decide)
    · exact write_ne hvalue (by decide) rfl

theorem stretches_append_amp {cs : List Char} (h : '&' ∉ cs) (rest : List Char) :
    stretches (cs ++ '&' :: rest) = cs :: stretches rest := by
  induction cs with
  | nil => rw [List.nil_append, stretches, if_pos rfl]
  | cons c cs ih =>
    rw [List.mem_cons, not_or] at h
    rw [List.cons_append, stretches, if_neg (Ne.symm h.1), ih h.2]

theorem stretches_eq_singleton {cs : List Char} (h : '&' ∉ cs) : stretches cs = [cs] := by
  induction cs with
  | nil => rfl
  | cons c cs ih =>
    rw [List.mem_cons, not_or] at h
    rw [stretches, if_neg (Ne.symm h.1), ih h.2]

theorem readPairs_of_stretches {cs : List Char} {rest : List (List Char)} (p : String × String)
    (h : stretches cs = writePair p :: rest) :
    readPairs cs = p :: (rest.filter (!·.isEmpty)).map readPair := by
  -- reading skips empty stretches, but a pair has at least its equals sign
  have hne : (!(writePair p).isEmpty) = true := by
    rw [writePair]
    cases write p.1 <;> rfl
  rw [readPairs, h, List.filter_cons, if_pos hne, List.map_cons, readPair_writePair]

/-- **Form encoding.** Pairs read back as they were written. -/
theorem readPairs_writePairs (ps : List (String × String)) : readPairs (writePairs ps) = ps := by
  induction ps with
  | nil => rfl
  | cons p ps ih =>
    cases ps with
    | nil => exact readPairs_of_stretches p (stretches_eq_singleton (amp_not_mem_writePair p))
    | cons q ps =>
      rw [writePairs, readPairs_of_stretches p (stretches_append_amp (amp_not_mem_writePair p) _)]
      exact congrArg (p :: ·) ih

end Form
end RequestTelemetry.Url
