import Mathlib.Algebra.Group.Nat.Defs
import Mathlib.Data.List.TakeWhile
import RequestTelemetry.Net.Parser

/-!
# Texts of addresses are read back

The text of an IP address leads back to the address. An octet is read up to a character that is no
digit, and a group up to a character that is no hexadecimal digit, so each lemma on a part of a text
has the rest of the text quantified.

The text of an IPv6 address leaves out the longest run of zero groups. Which run that is does not
matter for reading: `IsGap` says that all groups from a position on are zero for a length, and any
gap of at least one group is filled in again, since the groups on both sides of it are read and
eight are needed in all.
-/

namespace RequestTelemetry.Net

namespace Reader

/-! ## Numbers -/

section Digits

variable {base n : Nat}

theorem digit?_digitChar (hbase : base ≤ 16) (hn : n < base) :
    digit? base n.digitChar = some n := by
  have hsixteen : ∀ m < 16, digit? 16 m.digitChar = some m := by decide
  have h := hsixteen n (Nat.lt_of_lt_of_le hn hbase)
  rw [digit?, Option.filter_eq_some_iff] at h ⊢
  exact ⟨h.1, decide_eq_true hn⟩

/-- What is no digit in the largest base is none in any. -/
theorem digit?_eq_none (hbase : base ≤ 16) {c : Char} (h : digit? 16 c = none) :
    digit? base c = none := by
  rw [digit?, Option.filter_eq_none_iff] at h ⊢
  intro m hm hlt
  exact h m hm (decide_eq_true (Nat.lt_of_lt_of_le (of_decide_eq_true hlt) hbase))

/-- The digits of a number, by their values. -/
def digitValues (base n : Nat) : List Nat := (Nat.toDigits base n).filterMap (digit? base)

theorem isSome_of_mem_toDigits (hone : 1 < base) (hbase : base ≤ 16) {c : Char}
    (hc : c ∈ Nat.toDigits base n) : (digit? base c).isSome = true := by
  induction n using Nat.strongRecOn with
  | ind n ih =>
    have hchar : ∀ m < base, c = m.digitChar → (digit? base c).isSome = true := by
      rintro m hm rfl
      rw [digit?_digitChar hbase hm, Option.isSome_some]
    rw [Nat.toDigits_eq_if hone] at hc
    split at hc
    · next hlt => exact hchar n hlt (List.mem_singleton.mp hc)
    · next hge =>
      rcases List.mem_append.mp hc with hc | hc
      · exact ih (n / base) (Nat.div_lt_self (by omega) hone) hc
      · exact hchar _ (Nat.mod_lt n (by omega)) (List.mem_singleton.mp hc)

/-- The last digit is the remainder, and those before it are the digits of the quotient. -/
theorem digitValues_eq (hone : 1 < base) (hbase : base ≤ 16) :
    digitValues base n =
      if n < base then [n] else digitValues base (n / base) ++ [n % base] := by
  rw [digitValues, Nat.toDigits_eq_if hone]
  split
  · next hlt => rw [List.filterMap_cons, digit?_digitChar hbase hlt, List.filterMap_nil]
  · rw [List.filterMap_append, List.filterMap_cons,
      digit?_digitChar hbase (Nat.mod_lt n (by omega)), List.filterMap_nil, digitValues]

theorem value_digitValues (hone : 1 < base) (hbase : base ≤ 16) :
    value base (digitValues base n) = n := by
  induction n using Nat.strongRecOn with
  | ind n ih =>
    rw [digitValues_eq hone hbase]
    split
    · simp [value]
    · have hquotient := ih (n / base) (Nat.div_lt_self (by omega) hone)
      rw [value, List.foldl_append, ← value, hquotient, List.foldl_cons, List.foldl_nil,
        Nat.div_add_mod']

/-- The first digit is zero only if that is all. -/
theorem exists_digitValues_eq_cons (hone : 1 < base) (hbase : base ≤ 16) (hn : n ≠ 0) :
    ∃ d ds, digitValues base n = (d + 1) :: ds := by
  induction n using Nat.strongRecOn with
  | ind n ih =>
    rw [digitValues_eq hone hbase]
    split
    · exact ⟨n - 1, [], by rw [Nat.sub_add_cancel (Nat.pos_of_ne_zero hn)]⟩
    · next hge =>
      have hquotient : n / base ≠ 0 := by
        rw [Nat.div_ne_zero_iff]
        omega
      obtain ⟨d, ds, h⟩ := ih (n / base) (Nat.div_lt_self (by omega) hone) hquotient
      exact ⟨d, ds ++ [n % base], by rw [h, List.cons_append]⟩

theorem length_digitValues_le (hone : 1 < base) {k : Nat} (hk : 0 < k) (hn : n < base ^ k) :
    (digitValues base n).length ≤ k :=
  (List.length_filterMap_le _ _).trans ((Nat.length_toDigits_le_iff hone hk).mpr hn)

/-- A text starts with no digit. -/
def Stops (base : Nat) (rest : List Char) : Prop := ∀ c, rest.head? = some c → digit? base c = none

theorem stops_nil (base : Nat) : Stops base [] := fun _ h ↦ nomatch h

theorem stops_cons {c : Char} (h : digit? base c = none) (rest : List Char) :
    Stops base (c :: rest) := by
  rintro d hd
  rwa [← Option.some.inj hd]

theorem Stops.takeWhile_eq {rest : List Char} (h : Stops base rest) :
    rest.takeWhile (fun c ↦ (digit? base c).isSome) = [] := by
  cases rest with
  | nil => rfl
  | cons c rest => simp [h c rfl]

theorem Stops.dropWhile_eq {rest : List Char} (h : Stops base rest) :
    rest.dropWhile (fun c ↦ (digit? base c).isSome) = rest := by
  cases rest with
  | nil => rfl
  | cons c rest => simp [h c rfl]

theorem digits_toDigits (hone : 1 < base) (hbase : base ≤ 16) {rest : List Char}
    (hrest : Stops base rest) :
    digits base (Nat.toDigits base n ++ rest) = (digitValues base n, rest) := by
  have hsome : ∀ c ∈ Nat.toDigits base n, (digit? base c).isSome = true :=
    fun c hc ↦ isSome_of_mem_toDigits hone hbase hc
  rw [digits, List.takeWhile_append_of_pos hsome, List.dropWhile_append_of_pos hsome,
    hrest.takeWhile_eq, hrest.dropWhile_eq, List.append_nil, digitValues]

end Digits

/-! ## IPv4 -/

theorem octet?_decimal (b : UInt8) {rest : List Char} (hrest : Stops 10 rest) :
    octet? (decimal b.toNat ++ rest) = some (b, rest) := by
  have hvalue : value 10 (digitValues 10 b.toNat) = b.toNat :=
    value_digitValues (by decide) (by decide)
  have hlength : (digitValues 10 b.toNat).length ≤ 3 :=
    length_digitValues_le (by decide) (by decide) (Nat.lt_trans b.toNat_lt (by decide))
  have hread : (value 10 (digitValues 10 b.toNat)).toUInt8 = b := by
    rw [hvalue]
    exact UInt8.ofNat_toNat
  have hlt : value 10 (digitValues 10 b.toNat) < 256 := by
    rw [hvalue]
    exact b.toNat_lt
  rw [octet?, decimal, Text.decimalDigits, digits_toDigits (by decide) (by decide) hrest]
  by_cases hzero : b.toNat = 0
  · rw [hzero] at hlength hread hlt ⊢
    have hdigits : digitValues 10 0 = [0] := by decide
    rw [hdigits] at hread hlt ⊢
    simp only
    rw [if_pos ⟨by decide, hlt⟩, hread]
  · obtain ⟨d, ds, hdigits⟩ : ∃ d ds, digitValues 10 b.toNat = (d + 1) :: ds :=
      exists_digitValues_eq_cons (by decide) (by decide) hzero
    rw [hdigits] at hlength hread hlt ⊢
    simp only
    rw [if_pos ⟨hlength, hlt⟩, hread]

theorem stops_dot (rest : List Char) : Stops 10 ('.' :: rest) := stops_cons (by decide) rest

theorem v4?_chars (ip : V4) {rest : List Char} (hrest : Stops 10 rest) :
    v4? (ip.chars ++ rest) = some (ip, rest) := by
  simp only [v4?, V4.chars, List.append_assoc, List.cons_append, octet?_decimal _ (stops_dot _),
    octet?_decimal _ hrest, char?, if_true, Option.bind_eq_bind, Option.bind_some]

theorem v4?_chars_self (ip : V4) : v4? ip.chars = some (ip, []) := by
  have h := v4?_chars ip (stops_nil 10)
  rwa [List.append_nil] at h

/-! ## Groups -/

/-- Between groups stands a colon, and after them comes a colon or nothing. -/
def EndsGroup (rest : List Char) : Prop := rest = [] ∨ ∃ more, rest = ':' :: more

theorem EndsGroup.stops {rest : List Char} (h : EndsGroup rest) {base : Nat} (hbase : base ≤ 16) :
    Stops base rest := by
  rcases h with rfl | ⟨more, rfl⟩
  · exact stops_nil base
  · exact stops_cons (digit?_eq_none hbase (by decide)) more

theorem group?_hexDigits (g : UInt16) {rest : List Char} (hrest : EndsGroup rest) :
    group? (Text.hexDigits g.toNat ++ rest) = some (g, rest) := by
  have hlength : (digitValues 16 g.toNat).length ≤ 4 :=
    length_digitValues_le (by decide) (by decide) g.toNat_lt
  have hvalue : value 16 (digitValues 16 g.toNat) = g.toNat :=
    value_digitValues (by decide) (by decide)
  have hne : (digitValues 16 g.toNat).isEmpty = false := by
    rw [digitValues_eq (by decide) (by decide)]
    split <;> simp
  rw [group?, Text.hexDigits,
    digits_toDigits (by decide) (by decide) (hrest.stops (Nat.le_refl 16))]
  simp only
  rw [if_neg (by simp [hne, hlength]), hvalue]
  exact congrArg (fun x ↦ some (x, rest)) UInt16.ofNat_toNat

/-- Where digits come to no dot no IPv4 address is read. -/
theorem v4?_eq_none {cs : List Char} (h : (digits 10 cs).2.head? ≠ some '.') : v4? cs = none := by
  have hrest : ∀ b rest, octet? cs = some (b, rest) → rest = (digits 10 cs).2 := by
    intro b rest hoctet
    rw [octet?] at hoctet
    split at hoctet
    next ds rest' hdigits =>
      split at hoctet
      · exact absurd hoctet (by simp)
      · exact absurd hoctet (by simp)
      · split at hoctet
        · rw [hdigits]
          exact (Prod.ext_iff.mp (Option.some.inj hoctet)).2.symm
        · exact absurd hoctet (by simp)
  rw [v4?]
  cases hoctet : octet? cs with
  | none => rfl
  | some x =>
    obtain ⟨b, rest⟩ := x
    obtain rfl := hrest b rest hoctet
    simp only [Option.bind_eq_bind, Option.bind_some]
    cases hcs : (digits 10 cs).2 with
    | nil => rfl
    | cons c more =>
      have hc : '.' ≠ c := by
        rintro rfl
        exact h (by rw [hcs, List.head?_cons])
      rw [char?, if_neg hc]
      rfl

/-- A group is not the start of an IPv4 address. -/
theorem v4?_hexDigits (g : UInt16) {rest : List Char} (hrest : EndsGroup rest) :
    v4? (Text.hexDigits g.toNat ++ rest) = none := by
  apply v4?_eq_none
  rw [digits, List.dropWhile_append]
  split
  · -- the group has decimal digits only, and what ends it is no dot
    have hstops : Stops 10 rest := hrest.stops (by decide)
    rw [hstops.dropWhile_eq]
    rcases hrest with rfl | ⟨more, rfl⟩ <;> simp
  · next hne =>
    -- what is left of the group starts with one of its digits
    obtain ⟨c, cs, hcs⟩ := List.exists_cons_of_ne_nil (mt List.isEmpty_iff.mpr hne)
    rw [hcs, List.cons_append, List.head?_cons]
    intro hdot
    obtain rfl := Option.some.inj hdot
    have hmem : '.' ∈ Text.hexDigits g.toNat :=
      (List.dropWhile_sublist _).subset (hcs ▸ List.mem_cons_self)
    exact absurd (isSome_of_mem_toDigits (by decide) (by decide) hmem) (by decide)

theorem EndsGroup.v4?_eq_none {cs : List Char} (h : EndsGroup cs) : v4? cs = none := by
  apply Reader.v4?_eq_none
  have hstops : Stops 10 cs := h.stops (by decide)
  rw [digits, hstops.dropWhile_eq]
  rcases h with rfl | ⟨more, rfl⟩ <;> simp

theorem EndsGroup.group?_eq_none {cs : List Char} (h : EndsGroup cs) : group? cs = none := by
  rw [group?, digits, (h.stops (Nat.le_refl 16)).takeWhile_eq]
  rfl

/-- Groups with a colon before each. -/
def colonChars (gs : List UInt16) : List Char := gs.flatMap fun g ↦ ':' :: Text.hexDigits g.toNat

theorem groupChars_cons (g : UInt16) (gs : List UInt16) :
    V6.groupChars (g :: gs) = Text.hexDigits g.toNat ++ colonChars gs := by
  induction gs generalizing g with
  | nil => rw [V6.groupChars, colonChars, List.flatMap_nil, List.append_nil]
  | cons h gs ih =>
    rw [V6.groupChars, ih]
    rfl

theorem endsGroup_colonChars_append (gs : List UInt16) {rest : List Char} (h : EndsGroup rest) :
    EndsGroup (colonChars gs ++ rest) := by
  cases gs with
  | nil => exact h
  | cons g gs => exact Or.inr ⟨_, rfl⟩

/-- A group is read, and then those after it. -/
theorem groups_group (n : Nat) (first : Bool) (g : UInt16) {rest : List Char}
    (hrest : EndsGroup rest) :
    groups (n + 1) first ((if first then [] else [':']) ++ (Text.hexDigits g.toNat ++ rest)) =
      (g :: (groups n false rest).1, (groups n false rest).2) := by
  have hbody : (if first then
        some ((if first then [] else [':']) ++ (Text.hexDigits g.toNat ++ rest))
      else char? ':' ((if first then [] else [':']) ++ (Text.hexDigits g.toNat ++ rest))) =
        some (Text.hexDigits g.toNat ++ rest) := by
    cases first <;> rfl
  have hnoV4 : (if n = 0 then none else v4? (Text.hexDigits g.toNat ++ rest)) = none := by
    rw [v4?_hexDigits g hrest, ite_self]
  rw [groups, hbody]
  simp only [hnoV4, group?_hexDigits g hrest]

theorem groups_colonChars (n : Nat) (gs : List UInt16) {rest : List Char} (hrest : EndsGroup rest) :
    groups (gs.length + n) false (colonChars gs ++ rest) =
      (gs ++ (groups n false rest).1, (groups n false rest).2) := by
  induction gs with
  | nil => rw [List.length_nil, Nat.zero_add]; rfl
  | cons g gs ih =>
    have hstep := groups_group (gs.length + n) false g (endsGroup_colonChars_append gs hrest)
    rw [ih] at hstep
    have hchars : colonChars (g :: gs) ++ rest
        = [':'] ++ (Text.hexDigits g.toNat ++ (colonChars gs ++ rest)) := by
      rw [← List.append_assoc (Text.hexDigits g.toNat)]
      rfl
    rw [List.length_cons, Nat.add_right_comm, hchars]
    exact hstep

/-- Two colons in a row, or the end of the text, end a list of groups. -/
def EndsGroups (rest : List Char) : Prop := rest = [] ∨ ∃ more, rest = ':' :: ':' :: more

theorem EndsGroups.endsGroup {rest : List Char} (h : EndsGroups rest) : EndsGroup rest :=
  h.imp_right fun ⟨more, hmore⟩ ↦ ⟨':' :: more, hmore⟩

theorem EndsGroups.groups_eq {rest : List Char} (h : EndsGroups rest) (n : Nat) (first : Bool) :
    groups n first rest = ([], false, rest) := by
  cases n with
  | zero => rfl
  | succ n =>
    have hbody : ∀ body, (if first then some rest else char? ':' rest) = some body →
        EndsGroup body := by
      intro body hbody
      cases first with
      | true =>
        obtain rfl := Option.some.inj hbody
        exact h.endsGroup
      | false =>
        rcases h with rfl | ⟨more, rfl⟩
        · exact absurd hbody (by simp [char?])
        · obtain rfl : ':' :: more = body := Option.some.inj hbody
          exact Or.inr ⟨more, rfl⟩
    rw [groups]
    cases hsome : if first then some rest else char? ':' rest with
    | none => rfl
    | some body =>
      have hends := hbody body hsome
      simp only [hends.v4?_eq_none, hends.group?_eq_none, ite_self]

/-- A list of groups is read up to its end. -/
theorem groups_groupChars {n : Nat} {gs : List UInt16} (hn : gs.length ≤ n) {rest : List Char}
    (hrest : EndsGroups rest) : groups n true (V6.groupChars gs ++ rest) = (gs, false, rest) := by
  cases gs with
  | nil => exact hrest.groups_eq n true
  | cons g gs =>
    obtain ⟨m, rfl⟩ := Nat.exists_eq_add_of_le hn
    have hstep := groups_group (gs.length + m) true g
      (endsGroup_colonChars_append gs hrest.endsGroup)
    rw [groups_colonChars m gs hrest.endsGroup, hrest.groups_eq, List.append_nil] at hstep
    rw [groupChars_cons, List.append_assoc, List.length_cons, Nat.add_right_comm]
    exact hstep

end Reader

/-! ## IPv6 -/

namespace V6

/-- From a position on all groups are zero for a length. -/
def IsGap (gs : List UInt16) (start length : Nat) : Prop :=
  gs = gs.take start ++ List.replicate length 0 ++ gs.drop (start + length)

theorem isGap_zerosAt (gs : List UInt16) (i : Nat) : IsGap gs i (zerosAt gs i) := by
  have hzeros : (gs.drop i).takeWhile (· = 0) = List.replicate (zerosAt gs i) 0 :=
    List.eq_replicate_of_mem fun g hg ↦ by simpa using List.mem_takeWhile_imp hg
  have hrest : (gs.drop i).drop (zerosAt gs i) = (gs.drop i).dropWhile (· = 0) := by
    calc (gs.drop i).drop (zerosAt gs i)
        = ((gs.drop i).takeWhile (· = 0) ++ (gs.drop i).dropWhile (· = 0)).drop (zerosAt gs i) := by
          rw [List.takeWhile_append_dropWhile]
      _ = (gs.drop i).dropWhile (· = 0) := List.drop_left' rfl
  rw [IsGap, List.append_assoc, ← hzeros, ← List.drop_drop, hrest, List.takeWhile_append_dropWhile,
    List.take_append_drop]

/-- The longest run of zero groups is a gap, and so is none. -/
theorem isGap_longestZeros (gs : List UInt16) :
    IsGap gs (longestZeros gs).1 (longestZeros gs).2 := by
  rw [longestZeros]
  refine List.foldlRecOn (motive := fun best : Nat × Nat ↦ IsGap gs best.1 best.2) _ _ ?_ ?_
  · rfl
  · intro best hbest i _
    split
    · exact isGap_zerosAt gs i
    · exact hbest

theorem IsGap.lengths {gs : List UInt16} {start length : Nat} (h : IsGap gs start length) :
    (gs.take start).length + length + (gs.drop (start + length)).length = gs.length := by
  have hlengths := congrArg List.length h
  rw [List.length_append, List.length_append, List.length_replicate] at hlengths
  exact hlengths.symm

theorem ofGroups?_groups (ip : V6) : Reader.ofGroups? ip.groups = some ip := dif_pos ip.length_eq

/-- A text without a gap is read back. -/
theorem v6?_groupChars (ip : V6) : Reader.v6? (groupChars ip.groups) = some (ip, []) := by
  have hread := Reader.groups_groupChars (Nat.le_of_eq ip.length_eq) (Or.inl rfl)
  rw [List.append_nil] at hread
  simp only [Reader.v6?, hread, if_pos ip.length_eq, ofGroups?_groups, Option.bind_eq_bind,
    Option.bind_some]

/-- A gap is filled in: the groups on its sides are read, and eight are needed. -/
theorem v6?_gap (ip : V6) {start length : Nat} (h : IsGap ip.groups start length)
    (hpos : 0 < length) :
    Reader.v6? (groupChars (ip.groups.take start) ++ ':' :: ':' ::
      groupChars (ip.groups.drop (start + length))) = some (ip, []) := by
  have hlengths := h.lengths
  rw [ip.length_eq] at hlengths
  have hgroups : ip.groups.take start ++ List.replicate length 0 ++ ip.groups.drop (start + length)
      = ip.groups := h.symm
  generalize ip.groups.take start = head at hlengths hgroups ⊢
  generalize ip.groups.drop (start + length) = tail at hlengths hgroups ⊢
  have hhead : Reader.groups 8 true (groupChars head ++ ':' :: ':' :: groupChars tail) =
      (head, false, ':' :: ':' :: groupChars tail) :=
    Reader.groups_groupChars (by omega) (Or.inr ⟨_, rfl⟩)
  have htail : Reader.groups (7 - head.length) true (groupChars tail ++ []) = (tail, false, []) :=
    Reader.groups_groupChars (by omega) (Or.inl rfl)
  rw [List.append_nil] at htail
  have hmissing : head.length ≠ 8 := by omega
  have hzeros : 8 - head.length - tail.length = length := by omega
  simp only [Reader.v6?, hhead, if_neg hmissing, Bool.false_eq_true, if_false, Reader.char?,
    if_true, htail, hzeros, hgroups, ofGroups?_groups, Option.bind_eq_bind, Option.bind_some]

/-- The octets of two groups. -/
def dotted (hi lo : UInt16) : V4 :=
  ⟨(hi >>> 8).toUInt8, hi.toUInt8, (lo >>> 8).toUInt8, lo.toUInt8⟩

theorem join_octets (g : UInt16) : (g >>> 8).toUInt8.toUInt16 * 256 + g.toUInt8.toUInt16 = g := by
  apply UInt16.toNat_inj.mp
  have hlt := g.toNat_lt
  simp [Nat.shiftRight_eq_div_pow]
  omega

theorem groupsOf_dotted (hi lo : UInt16) : Reader.groupsOf (dotted hi lo) = [hi, lo] := by
  rw [Reader.groupsOf, dotted, join_octets, join_octets]

/-- An address that maps an IPv4 address has its octets in the last two groups. -/
theorem mapped?_eq_some {ip : V6} {v4 : V4} (h : ip.mapped? = some v4) :
    ip.groups = [0, 0, 0, 0, 0, 0xFFFF] ++ Reader.groupsOf v4 := by
  rw [mapped?] at h
  split at h
  · next hi lo hgroups =>
    obtain rfl := Option.some.inj h
    rw [hgroups, ← dotted, groupsOf_dotted]
    rfl
  · exact absurd h.symm (Option.some_ne_none v4)

/-- The dotted form at the end of a mapped address is read as two groups. -/
theorem v6?_mapped {ip : V6} {v4 : V4} (h : ip.mapped? = some v4) :
    Reader.v6? (':' :: ':' :: (['f', 'f', 'f', 'f', ':'] ++ v4.chars)) = some (ip, []) := by
  have hhead := Reader.EndsGroups.groups_eq (Or.inr ⟨['f', 'f', 'f', 'f', ':'] ++ v4.chars, rfl⟩)
    8 true
  have hdotted : Reader.groups 6 false (':' :: v4.chars) = (Reader.groupsOf v4, true, []) := by
    simp [Reader.groups, Reader.char?, Reader.v4?_chars_self]
  have htail : Reader.groups (7 - ([] : List UInt16).length) true
      (['f', 'f', 'f', 'f', ':'] ++ v4.chars) = (0xFFFF :: Reader.groupsOf v4, true, []) := by
    have hstep := Reader.groups_group 6 true 0xFFFF (Or.inr ⟨v4.chars, rfl⟩)
    rw [hdotted] at hstep
    exact hstep
  have hmissing : ([] : List UInt16).length ≠ 8 := by decide
  have hgroups : [] ++ List.replicate (8 - ([] : List UInt16).length -
      (0xFFFF :: Reader.groupsOf v4).length) 0 ++ 0xFFFF :: Reader.groupsOf v4 = ip.groups :=
    (mapped?_eq_some h).symm
  simp only [Reader.v6?, hhead, if_neg hmissing, Bool.false_eq_true, if_false, Reader.char?,
    if_true, htail, hgroups, ofGroups?_groups, Option.bind_eq_bind, Option.bind_some]

theorem v6?_chars (ip : V6) : Reader.v6? ip.chars = some (ip, []) := by
  rw [chars]
  cases hmapped : ip.mapped? with
  | some v4 => exact v6?_mapped hmapped
  | none =>
    simp only
    split
    · next hlength =>
      exact v6?_gap ip (isGap_longestZeros ip.groups) (Nat.lt_trans Nat.zero_lt_one hlength)
    · exact v6?_groupChars ip

/-- The text starts with a colon, or with a group and a colon. -/
theorem chars_cases (ip : V6) :
    (∃ more, ip.chars = ':' :: more) ∨
      ∃ (g : UInt16) (more : List Char), ip.chars = Text.hexDigits g.toNat ++ ':' :: more := by
  have hgroups : ∀ (gs : List UInt16) (more : List Char), gs ≠ [] →
      ∃ (g : UInt16) (more' : List Char),
        groupChars gs ++ ':' :: more = Text.hexDigits g.toNat ++ ':' :: more' := by
    intro gs more hne
    obtain ⟨g, gs, rfl⟩ := List.exists_cons_of_ne_nil hne
    rw [Reader.groupChars_cons, List.append_assoc]
    rcases Reader.endsGroup_colonChars_append gs (Or.inr ⟨more, rfl⟩) with hnil | ⟨more', hmore⟩
    · exact absurd hnil (by simp)
    · exact ⟨g, more', by rw [hmore]⟩
  rw [chars]
  cases ip.mapped? with
  | some v4 => exact Or.inl ⟨_, rfl⟩
  | none =>
    simp only
    split
    · by_cases hstart : ip.groups.take (longestZeros ip.groups).1 = []
      · rw [hstart]
        exact Or.inl ⟨_, rfl⟩
      · exact Or.inr (hgroups _ _ hstart)
    · -- eight groups have colons between them
      obtain ⟨groups, hlength⟩ := ip
      obtain ⟨g, h, rest, rfl⟩ : ∃ g h rest, groups = g :: h :: rest := by
        match groups, hlength with
        | g :: h :: rest, _ => exact ⟨g, h, rest, rfl⟩
      exact Or.inr ⟨g, groupChars (h :: rest), rfl⟩

theorem v4?_chars_eq_none (ip : V6) : Reader.v4? ip.chars = none := by
  rcases ip.chars_cases with ⟨more, h⟩ | ⟨g, more, h⟩
  · rw [h]
    exact Reader.EndsGroup.v4?_eq_none (Or.inr ⟨more, rfl⟩)
  · rw [h]
    exact Reader.v4?_hexDigits g (Or.inr ⟨more, rfl⟩)

end V6

/-! ## IP addresses -/

namespace Ip

/-- The text of an address is read back as the address. -/
theorem ofText?_text (ip : Ip) : Ip.ofText? ip.text = some ip := by
  rw [ofText?, text, String.toList_ofList]
  cases ip with
  | v4 ip =>
    rw [ofChars?, chars, Reader.v4?_chars_self]
    rfl
  | v6 ip =>
    rw [ofChars?, chars, ip.v4?_chars_eq_none, ip.v6?_chars]
    rfl

/-- A character of the text of an address. -/
def IsTextChar (c : Char) : Prop :=
  c = '.' ∨ c = ':' ∨ (Reader.digit? 16 c).isSome = true

instance (c : Char) : Decidable (IsTextChar c) := inferInstanceAs (Decidable (_ ∨ _ ∨ _))

theorem isTextChar_of_mem_toDigits {base n : Nat} (hone : 1 < base) (hbase : base ≤ 16) {c : Char}
    (hc : c ∈ Nat.toDigits base n) : IsTextChar c := by
  refine Or.inr (Or.inr (Option.isSome_iff_ne_none.mpr fun hnone ↦ ?_))
  have hsome := Reader.isSome_of_mem_toDigits hone hbase hc
  rw [Reader.digit?_eq_none hbase hnone] at hsome
  exact Bool.false_ne_true hsome

theorem isTextChar_of_mem_v4 {ip : V4} {c : Char} (hc : c ∈ ip.chars) : IsTextChar c := by
  have hdot : ∀ (n : Nat) (rest : List Char), (c ∈ rest → IsTextChar c) →
      c ∈ decimal n ++ '.' :: rest → IsTextChar c := by
    intro n rest hrest hmem
    rcases List.mem_append.mp hmem with hmem | hmem
    · exact isTextChar_of_mem_toDigits (by decide) (by decide) hmem
    · rcases List.mem_cons.mp hmem with rfl | hmem
      · exact Or.inl rfl
      · exact hrest hmem
  simp only [V4.chars, List.append_assoc, List.cons_append] at hc
  refine hdot _ _ (hdot _ _ (hdot _ _ fun hlast ↦ ?_)) hc
  exact isTextChar_of_mem_toDigits (by decide) (by decide) hlast

theorem isTextChar_of_mem_groupChars {gs : List UInt16} {c : Char} (hc : c ∈ V6.groupChars gs) :
    IsTextChar c := by
  have hhex : ∀ n : Nat, c ∈ Text.hexDigits n → IsTextChar c :=
    fun n h ↦ isTextChar_of_mem_toDigits (by decide) (by decide) h
  cases gs with
  | nil => exact absurd hc List.not_mem_nil
  | cons g gs =>
    rw [Reader.groupChars_cons, List.mem_append] at hc
    rcases hc with hc | hc
    · exact hhex _ hc
    · obtain ⟨g', -, hc⟩ := List.mem_flatMap.mp hc
      rcases List.mem_cons.mp hc with rfl | hc
      · exact Or.inr (Or.inl rfl)
      · exact hhex _ hc

/-- A text has digits, dots and colons only. -/
theorem isTextChar_of_mem {ip : Ip} {c : Char} (hc : c ∈ ip.chars) : IsTextChar c := by
  cases ip with
  | v4 ip => exact isTextChar_of_mem_v4 hc
  | v6 ip =>
    rw [chars, V6.chars] at hc
    cases hmapped : ip.mapped? with
    | some v4 =>
      rw [hmapped] at hc
      rcases List.mem_append.mp hc with hc | hc
      · have hprefix : ∀ d ∈ [':', ':', 'f', 'f', 'f', 'f', ':'], d = ':' ∨ d = 'f' := by simp
        rcases hprefix c hc with rfl | rfl
        · exact Or.inr (Or.inl rfl)
        · exact Or.inr (Or.inr rfl)
      · exact isTextChar_of_mem_v4 hc
    | none =>
      rw [hmapped] at hc
      simp only at hc
      split at hc
      · rcases List.mem_append.mp hc with hc | hc
        · exact isTextChar_of_mem_groupChars hc
        · rcases List.mem_cons.mp hc with rfl | hc
          · exact Or.inr (Or.inl rfl)
          · rcases List.mem_cons.mp hc with rfl | hc
            · exact Or.inr (Or.inl rfl)
            · exact isTextChar_of_mem_groupChars hc
      · exact isTextChar_of_mem_groupChars hc

/-- The text of an address is not that of an address with a port. -/
theorem socketAddr_ofText?_text (ip : Ip) : SocketAddr.ofText? ip.text = none := by
  have hbracket : ∀ cs : List Char, '[' ∉ cs → Reader.socketV6? cs = none := by
    intro cs h
    cases cs with
    | nil => rfl
    | cons c cs =>
      have hne : '[' ≠ c := fun hc ↦ h (hc ▸ List.mem_cons_self)
      simp [Reader.socketV6?, Reader.char?, hne]
  have hV6 : Reader.socketV6? ip.chars = none :=
    hbracket _ fun hmem ↦ absurd (isTextChar_of_mem hmem) (by decide)
  have hV4 : Reader.socketV4? ip.chars = none := by
    cases ip with
    | v4 ip =>
      rw [chars, Reader.socketV4?, Reader.v4?_chars_self]
      rfl
    | v6 ip =>
      rw [chars, Reader.socketV4?, ip.v4?_chars_eq_none]
      rfl
  rw [SocketAddr.ofText?, text, String.toList_ofList, hV4, Option.orElse, hV6]
  rfl

end Ip
end RequestTelemetry.Net
