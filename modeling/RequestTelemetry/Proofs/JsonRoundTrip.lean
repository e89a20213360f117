import Mathlib.Data.List.Basic
import RequestTelemetry.Json.Parser
import RequestTelemetry.Json.Printer
import RequestTelemetry.Proofs.Utf8

/-!
# Reading undoes writing

What the reader of JSON makes of the compact form of a value is the value itself, except that the
members of an object come out in increasing order of their keys, the last of each key.

The layers are taken one by one, each with an arbitrary text after what was written: the digits of
a number, the escaped characters of a string, and then values, items and members together. A number
is the only thing written that the text after it could continue, so only there that text matters;
see `Number.Ends`. Floating-point numbers are left out.

The reader is given fuel for its steps. Each step takes at least one character, so the length of
the text is enough.
-/

namespace RequestTelemetry

/-! ## Numbers -/

namespace Number

/-- The value of a digit. -/
def digitValue (c : Char) : Nat := c.toNat - '0'.toNat

theorem digit?_of_isDigit {c : Char} (h : c.isDigit = true) : digit? c = some (digitValue c) := by
  rw [Char.isDigit, Bool.and_eq_true, decide_eq_true_iff, decide_eq_true_iff] at h
  exact if_pos h

/-- Whether a text does not continue a number before it. -/
def Ends (rest : List Char) : Prop :=
  ∀ c ∈ rest.head?, digit? c = none ∧ c ≠ '.' ∧ c ≠ 'e' ∧ c ≠ 'E'

theorem ends_nil : Ends [] := by
  intro c hc
  simp at hc

theorem ends_cons {c : Char} (h : digit? c = none ∧ c ≠ '.' ∧ c ≠ 'e' ∧ c ≠ 'E')
    (cs : List Char) : Ends (c :: cs) := by
  rintro _ ⟨⟩
  exact h

theorem takeDigits_append {ds rest : List Char} (hds : ∀ c ∈ ds, c.isDigit = true)
    (hrest : Ends rest) : takeDigits (ds ++ rest) = (ds.map digitValue, rest) := by
  have hsome : ∀ c ∈ ds, (digit? c).isSome = true := by
    intro c hc
    rw [digit?_of_isDigit (hds c hc), Option.isSome_some]
  have htake : rest.takeWhile (fun c ↦ (digit? c).isSome) = [] := by
    cases rest with
    | nil => rfl
    | cons c rest => simp [(hrest c rfl).1]
  have hdrop : rest.dropWhile (fun c ↦ (digit? c).isSome) = rest := by
    cases rest with
    | nil => rfl
    | cons c rest => simp [(hrest c rfl).1]
  have hvalues : ds.filterMap digit? = ds.map digitValue := by
    rw [← List.filterMap_eq_map]
    exact List.filterMap_congr fun c hc ↦ digit?_of_isDigit (hds c hc)
  rw [takeDigits, List.takeWhile_append_of_pos hsome, List.dropWhile_append_of_pos hsome, htake,
    hdrop, List.append_nil, hvalues]

/-- A significand that fits takes in all digits. -/
theorem significand_of_le {start : Nat} {ds : List Nat}
    (h : ds.foldl (fun m d ↦ m * 10 + d) start ≤ significandMax) :
    significand start ds = (ds.foldl (fun m d ↦ m * 10 + d) start, 0) := by
  induction ds generalizing start with
  | nil => rfl
  | cons d ds ih =>
    rw [significand, if_pos (Nat.le_trans (Text.le_foldl_digits _ ds) h)]
    exact ih h

/-- The digits of a number start with zero only if that is all. -/
theorem decimalDigits_head {n : Nat} (hn : n ≠ 0) {d : Char} {ds : List Char}
    (h : Text.decimalDigits n = d :: ds) : digitValue d ≠ 0 := by
  induction n using Nat.strongRecOn generalizing d ds with
  | ind n ih =>
    rw [Text.decimalDigits] at h
    rcases Nat.lt_or_ge n 10 with hlt | hge
    · rw [Nat.toDigits_of_lt_base hlt] at h
      obtain ⟨rfl, -⟩ := List.cons.inj h
      have hall : ∀ m < 10, m ≠ 0 → digitValue m.digitChar ≠ 0 := by decide
      exact hall n hlt hn
    · rw [Nat.toDigits_of_base_le (by decide) hge] at h
      obtain ⟨e, es, hes⟩ := Text.exists_decimalDigits_eq_cons (n / 10)
      have hhead := ih (n / 10) (by omega) (by omega) hes
      rw [Text.decimalDigits] at hes
      rw [hes] at h
      obtain ⟨rfl, -⟩ := List.cons.inj h
      exact hhead

/-- The digits of a number as the reader of numbers sees them. -/
def digitValues (n : Nat) : List Nat := (Text.decimalDigits n).map digitValue

theorem foldl_digitValues (n : Nat) : (digitValues n).foldl (fun m d ↦ m * 10 + d) 0 = n := by
  rw [digitValues, List.foldl_map]
  exact Text.foldl_decimalDigits n

theorem digitValues_zero : digitValues 0 = [0] := by decide

theorem digitValues_eq_cons {n : Nat} (hn : n ≠ 0) :
    ∃ d ds, digitValues n = (d + 1) :: ds := by
  obtain ⟨c, cs, hcs⟩ := Text.exists_decimalDigits_eq_cons n
  obtain ⟨d, hd⟩ := Nat.exists_eq_succ_of_ne_zero (decimalDigits_head hn hcs)
  refine ⟨d, cs.map digitValue, ?_⟩
  rw [digitValues, hcs, List.map_cons, hd]

theorem readFraction?_of_ends {rest : List Char} (h : Ends rest) :
    readFraction? rest = some (none, rest) := by
  unfold readFraction?
  split
  · exact absurd rfl (h '.' rfl).2.1
  · rfl

theorem readExponent?_of_ends {rest : List Char} (h : Ends rest) :
    readExponent? rest = some (none, rest) := by
  cases rest with
  | nil => rfl
  | cons c rest =>
    obtain ⟨-, -, hsmall, hcapital⟩ := h c rfl
    exact if_neg (not_or.mpr ⟨hsmall, hcapital⟩)

theorem readUnsigned?_decimalDigits (negative : Bool) (n : Nat) {rest : List Char}
    (hrest : Ends rest) :
    readUnsigned? negative (Text.decimalDigits n ++ rest) =
      some (⟨negative, digitValues n, none, none⟩, rest) := by
  have hdigits : takeDigits (Text.decimalDigits n ++ rest) = (digitValues n, rest) :=
    takeDigits_append (fun c hc ↦ Text.isDigit_of_mem_decimalDigits hc) hrest
  simp only [readUnsigned?, hdigits]
  rcases Nat.eq_zero_or_pos n with rfl | hn
  · simp [digitValues_zero, readFraction?_of_ends hrest, readExponent?_of_ends hrest]
  · obtain ⟨d, ds, hds⟩ := digitValues_eq_cons (Nat.ne_of_gt hn)
    simp [hds, readFraction?_of_ends hrest, readExponent?_of_ends hrest]

theorem readLexeme?_integerText (n : Int) {rest : List Char} (hrest : Ends rest) :
    readLexeme? (integerText n ++ rest) =
      some (⟨n < 0, digitValues n.natAbs, none, none⟩, rest) := by
  cases n with
  | ofNat n =>
    have hunsigned := readUnsigned?_decimalDigits false n hrest
    obtain ⟨c, cs, hcs⟩ := Text.exists_decimalDigits_eq_cons n
    have hc : c ≠ '-' := by
      rintro rfl
      exact absurd (Text.isDigit_of_mem_decimalDigits (hcs ▸ List.mem_cons_self)) (by decide)
    have hsign : readLexeme? (Text.decimalDigits n ++ rest) =
        readUnsigned? false (Text.decimalDigits n ++ rest) := by
      rw [hcs, List.cons_append, readLexeme?]
      simpa using hc
    exact hsign.trans hunsigned
  | negSucc n =>
    rw [decide_eq_true (Int.negSucc_lt_zero n)]
    exact readUnsigned?_decimalDigits true (n + 1) hrest

/-- Whether an integer fits 64 bits: two's complement if it is negative, and unsigned otherwise. -/
def FitsWord (n : Int) : Prop := -(Nat.pow 2 63 : Int) ≤ n ∧ n ≤ (significandMax : Int)

theorem fitsWord_of_le {n : Nat} (h : n ≤ significandMax) : FitsWord n :=
  ⟨by omega, Int.ofNat_le.mpr h⟩

theorem ofLexeme?_digitValues {n : Int} (h : FitsWord n) :
    ofLexeme? ⟨n < 0, digitValues n.natAbs, none, none⟩ = some (integer n) := by
  obtain ⟨hlow, hhigh⟩ := h
  have hmax : Nat.pow 2 63 ≤ significandMax := by decide
  have hsignificand : significand 0 (digitValues n.natAbs) = (n.natAbs, 0) := by
    have hfits := foldl_digitValues n.natAbs
    rw [significand_of_le (by rw [hfits]; omega), hfits]
  simp only [ofLexeme?, hsignificand]
  rcases Int.lt_or_le n 0 with hn | hn
  · rw [if_neg (by simpa using hn), if_neg (by omega), Int.ofNat_natAbs_of_nonpos (by omega),
      Int.neg_neg]
  · rw [if_pos (by simpa using hn), Int.natAbs_of_nonneg hn]

/-- An integer of 64 bits is read back. -/
theorem read?_integerText {n : Int} (h : FitsWord n) {rest : List Char} (hrest : Ends rest) :
    read? (integerText n ++ rest) = some (integer n, rest) := by
  simp only [read?, readLexeme?_integerText n hrest, ofLexeme?_digitValues h, Option.bind_eq_bind,
    Option.bind_some]

end Number

namespace Json

/-! ## Strings -/

namespace Reader

theorem hexDigits_of_lt {n : Nat} (h : n < 16) : Text.hexDigits n = [n.digitChar] :=
  Nat.toDigits_of_lt_base h

theorem hexDigits_of_le {n : Nat} (h : 16 ≤ n) (hn : n < 256) :
    Text.hexDigits n = [(n / 16).digitChar, (n % 16).digitChar] := by
  rw [Text.hexDigits, Nat.toDigits_of_base_le (by decide) h, Nat.toDigits_of_lt_base (by omega)]
  rfl

theorem hexDigit?_digitChar : ∀ n < 16, hexDigit? n.digitChar = some n := by decide

theorem hex4?_digitChar {m n : Nat} (hm : m < 16) (hn : n < 16) :
    hex4? '0' '0' m.digitChar n.digitChar = some (m * 16 + n) := by
  have hzero : hexDigit? '0' = some 0 := hexDigit?_digitChar 0 (by decide)
  simp [hex4?, hzero, hexDigit?_digitChar m hm, hexDigit?_digitChar n hn]

theorem stringFrom?_unicode (read : List Char) {a b c d : Char} {n : Nat} (rest : List Char)
    (h : hex4? a b c d = some n) (hn : n < 0xD800) :
    stringFrom? read ('\\' :: 'u' :: a :: b :: c :: d :: rest) =
      stringFrom? (Char.ofNat n :: read) rest := by
  have hlow : isLow n = false := by simp [isLow]; omega
  have hhigh : isHigh n = false := by simp [isHigh]; omega
  simp [stringFrom?, h, hlow, hhigh]

theorem stringFrom?_plain (read : List Char) {c : Char} (rest : List Char) (hquote : c ≠ '"')
    (hslash : c ≠ '\\') (hc : ¬c.toNat < 0x20) :
    stringFrom? read (c :: rest) = stringFrom? (c :: read) rest := by
  rw [stringFrom?.eq_def]
  split
  case h_5 heq =>
    obtain ⟨rfl, rfl⟩ := List.cons.inj heq
    exact if_neg (not_or.mpr ⟨hc, hslash⟩)
  all_goals simp_all

/-- A character is read off its escaped form. -/
theorem stringFrom?_escapedChar (read : List Char) (c : Char) (rest : List Char) :
    stringFrom? read (escapedChar c ++ rest) = stringFrom? (c :: read) rest := by
  unfold escapedChar
  split
  case h_8 hquote hslash _ _ _ _ _ =>
    -- no short escape: one hexadecimal digit that counts, or two, or the character as it is
    split
    · next hlow =>
      have hvalue := hex4?_digitChar (m := 0) (by decide) hlow
      rw [hexDigits_of_lt hlow]
      refine (stringFrom?_unicode read rest hvalue (by omega)).trans ?_
      rw [Nat.zero_mul, Nat.zero_add, Char.ofNat_toNat]
    · next hlow =>
      split
      · next hcontrol =>
        have hvalue := hex4?_digitChar (m := c.toNat / 16) (n := c.toNat % 16) (by omega) (by omega)
        rw [hexDigits_of_le (by omega) (by omega)]
        refine (stringFrom?_unicode read rest hvalue (by omega)).trans ?_
        rw [Nat.div_add_mod', Char.ofNat_toNat]
      · next hplain => exact stringFrom?_plain read rest hquote hslash hplain
  all_goals rfl

/-- A string is read back up to its closing quote. -/
theorem stringFrom?_flatMap_escapedChar (cs rest : List Char) (read : List Char) :
    stringFrom? read (cs.flatMap escapedChar ++ '"' :: rest) =
      some (String.ofList (read.reverse ++ cs), rest) := by
  induction cs generalizing read with
  | nil => simp [stringFrom?]
  | cons c cs ih =>
    rw [List.flatMap_cons, List.append_assoc, stringFrom?_escapedChar, ih, List.reverse_cons,
      List.append_assoc, List.singleton_append]

end Reader

/-! ## Values -/

mutual

/-- The value with the members of all objects in increasing order of keys, the last of each key. -/
def sorted : Json → Json
  | array items => array (sortedItems items)
  | object fields => ofFields (sortedFields fields)
  | j => j

/-- The items of an array, each sorted. -/
def sortedItems : List Json → List Json
  | [] => []
  | x :: rest => x.sorted :: sortedItems rest

/-- The members of an object, each value sorted. -/
def sortedFields : List (String × Json) → List (String × Json)
  | [] => []
  | (key, x) :: rest => (key, x.sorted) :: sortedFields rest

end

mutual

/-- How many containers are open inside each other. -/
def depth : Json → Nat
  | array items => itemsDepth items + 1
  | object fields => fieldsDepth fields + 1
  | _ => 0

/-- The depth of the deepest item. -/
def itemsDepth : List Json → Nat
  | [] => 0
  | x :: rest => max x.depth (itemsDepth rest)

/-- The depth of the deepest member. -/
def fieldsDepth : List (String × Json) → Nat
  | [] => 0
  | (_, x) :: rest => max x.depth (fieldsDepth rest)

end

mutual

/-- Whether all numbers of a value are integers of 64 bits. -/
def IsWhole : Json → Prop
  | number (.integer n) => Number.FitsWord n
  | number (.float _) => False
  | array items => ItemsWhole items
  | object fields => FieldsWhole fields
  | _ => True

/-- Whether all items are whole. -/
def ItemsWhole : List Json → Prop
  | [] => True
  | x :: rest => x.IsWhole ∧ ItemsWhole rest

/-- Whether all members are whole. -/
def FieldsWhole : List (String × Json) → Prop
  | [] => True
  | (_, x) :: rest => x.IsWhole ∧ FieldsWhole rest

end

namespace Reader

theorem skip_cons {c : Char} (hc : isGap c = false) (cs : List Char) :
    skip (c :: cs) = c :: cs := by
  rw [skip, List.dropWhile_cons_of_neg (by rw [hc]; decide)]

/-- Whether a character starts a number. -/
def StartsNumber (c : Char) : Prop := c = '-' ∨ c.isDigit = true

instance : DecidablePred StartsNumber := fun c ↦
  inferInstanceAs (Decidable (c = '-' ∨ c.isDigit = true))

theorem StartsNumber.ne {c d : Char} (hc : StartsNumber c) (hd : ¬StartsNumber d) : c ≠ d := by
  rintro rfl
  exact hd hc

theorem exists_integerText_eq_cons (n : Int) :
    ∃ c cs, Number.integerText n = c :: cs ∧ StartsNumber c := by
  cases n with
  | ofNat n =>
    obtain ⟨c, cs, hcs⟩ := Text.exists_decimalDigits_eq_cons n
    exact ⟨c, cs, hcs, .inr (Text.isDigit_of_mem_decimalDigits (hcs ▸ List.mem_cons_self))⟩
  | negSucc n => exact ⟨'-', _, rfl, .inl rfl⟩

theorem value?_number {fuel depth : Nat} {c : Char} {cs : List Char} (hc : StartsNumber c) :
    value? (fuel + 1) depth (c :: cs) =
      (Number.read? (c :: cs)).map fun (n, rest) ↦ (number n, rest) := by
  have hnull := hc.ne (d := 'n') (by decide)
  have htrue := hc.ne (d := 't') (by decide)
  have hfalse := hc.ne (d := 'f') (by decide)
  have hstring := hc.ne (d := '"') (by decide)
  have harray := hc.ne (d := '[') (by decide)
  have hobject := hc.ne (d := '\x7b') (by decide)
  rw [value?.eq_def]
  split <;> simp_all

/-- The text of a value starts neither with a gap nor with a closing bracket. -/
theorem exists_renderChars_eq_cons {j : Json} (hj : j.IsWhole) :
    ∃ c cs, j.renderChars = c :: cs ∧ isGap c = false ∧ c ≠ ']' := by
  cases j with
  | null => exact ⟨_, _, rfl, by decide, by decide⟩
  | bool b => cases b <;> exact ⟨_, _, rfl, by decide, by decide⟩
  | string s => exact ⟨_, _, rfl, by decide, by decide⟩
  | array items => exact ⟨_, _, rfl, by decide, by decide⟩
  | object fields => exact ⟨_, _, rfl, by decide, by decide⟩
  | number n =>
    cases n with
    | float x => exact hj.elim
    | integer n =>
      obtain ⟨c, cs, hcs, hc⟩ := exists_integerText_eq_cons n
      refine ⟨c, cs, hcs, ?_, hc.ne (by decide)⟩
      simp [isGap, hc.ne (d := ' ') (by decide), hc.ne (d := '\n') (by decide),
        hc.ne (d := '\t') (by decide), hc.ne (d := '\r') (by decide)]

theorem exists_renderItems_eq_cons {x : Json} (items : List Json) (hx : x.IsWhole) :
    ∃ c cs, renderItems (x :: items) = c :: cs ∧ isGap c = false ∧ c ≠ ']' := by
  obtain ⟨c, cs, hcs, hc⟩ := exists_renderChars_eq_cons hx
  cases items with
  | nil => exact ⟨c, cs, hcs, hc⟩
  | cons y items =>
    refine ⟨c, cs ++ ',' :: renderItems (y :: items), ?_, hc⟩
    rw [renderItems, hcs, List.cons_append]

theorem exists_renderFields_eq_cons (field : String × Json) (fields : List (String × Json)) :
    ∃ cs, renderFields (field :: fields) = '"' :: cs := by
  cases fields with
  | nil => exact ⟨_, rfl⟩
  | cons y fields => exact ⟨_, rfl⟩

theorem skip_renderChars {j : Json} (hj : j.IsWhole) (rest : List Char) :
    skip (j.renderChars ++ rest) = j.renderChars ++ rest := by
  obtain ⟨c, cs, hcs, hgap, -⟩ := exists_renderChars_eq_cons hj
  rw [hcs, List.cons_append, skip_cons hgap]

theorem skip_renderItems {x : Json} (items : List Json) (hx : x.IsWhole) (rest : List Char) :
    skip (renderItems (x :: items) ++ rest) = renderItems (x :: items) ++ rest := by
  obtain ⟨c, cs, hcs, hgap, -⟩ := exists_renderItems_eq_cons items hx
  rw [hcs, List.cons_append, skip_cons hgap]

theorem skip_renderFields (field : String × Json) (fields : List (String × Json))
    (rest : List Char) :
    skip (renderFields (field :: fields) ++ rest) = renderFields (field :: fields) ++ rest := by
  obtain ⟨cs, hcs⟩ := exists_renderFields_eq_cons field fields
  rw [hcs, List.cons_append, skip_cons (by decide)]

/-! One step of the reader each, with what is read further on given. -/

theorem value?_string (fuel depth : Nat) (s : String) (rest : List Char) :
    value? (fuel + 1) depth (stringText s ++ rest) = some (string s, rest) := by
  simp [stringText, value?, stringFrom?_flatMap_escapedChar]

theorem value?_openArray {fuel depth : Nat} {c : Char} {cs : List Char} (hgap : isGap c = false)
    (hclose : c ≠ ']') :
    value? (fuel + 1) (depth + 1) ('[' :: c :: cs) =
      (items? fuel depth (c :: cs)).map fun (xs, rest) ↦ (array xs, rest) := by
  simp [value?, skip_cons hgap, hclose]

theorem value?_openObject {fuel depth : Nat} {c : Char} {cs : List Char} (hgap : isGap c = false)
    (hclose : c ≠ '\x7d') :
    value? (fuel + 1) (depth + 1) ('\x7b' :: c :: cs) =
      (fields? fuel depth (c :: cs)).map fun (xs, rest) ↦ (ofFields xs, rest) := by
  simp [value?, skip_cons hgap, hclose]

theorem items?_last {fuel depth : Nat} {cs rest : List Char} {x : Json}
    (h : value? fuel depth cs = some (x, ']' :: rest)) :
    items? (fuel + 1) depth cs = some ([x], rest) := by
  rw [items?, h]
  rfl

theorem items?_more {fuel depth : Nat} {cs rest : List Char} {x : Json}
    (h : value? fuel depth cs = some (x, ',' :: rest)) (hrest : skip rest = rest) :
    items? (fuel + 1) depth cs =
      (items? fuel depth rest).map fun (xs, rest) ↦ (x :: xs, rest) := by
  rw [items?, h]
  simp [skip_cons (c := ',') (by decide), hrest]

theorem fields?_last {fuel depth : Nat} {key : String} {cs rest : List Char} {x : Json}
    (hcs : skip cs = cs) (h : value? fuel depth cs = some (x, '\x7d' :: rest)) :
    fields? (fuel + 1) depth (stringText key ++ ':' :: cs) = some ([(key, x)], rest) := by
  simp [stringText, fields?, stringFrom?_flatMap_escapedChar, skip_cons (c := ':') (by decide), hcs,
    h, skip_cons (c := '\x7d') (by decide)]

theorem fields?_more {fuel depth : Nat} {key : String} {cs rest : List Char} {x : Json}
    (hcs : skip cs = cs) (h : value? fuel depth cs = some (x, ',' :: rest))
    (hrest : skip rest = rest) :
    fields? (fuel + 1) depth (stringText key ++ ':' :: cs) =
      (fields? fuel depth rest).map fun (xs, rest) ↦ ((key, x) :: xs, rest) := by
  simp [stringText, fields?, stringFrom?_flatMap_escapedChar, skip_cons (c := ':') (by decide), hcs,
    h, skip_cons (c := ',') (by decide), hrest]

-- By recursion on the value, along with its items and members; the fuel is matched first because
-- every step needs some.
mutual

/-- A whole value is read back, with the members of its objects in order. -/
theorem value?_renderChars : ∀ (j : Json) (fuel depth : Nat) (rest : List Char), j.IsWhole →
    j.depth ≤ depth → j.renderChars.length < fuel → Number.Ends rest →
      value? fuel depth (j.renderChars ++ rest) = some (j.sorted, rest)
  | _, 0, _, _, _, _, hfuel, _ => absurd hfuel (Nat.not_lt_zero _)
  | null, _ + 1, _, _, _, _, _, _ => rfl
  | bool true, _ + 1, _, _, _, _, _, _ => rfl
  | bool false, _ + 1, _, _, _, _, _, _ => rfl
  | number (.float _), _ + 1, _, _, hwhole, _, _, _ => hwhole.elim
  | number (.integer n), fuel + 1, depth, rest, hwhole, _, _, hrest => by
    have hread := Number.read?_integerText hwhole hrest
    obtain ⟨c, cs, hcs, hc⟩ := exists_integerText_eq_cons n
    rw [renderChars, Number.text]
    rw [hcs, List.cons_append] at hread ⊢
    rw [value?_number hc, hread]
    rfl
  | string s, fuel + 1, depth, rest, _, _, _, _ => value?_string fuel depth s rest
  | array [], _ + 1, depth, _, _, hdepth, _, _ => by
    obtain ⟨depth, rfl⟩ := Nat.exists_eq_add_of_le' hdepth
    rfl
  | array (x :: items), fuel + 1, 0, _, _, hdepth, _, _ => absurd hdepth (Nat.not_succ_le_zero _)
  | array (x :: items), fuel + 1, depth + 1, rest, hwhole, hdepth, hfuel, _ => by
    have hlength : (renderItems (x :: items)).length + 1 < fuel := by
      simp [renderChars] at hfuel
      omega
    have hread := items?_renderItems x items fuel depth rest hwhole
      (Nat.le_of_succ_le_succ hdepth) hlength
    obtain ⟨c, cs, hcs, hgap, hclose⟩ := exists_renderItems_eq_cons items hwhole.1
    rw [renderChars]
    simp only [hcs, List.cons_append, List.append_assoc, List.nil_append] at hread ⊢
    rw [value?_openArray hgap hclose, hread]
    rfl
  | object [], _ + 1, depth, _, _, hdepth, _, _ => by
    obtain ⟨depth, rfl⟩ := Nat.exists_eq_add_of_le' hdepth
    rfl
  | object (x :: fields), fuel + 1, 0, _, _, hdepth, _, _ => absurd hdepth (Nat.not_succ_le_zero _)
  | object (x :: fields), fuel + 1, depth + 1, rest, hwhole, hdepth, hfuel, _ => by
    have hlength : (renderFields (x :: fields)).length + 1 < fuel := by
      simp [renderChars] at hfuel
      omega
    have hread := fields?_renderFields x fields fuel depth rest hwhole
      (Nat.le_of_succ_le_succ hdepth) hlength
    obtain ⟨cs, hcs⟩ := exists_renderFields_eq_cons x fields
    rw [renderChars]
    simp only [hcs, List.cons_append, List.append_assoc, List.nil_append] at hread ⊢
    rw [value?_openObject (by decide) (by decide), hread]
    rfl

/-- The items of an array are read back, up to the closing bracket. -/
theorem items?_renderItems : ∀ (x : Json) (items : List Json) (fuel depth : Nat)
    (rest : List Char), ItemsWhole (x :: items) → itemsDepth (x :: items) ≤ depth →
      (renderItems (x :: items)).length + 1 < fuel →
        items? fuel depth (renderItems (x :: items) ++ ']' :: rest) =
          some (sortedItems (x :: items), rest)
  | _, _, 0, _, _, _, _, hfuel => absurd hfuel (Nat.not_lt_zero _)
  | x, [], fuel + 1, depth, rest, hwhole, hdepth, hfuel =>
    items?_last (value?_renderChars x fuel depth _ hwhole.1
      (Nat.le_trans (Nat.le_max_left _ _) hdepth) (Nat.lt_of_succ_lt_succ hfuel)
      (Number.ends_cons (by decide) rest))
  | x, y :: items, fuel + 1, depth, rest, hwhole, hdepth, hfuel => by
    rw [renderItems, List.length_append, List.length_cons] at hfuel
    have hread := value?_renderChars x fuel depth _ hwhole.1
      (Nat.le_trans (Nat.le_max_left _ _) hdepth) (by omega)
      (Number.ends_cons (c := ',') (by decide) (renderItems (y :: items) ++ ']' :: rest))
    have hreadItems := items?_renderItems y items fuel depth rest hwhole.2
      (Nat.le_trans (Nat.le_max_right _ _) hdepth) (by omega)
    have hskip := skip_renderItems items hwhole.2.1 (']' :: rest)
    rw [renderItems, List.append_assoc, List.cons_append, items?_more hread hskip, hreadItems]
    rfl

/-- The members of an object are read back, up to the closing brace. -/
theorem fields?_renderFields : ∀ (field : String × Json) (fields : List (String × Json))
    (fuel depth : Nat) (rest : List Char), FieldsWhole (field :: fields) →
      fieldsDepth (field :: fields) ≤ depth → (renderFields (field :: fields)).length + 1 < fuel →
        fields? fuel depth (renderFields (field :: fields) ++ '\x7d' :: rest) =
          some (sortedFields (field :: fields), rest)
  | _, _, 0, _, _, _, _, hfuel => absurd hfuel (Nat.not_lt_zero _)
  | (key, x), [], fuel + 1, depth, rest, hwhole, hdepth, hfuel => by
    rw [renderFields, List.length_append, List.length_cons] at hfuel
    have hread := value?_renderChars x fuel depth _ hwhole.1
      (Nat.le_trans (Nat.le_max_left _ _) hdepth) (by omega)
      (Number.ends_cons (c := '\x7d') (by decide) rest)
    rw [renderFields, List.append_assoc, List.cons_append]
    exact fields?_last (skip_renderChars hwhole.1 _) hread
  | (key, x), y :: fields, fuel + 1, depth, rest, hwhole, hdepth, hfuel => by
    simp only [renderFields, List.length_append, List.length_cons] at hfuel
    have hread := value?_renderChars x fuel depth _ hwhole.1
      (Nat.le_trans (Nat.le_max_left _ _) hdepth) (by omega)
      (Number.ends_cons (c := ',') (by decide) (renderFields (y :: fields) ++ '\x7d' :: rest))
    have hreadFields := fields?_renderFields y fields fuel depth rest hwhole.2
      (Nat.le_trans (Nat.le_max_right _ _) hdepth) (by omega)
    have hskip := skip_renderFields y fields ('\x7d' :: rest)
    rw [renderFields]
    simp only [List.append_assoc, List.cons_append]
    rw [fields?_more (skip_renderChars hwhole.1 _) hread hskip, hreadFields]
    rfl

end

end Reader

/-- **Reading undoes writing.** What is read off the octets of a value is the value itself, with the
members of its objects in order. -/
theorem ofBytes?_renderBytes {j : Json} (hwhole : j.IsWhole) (hdepth : j.depth ≤ maxDepth) :
    ofBytes? j.renderBytes = some j.sorted := by
  have hread := Reader.value?_renderChars j _ _ [] hwhole hdepth (Nat.lt_succ_self _)
    Number.ends_nil
  have hskip := Reader.skip_renderChars hwhole []
  rw [List.append_nil] at hread hskip
  rw [ofBytes?, renderBytes, Utf8.decodeChars?_encodeChars, Option.bind_some, parseChars?, hskip,
    hread]
  rfl

end Json
end RequestTelemetry
