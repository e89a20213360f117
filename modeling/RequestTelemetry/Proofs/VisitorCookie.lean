import Mathlib.Data.List.TakeWhile
import RequestTelemetry.Tracking.Identity

/-!
# Whose cookie is found

A visitor is known by a cookie: among the segments of the cookie lines, in order, the first one with
the right name and a value that is not empty and consists of plain characters. What is in the other
segments does not matter as long as their line is plain too. A line with one octet that is not plain
is not read at all, so a cookie in it is not found although it is itself in order, and the visitor
goes by address and user agent instead.
-/

namespace RequestTelemetry

open Http

/-! ## Plain lines -/

/-- Whether an octet is a visible ASCII character, a space or a tab. -/
def Http.isPlainOctet (b : UInt8) : Bool := (0x20 ≤ b && b < 0x7F) || b == 0x09

/-- Whether a character is a visible ASCII character, a space or a tab. -/
def Http.isPlainChar (c : Char) : Bool := (0x20 ≤ c.toNat && c.toNat < 0x7F) || c.toNat == 0x09

theorem Http.lt_of_isPlainOctet {b : UInt8} (h : isPlainOctet b) : b < 0x80 := by
  simp only [isPlainOctet, Bool.or_eq_true, Bool.and_eq_true, decide_eq_true_eq, beq_iff_eq] at h
  rcases h with ⟨-, h⟩ | rfl
  · exact UInt8.lt_trans h (by decide)
  · decide

theorem Http.toNat_toChar {b : UInt8} (h : b < 0x80) : (toChar b).toNat = b.toNat := by
  have hb : b.toNat < 0x80 := UInt8.lt_iff_toNat_lt.mp h
  have hvalid : b.toNat.isValidChar := Or.inl (Nat.lt_trans hb (by decide))
  rw [toChar, Char.ofNat, dif_pos hvalid]
  rfl

theorem Http.isPlainChar_toChar {b : UInt8} (h : isPlainOctet b) : isPlainChar (toChar b) := by
  have htoNat := toNat_toChar (lt_of_isPlainOctet h)
  simp only [isPlainOctet, Bool.or_eq_true, Bool.and_eq_true, decide_eq_true_eq, beq_iff_eq,
    UInt8.le_iff_toNat_le, UInt8.lt_iff_toNat_lt, ← UInt8.toNat_inj] at h
  simp only [isPlainChar, htoNat, Bool.or_eq_true, Bool.and_eq_true, decide_eq_true_eq, beq_iff_eq]
  exact h

theorem Text.mem_of_mem_trim {c : Char} {cs : List Char} (h : c ∈ trim cs) : c ∈ cs := by
  have hstart : c ∈ trimStart cs := by
    rw [trim, trimEnd, List.mem_reverse] at h
    exact List.mem_reverse.mp ((List.dropWhile_sublist _).subset h)
  exact (List.dropWhile_sublist _).subset hstart

namespace Utf8

theorem foldl_push_ascii (read : List (Option Char)) {bs : Bytes} (h : ∀ b ∈ bs, b < 0x80) :
    bs.foldl Decoder.push ⟨read, none⟩
      = ⟨(bs.map fun b ↦ some (toChar b)).reverse ++ read, none⟩ := by
  induction bs generalizing read with
  | nil => rfl
  | cons b bs ih =>
    have hpush : Decoder.push ⟨read, none⟩ b = ⟨some (toChar b) :: read, none⟩ := by
      simp only [Decoder.push, Decoder.start, opening, if_pos (h b List.mem_cons_self)]
      rfl
    rw [List.foldl_cons, hpush, ih _ fun b' hb' ↦ h b' (List.mem_cons_of_mem b hb'),
      List.map_cons, List.reverse_cons, List.append_assoc]
    rfl

/-- ASCII octets read as their characters. -/
theorem lossyChars_ascii {bs : Bytes} (h : ∀ b ∈ bs, b < 0x80) :
    lossyChars bs = bs.map toChar := by
  rw [lossyChars, units, foldl_push_ascii [] h, Decoder.finish]
  simp

end Utf8

/-! ## Segments -/

namespace Tracking

theorem pieces_eq_splitOn (separator : Char) (cs : List Char) :
    pieces separator cs = cs.splitOn separator := by
  induction cs with
  | nil => rfl
  | cons c cs ih =>
    rw [pieces, ih, List.splitOn_cons_eq_if_modifyHead]
    by_cases h : c = separator
    · simp [h]
    · -- the character comes to the first piece, and there always is one
      obtain ⟨piece, more, hsplit⟩ :=
        List.exists_cons_of_ne_nil (List.splitOnP_ne_nil (· == separator) cs)
      simp [h, List.splitOn, hsplit]

/-- What stands in a piece stands in the text. -/
theorem mem_of_mem_pieces {separator c : Char} {cs piece : List Char}
    (hpiece : piece ∈ pieces separator cs) (hc : c ∈ piece) : c ∈ cs := by
  induction cs generalizing piece with
  | nil =>
    obtain rfl : piece = [] := List.mem_singleton.mp hpiece
    exact hc
  | cons d cs ih =>
    rw [pieces] at hpiece
    by_cases hd : d = separator
    · rw [if_pos hd] at hpiece
      rcases List.mem_cons.mp hpiece with rfl | hpiece
      · exact absurd hc List.not_mem_nil
      · exact List.mem_cons_of_mem d (ih hpiece hc)
    · rw [if_neg hd] at hpiece
      cases hrest : pieces separator cs with
      | nil =>
        rw [hrest] at hpiece
        obtain rfl : piece = [d] := List.mem_singleton.mp hpiece
        exact List.mem_cons.mpr (.inl (List.mem_singleton.mp hc))
      | cons first more =>
        rw [hrest] at hpiece ih
        rcases List.mem_cons.mp hpiece with rfl | hpiece
        · -- the first piece starts with the character itself
          rcases List.mem_cons.mp hc with rfl | hc
          · exact List.mem_cons_self
          · exact List.mem_cons_of_mem d (ih List.mem_cons_self hc)
        · exact List.mem_cons_of_mem d (ih (List.mem_cons_of_mem first hpiece) hc)

/-- The segments of a cookie line: its text, split at the semicolons. -/
def segments (line : Bytes) : List (List Char) := (Utf8.lossyChars line).splitOn ';'

/-- Whether a segment is a cookie: it is split at its first equals sign into the name and the value,
and the blanks around them do not count. -/
def IsCookie (segment : List Char) (name value : String) : Prop :=
  ∃ left right, segment = left ++ '=' :: right ∧ '=' ∉ left ∧
    Text.trim left = name.toList ∧ Text.trim right = value.toList

theorem cookieOf?_of_not_mem {segment : List Char} (h : '=' ∉ segment) :
    cookieOf? segment = none := by
  have hnil : segment.dropWhile (· ≠ '=') = [] := by
    rw [List.dropWhile_eq_nil_iff]
    intro c hc
    exact decide_eq_true fun hce ↦ h (hce ▸ hc)
  simp only [cookieOf?, hnil]

theorem cookieOf?_append {left : List Char} (hleft : '=' ∉ left) (right : List Char) :
    cookieOf? (left ++ '=' :: right) =
      match Text.trim left with
      | [] => none
      | name => some (String.ofList name, String.ofList (Text.trim right)) := by
  have hne : ∀ c ∈ left, decide (c ≠ '=') := by
    intro c hc
    exact decide_eq_true fun h ↦ hleft (h ▸ hc)
  have htake : (left ++ '=' :: right).takeWhile (· ≠ '=') = left := by
    rw [List.takeWhile_append_of_pos hne, List.takeWhile_cons_of_neg (by simp), List.append_nil]
  have hdrop : (left ++ '=' :: right).dropWhile (· ≠ '=') = '=' :: right := by
    rw [List.dropWhile_append_of_pos hne, List.dropWhile_cons_of_neg (by simp)]
  cases htrim : Text.trim left <;> simp only [cookieOf?, htake, hdrop, htrim]

/-- A segment is read as a cookie exactly if it is one and has a name. -/
theorem cookieOf?_eq_some_iff {segment : List Char} {name value : String} :
    cookieOf? segment = some (name, value) ↔ name ≠ "" ∧ IsCookie segment name value := by
  constructor
  · intro h
    by_cases hmem : '=' ∈ segment
    · obtain ⟨left, right, rfl, hleft⟩ := List.eq_append_cons_of_mem hmem
      rw [cookieOf?_append hleft] at h
      cases htrim : Text.trim left with
      | nil => simp [htrim] at h
      | cons c cs =>
        simp only [htrim, Option.some.injEq, Prod.mk.injEq] at h
        obtain ⟨rfl, rfl⟩ := h
        exact ⟨by simp, left, right, rfl, hleft, by simp [htrim], by simp⟩
    · simp [cookieOf?_of_not_mem hmem] at h
  · rintro ⟨hname, left, right, rfl, hleft, htrim, hvalue⟩
    rw [cookieOf?_append hleft]
    cases hcs : Text.trim left with
    | nil => exact absurd (String.toList_eq_nil_iff.mp (htrim.symm.trans hcs)) hname
    | cons c cs => simp [← hcs, htrim, hvalue]

/-- Whether a value can be found: it is not empty, and its characters are plain. -/
def IsUsable (value : String) : Prop := value ≠ "" ∧ ∀ c ∈ value.toList, isPlainChar c

/-- Whether a value is that of the first usable cookie of a name among segments. -/
def IsFirst (segments : List (List Char)) (name value : String) : Prop :=
  ∃ before segment after, segments = before ++ segment :: after ∧
    IsCookie segment name value ∧ IsUsable value ∧
    ∀ s ∈ before, ∀ v, IsCookie s name v → ¬ IsUsable v

/-- The value that a segment gives a cookie name. -/
def valueIn? (name : String) (segment : List Char) : Option String :=
  ((cookieOf? segment).filter fun c ↦ c.1 = name && c.2 ≠ "").map Prod.snd

theorem valueIn?_eq_some_iff {name value : String} {segment : List Char} (hname : name ≠ "") :
    valueIn? name segment = some value ↔ IsCookie segment name value ∧ value ≠ "" := by
  simp only [valueIn?, Option.map_eq_some_iff, Option.filter_eq_some_iff, Prod.exists,
    cookieOf?_eq_some_iff, Bool.and_eq_true, decide_eq_true_eq]
  constructor
  · rintro ⟨_, _, ⟨⟨-, hcookie⟩, rfl, hne⟩, rfl⟩
    exact ⟨hcookie, hne⟩
  · rintro ⟨hcookie, hne⟩
    exact ⟨name, value, ⟨⟨hname, hcookie⟩, rfl, hne⟩, rfl⟩

/-- The usable value that a segment gives a cookie name. -/
def usableIn? (name : String) (segment : List Char) : Option String :=
  (valueIn? name segment).filter fun value ↦ value.toList.all isPlainChar

theorem usableIn?_eq_some_iff {name value : String} {segment : List Char} (hname : name ≠ "") :
    usableIn? name segment = some value ↔ IsCookie segment name value ∧ IsUsable value := by
  rw [usableIn?, Option.filter_eq_some_iff, valueIn?_eq_some_iff hname, List.all_eq_true, and_assoc,
    IsUsable]

theorem usableIn?_eq_none_iff {name : String} {segment : List Char} (hname : name ≠ "") :
    usableIn? name segment = none ↔ ∀ value, IsCookie segment name value → ¬ IsUsable value := by
  rw [Option.eq_none_iff_forall_ne_some]
  refine forall_congr' fun value ↦ ?_
  rw [Ne, usableIn?_eq_some_iff hname, not_and]

/-- The first usable cookie is found by going through the segments. -/
theorem isFirst_iff {segments : List (List Char)} {name value : String} (hname : name ≠ "") :
    IsFirst segments name value ↔ segments.findSome? (usableIn? name) = some value := by
  rw [IsFirst, List.findSome?_eq_some_iff]
  simp only [usableIn?_eq_some_iff hname, usableIn?_eq_none_iff hname, and_assoc]

/-! ## What is read -/

/-- Whether a line consists of visible ASCII octets, spaces and tabs. -/
def IsPlain (line : Bytes) : Prop := line.all isPlainOctet

instance (line : Bytes) : Decidable (IsPlain line) := inferInstanceAs (Decidable (_ = true))

theorem lossyChars_of_isPlain {line : Bytes} (h : IsPlain line) :
    Utf8.lossyChars line = line.map toChar :=
  Utf8.lossyChars_ascii fun _ hb ↦ lt_of_isPlainOctet (List.all_eq_true.mp h _ hb)

theorem cookiesOf_eq (line : Bytes) :
    cookiesOf line = if IsPlain line then (segments line).filterMap cookieOf? else [] := by
  by_cases h : IsPlain line
  · have hascii : asciiValue? line = some (asciiText line) := if_pos h
    simp only [cookiesOf, hascii, if_pos h, segments, lossyChars_of_isPlain h, pieces_eq_splitOn,
      asciiText, String.toList_ofList]
  · have hnone : asciiValue? line = none := if_neg h
    simp only [cookiesOf, hnone, if_neg h]

/-- The segments of the cookie lines of a request, in order. -/
def cookieSegments (r : Request) : List (List Char) :=
  (r.headers.getAll .cookie).flatMap segments

/-- The segments of the cookie lines that are plain. -/
def readSegments (r : Request) : List (List Char) :=
  ((r.headers.getAll .cookie).filter fun line ↦ IsPlain line).flatMap segments

theorem cookies_eq (r : Request) : cookies r = (readSegments r).filterMap cookieOf? := by
  rw [cookies, readSegments]
  induction r.headers.getAll .cookie with
  | nil => rfl
  | cons line lines ih =>
    rw [List.flatMap_cons, ih, cookiesOf_eq, List.filter_cons]
    by_cases h : IsPlain line <;> simp [h]

/-- The characters of a plain line's segments are plain, and so are those of the values in them. -/
theorem isUsable_of_mem_readSegments {r : Request} {segment : List Char} {name value : String}
    (hmem : segment ∈ readSegments r) (hcookie : IsCookie segment name value) (hne : value ≠ "") :
    IsUsable value := by
  obtain ⟨line, hline, hpiece⟩ := List.mem_flatMap.mp hmem
  have hplain : IsPlain line := of_decide_eq_true (List.mem_filter.mp hline).2
  obtain ⟨left, right, rfl, -, -, hvalue⟩ := hcookie
  refine ⟨hne, fun c hc ↦ ?_⟩
  rw [← hvalue] at hc
  have hright : c ∈ right := Text.mem_of_mem_trim hc
  rw [segments, ← pieces_eq_splitOn, lossyChars_of_isPlain hplain] at hpiece
  have hc : c ∈ line.map toChar :=
    mem_of_mem_pieces hpiece (List.mem_append_right _ (List.mem_cons_of_mem _ hright))
  obtain ⟨b, hb, rfl⟩ := List.mem_map.mp hc
  exact isPlainChar_toChar (List.all_eq_true.mp hplain b hb)

theorem find?_filterMap_eq_findSome? {α β : Type} (f : α → Option β) (p : β → Bool) (xs : List α) :
    (xs.filterMap f).find? p = xs.findSome? fun x ↦ (f x).filter p := by
  induction xs with
  | nil => rfl
  | cons x xs ih =>
    rw [List.findSome?_cons, ← ih, List.filterMap_cons]
    cases f x with
    | none => rfl
    | some y => by_cases h : p y <;> simp [Option.filter, h]

theorem cookieValue?_eq_findSome? (r : Request) (name : String) :
    cookieValue? r name = (readSegments r).findSome? (valueIn? name) := by
  rw [cookieValue?, cookies_eq, find?_filterMap_eq_findSome?, List.map_findSome?]
  rfl

theorem findSome?_congr {α β : Type} {f g : α → Option β} {xs : List α}
    (h : ∀ x ∈ xs, f x = g x) : xs.findSome? f = xs.findSome? g := by
  induction xs with
  | nil => rfl
  | cons x xs ih =>
    rw [List.findSome?_cons, List.findSome?_cons, h x List.mem_cons_self,
      ih fun y hy ↦ h y (List.mem_cons_of_mem x hy)]

/-- What is found is the value of the first usable cookie in the lines that are read. -/
theorem cookieValue?_eq_some_iff {r : Request} {name value : String} (hname : name ≠ "") :
    cookieValue? r name = some value ↔ IsFirst (readSegments r) name value := by
  -- in the lines that are read every value is usable
  have husable : ∀ segment ∈ readSegments r, valueIn? name segment = usableIn? name segment := by
    intro segment hmem
    ext v
    rw [valueIn?_eq_some_iff hname, usableIn?_eq_some_iff hname]
    constructor
    · rintro ⟨hcookie, hne⟩
      exact ⟨hcookie, isUsable_of_mem_readSegments hmem hcookie hne⟩
    · rintro ⟨hcookie, husable⟩
      exact ⟨hcookie, husable.1⟩
  rw [isFirst_iff hname, cookieValue?_eq_findSome?, findSome?_congr husable]

/-- Lines without a usable cookie of the name do not matter. -/
theorem isFirst_readSegments_iff {r : Request} {name : String} (hname : name ≠ "")
    (h : ∀ line ∈ r.headers.getAll .cookie, ¬ IsPlain line →
      ∀ segment ∈ segments line, ∀ v, IsCookie segment name v → ¬ IsUsable v) (value : String) :
    IsFirst (readSegments r) name value ↔ IsFirst (cookieSegments r) name value := by
  rw [isFirst_iff hname, isFirst_iff hname, readSegments, cookieSegments]
  generalize r.headers.getAll .cookie = lines at h
  have hsame : ((lines.filter fun line ↦ IsPlain line).flatMap segments).findSome? (usableIn? name)
      = (lines.flatMap segments).findSome? (usableIn? name) := by
    induction lines with
    | nil => rfl
    | cons line lines ih =>
      have ih := ih fun line' hline' ↦ h line' (List.mem_cons_of_mem line hline')
      by_cases hplain : IsPlain line
      · rw [List.filter_cons, if_pos (decide_eq_true hplain), List.flatMap_cons, List.flatMap_cons,
          List.findSome?_append, List.findSome?_append, ih]
      · have hnone : (segments line).findSome? (usableIn? name) = none := by
          rw [List.findSome?_eq_none_iff]
          intro segment hsegment
          rw [usableIn?_eq_none_iff hname]
          exact h line List.mem_cons_self hplain segment hsegment
        rw [List.filter_cons, if_neg (by simpa using hplain), List.flatMap_cons,
          List.findSome?_append, hnone, Option.none_or, ih]
  rw [hsame]

/-- **Whose cookie is found.** The client goes by the first usable cookie of the name in the lines
that are plain, and without one by address and user agent. That is the first usable cookie of all
lines as long as no line that is not plain has one. -/
theorem clientId_of_first_cookie (r : Request) {name : String} (hname : name ≠ "") :
    (∀ value, cookieValue? r name = some value ↔ IsFirst (readSegments r) name value) ∧
      (∀ value, IsFirst (readSegments r) name value → clientId r name = value) ∧
      ((∀ value, ¬ IsFirst (readSegments r) name value) →
        cookieValue? r name = none ∧ clientId r name = clientIp r ++ r.userAgent) ∧
      ((∀ line ∈ r.headers.getAll .cookie, ¬ IsPlain line →
          ∀ segment ∈ segments line, ∀ v, IsCookie segment name v → ¬ IsUsable v) →
        ∀ value, IsFirst (readSegments r) name value ↔ IsFirst (cookieSegments r) name value) := by
  refine ⟨fun value ↦ cookieValue?_eq_some_iff hname, fun value hvalue ↦ ?_, fun hnone ↦ ?_,
    isFirst_readSegments_iff hname⟩
  · rw [clientId, (cookieValue?_eq_some_iff hname).mpr hvalue, Option.getD_some]
  · have hcookie : cookieValue? r name = none := by
      rw [Option.eq_none_iff_forall_ne_some]
      exact fun value hvalue ↦ hnone value ((cookieValue?_eq_some_iff hname).mp hvalue)
    exact ⟨hcookie, by rw [clientId, hcookie, Option.getD_none]⟩

/-- A request with cookies. -/
private def visitWith (lines : List Bytes) : Request :=
  { headers := ⟨lines.map (.cookie, ·) ++ [(.userAgent, Utf8.encode "UA1")]⟩,
    peer := some (.v4 ⟨9, 9, 9, 9⟩ 4444) }

/-- The second line has the first usable cookie: the lines before it name it without a value. -/
theorem second_line_names_the_client :
    let r := visitWith [Utf8.encode "_ga=; =x; ;_GA=1", Utf8.encode "a=b;  _ga = k=v ; _ga=other"]
    "_ga" ≠ "" ∧ IsFirst (cookieSegments r) "_ga" "k=v" ∧ clientId r "_ga" = "k=v" := by
  intro r
  obtain ⟨hfound, hclient, -, hall⟩ := clientId_of_first_cookie r (by decide : "_ga" ≠ "")
  have hfirst : IsFirst (readSegments r) "_ga" "k=v" := (hfound "k=v").mp (by decide)
  have hplain : ∀ line ∈ r.headers.getAll .cookie, IsPlain line := by decide
  refine ⟨by decide, (hall (fun line hline hne ↦ ?_) "k=v").mp hfirst, hclient "k=v" hfirst⟩
  exact absurd (hplain line hline) hne

/-- A letter with an accent in another cookie hides the client's cookie: it is the first usable one
of the request, but its line is not read. -/
theorem accented_cookie_hides_its_line :
    let r := visitWith [Utf8.encode "theme=é; _ga=abc123"]
    IsFirst (cookieSegments r) "_ga" "abc123" ∧ cookieValue? r "_ga" = none ∧
      clientId r "_ga" = "9.9.9.9UA1" := by
  intro r
  have htheme : cookieOf? "theme=é".toList = some ("theme", "é") := by decide
  have hcookie : cookieOf? " _ga=abc123".toList = some ("_ga", "abc123") := by decide
  refine ⟨⟨["theme=é".toList], " _ga=abc123".toList, [], by decide,
    (cookieOf?_eq_some_iff.mp hcookie).2, ⟨by decide, List.all_eq_true.mp (by decide)⟩, ?_⟩,
    by decide, by decide⟩
  intro s hs v hv
  obtain rfl : s = "theme=é".toList := List.mem_singleton.mp hs
  have hread : cookieOf? "theme=é".toList = some ("_ga", v) :=
    cookieOf?_eq_some_iff.mpr ⟨by decide, hv⟩
  rw [htheme] at hread
  simp at hread

end Tracking
end RequestTelemetry
