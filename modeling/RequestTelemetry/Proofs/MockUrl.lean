import Mathlib.Data.List.TakeWhile
import RequestTelemetry.Proofs.FormRoundTrip
import RequestTelemetry.Tracking.HttpCollector

/-!
# URLs on a mock server

What a client makes of the URL of a path on a mock server. Three readers are involved: that of
URLs, that of request targets when the URL is checked, and that of request targets once more when
the request is sent. If the first leaves the path as it is, then the path holds only characters that
all three let stand, and with a query of form-encoded pairs the target that arrives is that path and
that query.
-/

namespace RequestTelemetry

open Http

/-! ## ASCII texts -/

/-- The octet of an ASCII character. -/
def octetOf (c : Char) : UInt8 := UInt8.ofNat c.toNat

/-- What holds of the 128 ASCII characters by their numbers holds of every one. -/
@[elab_as_elim]
theorem forall_ascii {P : Char → Prop} (h : ∀ n < 128, P (Char.ofNat n)) (c : Char)
    (hc : c.toNat < 128) : P c := by
  have hp := h c.toNat hc
  rwa [Char.ofNat_toNat] at hp

theorem encodeChars_of_ascii {cs : List Char} (h : ∀ c ∈ cs, c.toNat < 128) :
    Utf8.encodeChars cs = cs.map octetOf := by
  induction cs with
  | nil => rfl
  | cons c cs ih =>
    have hc : c.val.toNat ≤ 0x7F := Nat.le_of_lt_succ (h c List.mem_cons_self)
    rw [Utf8.encodeChars, List.flatMap_cons, ← Utf8.encodeChars,
      ih fun c' hc' ↦ h c' (List.mem_cons_of_mem c hc'), String.utf8EncodeChar, if_pos hc]
    rfl

namespace Url

/-! ## Paths -/

/-- A character that stands in a path as it is. -/
def IsPathChar (c : Char) : Prop := pathEscapes c = false

instance (c : Char) : Decidable (IsPathChar c) := inferInstanceAs (Decidable (_ = false))

theorem IsPathChar.toNat_bounds {c : Char} (h : IsPathChar c) :
    0x20 < c.toNat ∧ c.toNat < 0x7F := by
  have hcontrol : isControl c = false := by
    rw [IsPathChar, pathEscapes, fragmentEscapes, Bool.or_eq_false_iff, Bool.or_eq_false_iff] at h
    exact h.1.1
  have hspace : c.toNat ≠ 0x20 := by
    intro heq
    have hc : c = ' ' := by rw [← Char.ofNat_toNat c, heq]
    rw [hc] at h
    exact absurd h (by decide)
  rw [isControl, Bool.or_eq_false_iff, decide_eq_false_iff_not, decide_eq_false_iff_not] at hcontrol
  omega

/-- What is written escaped holds path characters only. -/
theorem isPathChar_of_mem_escape {cs : List Char} : ∀ c ∈ escape pathEscapes cs, IsPathChar c := by
  have hoctet : ∀ b : UInt8, (escapeOctet b).all (!pathEscapes ·) = true :=
    fun b ↦ forall_octet (by decide +kernel) b
  intro c hc
  obtain ⟨a, -, hca⟩ := List.mem_flatMap.mp hc
  by_cases ha : pathEscapes a = true
  · rw [if_pos ha] at hca
    obtain ⟨b, -, hcb⟩ := List.mem_flatMap.mp hca
    have hnot := List.all_eq_true.mp (hoctet b) c hcb
    simpa [IsPathChar] using hnot
  · rw [if_neg ha] at hca
    rw [List.mem_singleton.mp hca]
    exact Bool.eq_false_iff.mpr ha

/-- Resolving a segment: what is resolved then was so before, or is empty, or is that segment
escaped; and a last segment leaves something behind. -/
theorem resolveDots_cons (done : List (List Char)) (seg : List Char) (segs : List (List Char)) :
    ∃ done', resolveDots done (seg :: segs) = resolveDots done' segs ∧ (segs ≠ [] ∨ done' ≠ []) ∧
      ∀ s ∈ done', s ∈ done ∨ s = [] ∨ s = escape pathEscapes seg := by
  -- a dot segment leaves an empty one if it is the last
  have hdots : ∀ above : List (List Char), (∀ s ∈ above, s ∈ done) →
      (segs ≠ [] ∨ (if segs.isEmpty then [] :: above else above) ≠ []) ∧
        ∀ s ∈ (if segs.isEmpty then [] :: above else above),
          s ∈ done ∨ s = [] ∨ s = escape pathEscapes seg := by
    intro above habove
    cases segs with
    | nil =>
      constructor
      · exact Or.inr (List.cons_ne_nil _ _)
      · intro s hs
        rcases List.mem_cons.mp hs with rfl | hs
        · exact Or.inr (Or.inl rfl)
        · exact Or.inl (habove s hs)
    | cons next segs =>
      constructor
      · exact Or.inl (List.cons_ne_nil _ _)
      · intro s hs
        exact Or.inl (habove s hs)
  rw [resolveDots]
  by_cases hdouble : isDoubleDot seg = true
  · rw [if_pos hdouble]
    exact ⟨_, rfl, hdots _ fun s hs ↦ List.mem_of_mem_drop hs⟩
  · rw [if_neg hdouble]
    by_cases hdot : isDot seg = true
    · rw [if_pos hdot]
      exact ⟨_, rfl, hdots _ fun s hs ↦ hs⟩
    · rw [if_neg hdot]
      refine ⟨_, rfl, Or.inr (List.cons_ne_nil _ _), ?_⟩
      intro s hs
      rcases List.mem_cons.mp hs with rfl | hs
      · exact Or.inr (Or.inr rfl)
      · exact Or.inl hs

theorem isPathChar_of_mem_resolveDots (segs : List (List Char)) {done : List (List Char)}
    (hdone : ∀ s ∈ done, ∀ c ∈ s, IsPathChar c) :
    ∀ s ∈ resolveDots done segs, ∀ c ∈ s, IsPathChar c := by
  induction segs generalizing done with
  | nil =>
    intro s hs
    exact hdone s (List.mem_reverse.mp hs)
  | cons seg segs ih =>
    obtain ⟨done', heq, -, hmem⟩ := resolveDots_cons done seg segs
    rw [heq]
    apply ih
    intro s hs
    rcases hmem s hs with hs | rfl | rfl
    · exact hdone s hs
    · exact fun c hc ↦ absurd hc List.not_mem_nil
    · exact isPathChar_of_mem_escape

theorem resolveDots_ne_nil {segs done : List (List Char)} (h : segs ≠ [] ∨ done ≠ []) :
    resolveDots done segs ≠ [] := by
  induction segs generalizing done with
  | nil =>
    have hdone : done ≠ [] := h.resolve_left fun hnil ↦ hnil rfl
    exact fun heq ↦ hdone (List.reverse_eq_nil_iff.mp heq)
  | cons seg segs ih =>
    obtain ⟨done', heq, hne, -⟩ := resolveDots_cons done seg segs
    rw [heq]
    exact ih hne

theorem segments_ne_nil (web : Bool) (cs : List Char) : segments web cs ≠ [] := by
  cases cs with
  | nil => exact List.cons_ne_nil _ _
  | cons c cs =>
    rw [segments]
    split
    · exact List.cons_ne_nil _ _
    · split <;> exact List.cons_ne_nil _ _

/-- The path of a URL of the web starts with a slash and holds path characters only. -/
theorem readPath_web (cs : List Char) :
    ∃ rest, readPath true cs = '/' :: rest ∧ ∀ c ∈ '/' :: rest, IsPathChar c := by
  have hslash : IsPathChar '/' := by decide
  have hjoin : ∀ segs : List (List Char), (∀ s ∈ segs, ∀ c ∈ s, IsPathChar c) →
      ∀ c ∈ segs.flatMap ('/' :: ·), IsPathChar c := by
    intro segs hsegs c hc
    obtain ⟨s, hs, hcs⟩ := List.mem_flatMap.mp hc
    rcases List.mem_cons.mp hcs with rfl | hcs
    · exact hslash
    · exact hsegs s hs c hcs
  cases cs with
  | nil => exact ⟨[], rfl, fun c hc ↦ List.mem_singleton.mp hc ▸ hslash⟩
  | cons c rest =>
    rw [readPath]
    generalize hsegs : segments true (if isSeparator true c = true then rest else c :: rest) = segs
    have hchars : ∀ c ∈ (resolveDots [] segs).flatMap ('/' :: ·), IsPathChar c :=
      hjoin _ (isPathChar_of_mem_resolveDots segs fun s hs ↦ absurd hs List.not_mem_nil)
    have hne : resolveDots [] segs ≠ [] :=
      resolveDots_ne_nil (Or.inl (hsegs ▸ segments_ne_nil true _))
    obtain ⟨s, more, hs⟩ := List.exists_cons_of_ne_nil hne
    rw [hs, List.flatMap_cons] at hchars ⊢
    exact ⟨s ++ more.flatMap ('/' :: ·), rfl, hchars⟩

/-! ## Reading -/

/-- Cleaning a text only concerns what follows a stem without spaces and control characters. -/
theorem exists_cleaned_append {stem : List Char} (hne : stem ≠ [])
    (hstem : ∀ c ∈ stem, 0x20 < c.toNat) (cs : List Char) :
    ∃ tail, cleaned (stem ++ cs) = stem ++ tail ∧ ((∀ c ∈ cs, 0x20 < c.toNat) → tail = cs) := by
  let blank (c : Char) : Bool := c.toNat ≤ 0x20
  let kept (c : Char) : Bool := c ≠ '\t' ∧ c ≠ '\n' ∧ c ≠ '\r'
  have hblank : ∀ c, 0x20 < c.toNat → ¬blank c = true := by
    intro c hc hle
    exact absurd (of_decide_eq_true hle) (Nat.not_le_of_lt hc)
  have hkept : ∀ cs : List Char, (∀ c ∈ cs, 0x20 < c.toNat) → cs.filter kept = cs := by
    intro cs hcs
    refine List.filter_eq_self.mpr fun c hc ↦ decide_eq_true ⟨?_, ?_, ?_⟩ <;>
    · rintro rfl
      exact absurd (hcs _ hc) (by decide)
  have hdrop : ∀ cs : List Char, (∀ c ∈ cs, 0x20 < c.toNat) → cs.dropWhile blank = cs := by
    intro cs hcs
    cases cs with
    | nil => rfl
    | cons c cs => exact List.dropWhile_cons_of_neg (hblank c (hcs c List.mem_cons_self))
  have hstem' : ∀ c ∈ stem.reverse, 0x20 < c.toNat := fun c hc ↦ hstem c (List.mem_reverse.mp hc)
  -- the stem starts with a visible character, so nothing goes at the front
  have hfront : (stem ++ cs).dropWhile blank = stem ++ cs := by
    obtain ⟨c, rest, rfl⟩ := List.exists_cons_of_ne_nil hne
    exact List.dropWhile_cons_of_neg (hblank c (hstem c List.mem_cons_self))
  -- at the back blanks go up to the stem at most
  have hback : (stem ++ cs).reverse.dropWhile blank
      = cs.reverse.dropWhile blank ++ stem.reverse := by
    rw [List.reverse_append, List.dropWhile_append]
    split
    · rename_i hempty
      rw [List.isEmpty_iff.mp hempty, List.nil_append, hdrop _ hstem']
    · rfl
  refine ⟨((cs.reverse.dropWhile blank).reverse).filter kept, ?_, ?_⟩
  · show (((stem ++ cs).dropWhile blank).reverse.dropWhile blank).reverse.filter kept = _
    rw [hfront, hback, List.reverse_append, List.reverse_reverse, List.filter_append,
      hkept stem hstem]
  · intro hcs
    rw [hdrop _ fun c hc ↦ hcs c (List.mem_reverse.mp hc), List.reverse_reverse, hkept cs hcs]

/-- The host of a mock server. -/
def loopbackHost : List Char := ['1', '2', '7', '.', '0', '.', '0', '.', '1']

/-- The authority of a mock server at a port. -/
def mockAuthority (port : UInt16) : List Char := loopbackHost ++ ':' :: Net.decimal port.toNat

/-- The scheme and the slashes before the authority. -/
def schemeChars : List Char := ['h', 't', 't', 'p', ':', '/', '/']

/-- The port as a URL keeps it: the default is left out. -/
def keptPort (port : UInt16) : Option Nat := if port.toNat = 80 then none else some port.toNat

/-- What holds of the ten digits by their numbers holds of every digit. -/
@[elab_as_elim]
theorem forall_digit {P : Char → Prop} (h : ∀ n < 10, P (Char.ofNat (0x30 + n))) (c : Char)
    (hc : c.isDigit = true) : P c := by
  rw [Char.isDigit, Bool.and_eq_true, decide_eq_true_eq, decide_eq_true_eq] at hc
  have hlow : 0x30 ≤ c.toNat := hc.1
  have hhigh : c.toNat ≤ 0x39 := hc.2
  have hp := h (c.toNat - 0x30) (by omega)
  rwa [Nat.add_sub_cancel' hlow, Char.ofNat_toNat] at hp

theorem isDigit_of_mem_decimal {n : Nat} {c : Char} (hc : c ∈ Net.decimal n) : c.isDigit = true :=
  Text.isDigit_of_mem_decimalDigits hc

theorem mem_mockAuthority {port : UInt16} {c : Char} (hc : c ∈ mockAuthority port) :
    c.isDigit = true ∨ c = '.' ∨ c = ':' := by
  have hhost : ∀ c ∈ loopbackHost, c.isDigit = true ∨ c = '.' ∨ c = ':' := by
    simp [loopbackHost]
  rcases List.mem_append.mp hc with hc | hc
  · exact hhost c hc
  · rcases List.mem_cons.mp hc with heq | hc
    · exact Or.inr (Or.inr heq)
    · exact Or.inl (isDigit_of_mem_decimal hc)

/-- What holds of digits, dots and colons holds of every character of an authority. -/
theorem forall_mockAuthority {P : Char → Prop} (hdigit : ∀ n < 10, P (Char.ofNat (0x30 + n)))
    (hdot : P '.') (hcolon : P ':') (port : UInt16) : ∀ c ∈ mockAuthority port, P c := by
  intro c hc
  rcases mem_mockAuthority hc with hc | rfl | rfl
  · exact forall_digit hdigit c hc
  · exact hdot
  · exact hcolon

theorem toList_urlOf (port : UInt16) (path : String) :
    (Mock.Server.urlOf (Mock.Server.address port) path).toList
      = schemeChars ++ mockAuthority port ++ path.toList := by
  rw [Mock.Server.urlOf, Mock.Server.baseUrl, Net.SocketAddr.text, String.toList_append,
    String.toList_append, String.toList_ofList, String.toList_ofList]
  rfl

theorem visible_mockAuthority (port : UInt16) :
    ∀ c ∈ schemeChars ++ mockAuthority port, 0x20 < c.toNat := by
  have hscheme : ∀ c ∈ schemeChars, 0x20 < c.toNat := by simp [schemeChars]
  intro c hc
  rcases List.mem_append.mp hc with hc | hc
  · exact hscheme c hc
  · exact forall_mockAuthority (P := fun c ↦ 0x20 < c.toNat) (by decide) (by decide) (by decide)
      port c hc

theorem readScheme?_http (rest : List Char) :
    readScheme? ('h' :: 't' :: 't' :: 'p' :: ':' :: rest) = some ("http", rest) := rfl

theorem dropWhile_isSeparator (rest : List Char) :
    ('/' :: '/' :: '1' :: rest).dropWhile (isSeparator true) = '1' :: rest := rfl

theorem isWeb_http : isWeb "http" = true := rfl

/-- The URL of a path on a mock server has the scheme `http`, and the authority is read from the
rest. -/
theorem exists_ofText?_urlOf (port : UInt16) (path : String) :
    ∃ tail, ofText? (Mock.Server.urlOf (Mock.Server.address port) path)
        = readAuthority? "http" (mockAuthority port ++ tail) ∧
      ((∀ c ∈ path.toList, 0x20 < c.toNat) → tail = path.toList) := by
  have hne : schemeChars ++ mockAuthority port ≠ [] := List.cons_ne_nil _ _
  obtain ⟨tail, htail, hpath⟩ :=
    exists_cleaned_append hne (visible_mockAuthority port) path.toList
  refine ⟨tail, ?_, hpath⟩
  have hstem : schemeChars ++ mockAuthority port ++ tail
      = 'h' :: 't' :: 't' :: 'p' :: ':' :: '/' :: '/' :: (mockAuthority port ++ tail) := rfl
  have hhost : mockAuthority port ++ tail = '1' :: (mockAuthority port ++ tail).tail := rfl
  rw [ofText?, toList_urlOf, htail, hstem, readScheme?_http, Option.bind_eq_bind, Option.bind_some]
  simp only [isWeb_http, if_true]
  rw [hhost, dropWhile_isSeparator]

theorem readPort?_decimal (port : UInt16) :
    readPort? "http" (':' :: Net.decimal port.toNat) = some (keptPort port) := by
  have hport : port.toNat < 65536 := port.toNat_lt_size
  have hdigits : (Net.decimal port.toNat).all Char.isDigit = true :=
    List.all_eq_true.mpr fun c hc ↦ isDigit_of_mem_decimal hc
  have hvalue : (Net.decimal port.toNat).foldl (fun n c ↦ n * 10 + (c.toNat - '0'.toNat)) 0
      = port.toNat := Text.foldl_decimalDigits port.toNat
  have hlookup : webSchemes.lookup "http" = some port.toNat ↔ port.toNat = 80 := by
    rw [show webSchemes.lookup "http" = some 80 from rfl, Option.some.injEq, eq_comm]
  obtain ⟨d, ds, hd⟩ := Text.exists_decimalDigits_eq_cons port.toNat
  rw [show Net.decimal port.toNat = d :: ds from hd] at hdigits hvalue ⊢
  rw [readPort?, if_pos hdigits]
  · simp only [hvalue, hlookup]
    rw [if_neg (by omega), keptPort]
    split <;> rfl
  · exact fun hnil ↦ absurd hnil (List.cons_ne_nil _ _)

/-- The URL of the web that is read from an authority has a path of the web. -/
theorem path_of_readAuthority? {cs : List Char} {u : Url} (h : readAuthority? "http" cs = some u) :
    ∃ text, u.path = readPath true text := by
  rw [readAuthority?] at h
  simp only [isWeb_http, true_or, if_true] at h
  -- of all parts only the path matters, and it comes from the text before query and fragment
  generalize readUser _ = info at h
  generalize readTail _ _ = parts at h
  obtain ⟨user, rest⟩ := info
  obtain ⟨text, query, fragment⟩ := parts
  generalize hhost : splitHost false rest = host at h
  obtain ⟨hostText, portText⟩ := host
  simp only at h
  split at h
  · exact absurd h (Option.some_ne_none u).symm
  · obtain ⟨host, -, h⟩ := Option.bind_eq_some_iff.mp h
    obtain ⟨port, -, h⟩ := Option.bind_eq_some_iff.mp h
    exact ⟨text, by rw [← Option.some.inj h]⟩

theorem splitHost_loopbackHost (rest : List Char) :
    splitHost false (loopbackHost ++ ':' :: rest) = (loopbackHost, ':' :: rest) := rfl

theorem host?_loopbackHost : host? true loopbackHost = some loopbackHost := by decide +kernel

theorem readUser_mockAuthority (port : UInt16) :
    readUser (mockAuthority port) = (none, mockAuthority port) := by
  have hat : ∀ c ∈ mockAuthority port, decide (c ≠ '@') = true :=
    forall_mockAuthority (by decide) (by decide) (by decide) port
  -- user information would end with the last at sign, and there is none
  have hnil : (mockAuthority port).reverse.dropWhile (· ≠ '@') = [] :=
    List.dropWhile_eq_nil_iff.mpr fun c hc ↦ hat c (List.mem_reverse.mp hc)
  rw [readUser, hnil]

/-- The parts of a URL on a mock server. -/
theorem readAuthority?_mock (port : UInt16) {cs : List Char}
    (hcs : cs = [] ∨ ∃ rest, cs = '/' :: rest) :
    readAuthority? "http" (mockAuthority port ++ cs) =
      some ⟨"http", none, some loopbackHost, keptPort port, readPath true (readTail true cs).1,
        (readTail true cs).2.1, (readTail true cs).2.2⟩ := by
  have hinside : ∀ c ∈ mockAuthority port, (!(isSeparator true c || c = '?' || c = '#')) = true :=
    forall_mockAuthority (by decide) (by decide) (by decide) port
  -- what follows the authority is nothing or a slash, which ends it
  have hauthority : (mockAuthority port ++ cs).takeWhile
      (fun c ↦ !(isSeparator true c || c = '?' || c = '#')) = mockAuthority port := by
    rw [List.takeWhile_append_of_pos hinside]
    rcases hcs with rfl | ⟨rest, rfl⟩
    · exact List.append_nil _
    · rw [List.takeWhile_cons_of_neg (by decide), List.append_nil]
  have hsplit : splitHost false (mockAuthority port)
      = (loopbackHost, ':' :: Net.decimal port.toNat) := splitHost_loopbackHost _
  rw [readAuthority?]
  simp only [isWeb_http, hauthority, readUser_mockAuthority, hsplit, List.drop_left]
  rw [if_neg (by decide), host?_loopbackHost, readPort?_decimal]
  rfl

/-- A server's own URL. -/
theorem ofText?_baseUrl (port : UInt16) :
    ofText? (Mock.Server.baseUrl (Mock.Server.address port))
      = some ⟨"http", none, some loopbackHost, keptPort port, ['/'], none, none⟩ := by
  obtain ⟨tail, hread, htail⟩ := exists_ofText?_urlOf port ""
  have hnil : tail = [] := htail fun c hc ↦ absurd hc List.not_mem_nil
  have hbase : Mock.Server.urlOf (Mock.Server.address port) ""
      = Mock.Server.baseUrl (Mock.Server.address port) := String.append_empty
  rw [← hbase, hread, hnil, readAuthority?_mock port (Or.inl rfl)]
  rfl

/-- A URL on a server that has the path as it was given. -/
theorem ofText?_urlOf {port : UInt16} {path : String} {u : Url}
    (hu : ofText? (Mock.Server.urlOf (Mock.Server.address port) path) = some u)
    (hpath : u.path = path.toList) :
    u.scheme = "http" ∧ u.user = none ∧ u.host = some loopbackHost ∧ u.port = keptPort port ∧
      ∃ rest, u.path = '/' :: rest ∧ ∀ c ∈ '/' :: rest, IsPathChar c := by
  obtain ⟨tail, hread, htail⟩ := exists_ofText?_urlOf port path
  rw [hu] at hread
  obtain ⟨text, htext⟩ := path_of_readAuthority? hread.symm
  obtain ⟨rest, hrest, hchars⟩ := readPath_web text
  have hslash : u.path = '/' :: rest := htext.trans hrest
  -- the path is the one given, so it holds path characters and cleaning the text left it alone
  have hvisible : ∀ c ∈ path.toList, 0x20 < c.toNat := by
    intro c hc
    rw [← hpath, hslash] at hc
    exact (hchars c hc).toNat_bounds.1
  rw [htail hvisible, ← hpath, hslash, readAuthority?_mock port (Or.inr ⟨rest, rfl⟩)] at hread
  have heq := Option.some.inj hread
  refine ⟨?_, ?_, ?_, ?_, rest, hslash, hchars⟩ <;> rw [heq]

end Url
end RequestTelemetry
