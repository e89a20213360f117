import RequestTelemetry.Proofs.MockUrl

/-!
# Targets of requests to a mock server

A path of path characters and a query of form-encoded pairs stand for themselves in a request
target, whether the target is that path and query alone or the whole URL with its authority. Only
the length can be a fault.
-/

namespace RequestTelemetry

open Http Url

namespace Url.Form

/-- Whether a character can stand in form-encoded pairs. -/
def isPairChar (c : Char) : Bool := isFormChar c || c == '&' || c == '='

theorem isPairChar_of_isFormChar {c : Char} (h : isFormChar c = true) : isPairChar c = true := by
  rw [isPairChar, h, Bool.true_or, Bool.true_or]

theorem isPairChar_of_mem_writePairs (ps : List (String × String)) :
    ∀ c ∈ writePairs ps, isPairChar c = true := by
  have hpair : ∀ p, ∀ c ∈ writePair p, isPairChar c = true := by
    intro p c hc
    rcases List.mem_append.mp hc with hc | hc
    · exact isPairChar_of_isFormChar (isFormChar_of_mem_write _ c hc)
    · rcases List.mem_cons.mp hc with rfl | hc
      · rfl
      · exact isPairChar_of_isFormChar (isFormChar_of_mem_write _ c hc)
  induction ps with
  | nil => exact fun c hc ↦ absurd hc List.not_mem_nil
  | cons p ps ih =>
    cases ps with
    | nil => exact hpair p
    | cons q ps =>
      intro c hc
      rcases List.mem_append.mp hc with hc | hc
      · exact hpair p c hc
      · rcases List.mem_cons.mp hc with rfl | hc
        · rfl
        · exact ih c hc

theorem toNat_lt_of_isPairChar {c : Char} (h : isPairChar c = true) : c.toNat < 128 := by
  rw [isPairChar, Bool.or_eq_true, Bool.or_eq_true] at h
  rcases h with (hform | hamp) | heq
  · rw [isFormChar, Bool.and_eq_true] at hform
    exact of_decide_eq_true hform.1
  · rw [beq_iff_eq.mp hamp]
    decide
  · rw [beq_iff_eq.mp heq]
    decide

end Url.Form

namespace Http.Uri

/-! ## Octets -/

/-- A path character may stand in a path and does not end it. -/
theorem octet_of_isPathChar {c : Char} (h : IsPathChar c) :
    isPathOctet (octetOf c) = true ∧ endsPath (octetOf c) = false := by
  have hall : IsPathChar c → isPathOctet (octetOf c) = true ∧ endsPath (octetOf c) = false :=
    forall_ascii (by decide +kernel) c (Nat.lt_succ_of_lt h.toNat_bounds.2)
  exact hall h

/-- A character of form-encoded pairs may stand in a query and does not end it. -/
theorem octet_of_isPairChar {c : Char} (h : Form.isPairChar c = true) :
    isQueryOctet (octetOf c) = true ∧ (octetOf c != 0x23) = true := by
  have hall : Form.isPairChar c = true →
      isQueryOctet (octetOf c) = true ∧ (octetOf c != 0x23) = true :=
    forall_ascii (by decide +kernel) c (Form.toNat_lt_of_isPairChar h)
  exact hall h

/-! ## Path and query -/

variable {path query : List Char}

theorem ascii_target (hpath : ∀ c ∈ path, IsPathChar c)
    (hquery : ∀ c ∈ query, Form.isPairChar c = true) :
    ∀ c ∈ path ++ '?' :: query, c.toNat < 128 := by
  intro c hc
  rcases List.mem_append.mp hc with hc | hc
  · exact Nat.lt_succ_of_lt (hpath c hc).toNat_bounds.2
  · rcases List.mem_cons.mp hc with rfl | hc
    · decide
    · exact Form.toNat_lt_of_isPairChar (hquery c hc)

theorem decoded_encodeChars (cs : List Char) :
    decoded (Utf8.encodeChars cs) = .ok (String.ofList cs) := by
  rw [decoded, Utf8.decode?, Utf8.decodeChars?_encodeChars]
  rfl

/-- A path and a query stand for themselves. -/
theorem readTarget_encodeChars (hpath : ∀ c ∈ path, IsPathChar c)
    (hquery : ∀ c ∈ query, Form.isPairChar c = true) :
    readTarget (Utf8.encodeChars (path ++ '?' :: query))
      = .ok (String.ofList path, some (String.ofList query)) := by
  have hpathOctets : ∀ b ∈ path.map octetOf, isPathOctet b = true ∧ endsPath b = false :=
    List.forall_mem_map.mpr fun c hc ↦ octet_of_isPathChar (hpath c hc)
  have hqueryOctets : ∀ b ∈ query.map octetOf, isQueryOctet b = true ∧ (b != 0x23) = true :=
    List.forall_mem_map.mpr fun c hc ↦ octet_of_isPairChar (hquery c hc)
  have hinside : ∀ b ∈ path.map octetOf, (!endsPath b) = true := by
    intro b hb
    rw [(hpathOctets b hb).2]
    rfl
  have hallowed : (path.map octetOf).all isPathOctet = true :=
    List.all_eq_true.mpr fun b hb ↦ (hpathOctets b hb).1
  have hallowed' : (query.map octetOf).all isQueryOctet = true :=
    List.all_eq_true.mpr fun b hb ↦ (hqueryOctets b hb).1
  have hbytes : Utf8.encodeChars (path ++ '?' :: query)
      = path.map octetOf ++ 0x3F :: query.map octetOf := by
    rw [encodeChars_of_ascii (ascii_target hpath hquery), List.map_append]
    rfl
  have hstart : (path.map octetOf ++ 0x3F :: query.map octetOf).takeWhile (!endsPath ·)
      = path.map octetOf := by
    rw [List.takeWhile_append_of_pos hinside, List.takeWhile_cons_of_neg (by decide),
      List.append_nil]
  have hend : (query.map octetOf).takeWhile (· != 0x23) = query.map octetOf :=
    List.takeWhile_eq_self_iff.mpr fun b hb ↦ (hqueryOctets b hb).2
  -- the octets are cut at the question mark, and so is the text afterwards
  have hchars : ∀ c ∈ path, (c != '?') = true := by
    intro c hc
    refine bne_iff_ne.mpr ?_
    rintro rfl
    exact absurd (hpath _ hc) (by decide)
  have hdrop : (path ++ '?' :: query).drop (path.length + 1) = query := by
    rw [← List.drop_drop, List.drop_left]
    rfl
  have hcut : (path ++ '?' :: query).takeWhile (· != '?') = path := by
    rw [List.takeWhile_append_of_pos hchars, List.takeWhile_cons_of_neg (by decide),
      List.append_nil]
  rw [readTarget, hbytes]
  simp only [hstart, hallowed, List.drop_left, hend, hallowed']
  rw [← hbytes, decoded_encodeChars]
  simp only [bind, Except.bind, String.toList_ofList, hcut, hdrop]
  rfl

/-- A target that is a path and a query. -/
theorem ofText_target {rest : List Char} (hslash : path = '/' :: rest)
    (hpath : ∀ c ∈ path, IsPathChar c) (hquery : ∀ c ∈ query, Form.isPairChar c = true)
    (hlength : (Utf8.encodeChars (path ++ '?' :: query)).length ≤ maxLength) :
    ofText (String.ofList (path ++ '?' :: query))
      = .ok ⟨none, none, String.ofList path, some (String.ofList query)⟩ := by
  have hread := readTarget_encodeChars hpath hquery
  -- at least two octets, so the target is neither empty nor a slash alone
  have hne : Utf8.encodeChars (rest ++ '?' :: query) ≠ [] := by
    rw [Utf8.encodeChars, List.flatMap_append, List.flatMap_cons]
    exact List.append_ne_nil_of_right_ne_nil _ (List.cons_ne_nil _ _)
  obtain ⟨b, more, hmore⟩ := List.exists_cons_of_ne_nil hne
  have hbytes : Utf8.encodeChars (path ++ '?' :: query) = 0x2F :: b :: more := by
    rw [hslash, List.cons_append, Utf8.encodeChars, List.flatMap_cons, ← Utf8.encodeChars, hmore]
    rfl
  rw [hbytes] at hread hlength
  rw [ofText, Utf8.encode, String.toList_ofList, hbytes, ofBytes,
    if_neg (Nat.not_lt_of_le hlength), hread]
  · rfl
  · exact fun hnil ↦ absurd hnil (List.cons_ne_nil _ _)

/-! ## Authorities -/

/-- Digits and dots change nothing in what has been seen of an authority. -/
theorem foldlM_push_plain {s : AuthorityScan} (hs : s.afterAt = false) {bs : Bytes}
    (h : ∀ b ∈ bs, isDigit b = true ∨ b = 0x2E) : bs.foldlM AuthorityScan.push s = .ok s := by
  have hplain : ∀ b : UInt8, isDigit b = true ∨ b = 0x2E → b ≠ 0x3A ∧ b ≠ 0x5B ∧ b ≠ 0x5D ∧
      b ≠ 0x40 ∧ b ≠ 0x25 ∧ isAuthorityOctet b = true :=
    fun b ↦ forall_octet (by decide +kernel) b
  -- an octet that is neither a sign nor a bracket only says that it does not follow an at sign
  have hself : { s with afterAt := false } = s := by rw [← hs]
  induction bs with
  | nil => rfl
  | cons b bs ih =>
    obtain ⟨hcolon, hopen, hclose, hat, hpercent, hallowed⟩ := hplain b (h b List.mem_cons_self)
    rw [List.foldlM_cons, AuthorityScan.push]
    simp only [if_neg hcolon, if_neg hopen, if_neg hclose, if_neg hat, if_neg hpercent,
      if_pos hallowed, hself]
    exact ih fun b' hb' ↦ h b' (List.mem_cons_of_mem b hb')

/-- A colon counts. -/
theorem push_colon {s : AuthorityScan} (hs : s.colons < maxColons) :
    AuthorityScan.push s 0x3A = .ok { s with afterAt := false, colons := s.colons + 1 } := by
  rw [AuthorityScan.push]
  simp only [if_true, if_neg (Nat.not_le_of_lt hs)]

theorem encodeChars_append (first second : List Char) :
    Utf8.encodeChars (first ++ second) = Utf8.encodeChars first ++ Utf8.encodeChars second :=
  List.flatMap_append

/-- A port as it is written after a host. -/
def portChars : Option Nat → List Char
  | some n => ':' :: Net.decimal n
  | none => []

theorem mem_portChars {port : Option Nat} {c : Char} (hc : c ∈ portChars port) :
    c = ':' ∨ c.isDigit = true := by
  cases port with
  | none => exact absurd hc List.not_mem_nil
  | some n => exact (List.mem_cons.mp hc).imp_right isDigit_of_mem_decimal

/-- What has been seen of the host and a port holds at most one colon. -/
theorem foldlM_push_loopback (port : Option Nat) :
    ∃ colons ≤ 1, ((loopbackHost ++ portChars port).map octetOf).foldlM AuthorityScan.push {}
      = .ok { colons } := by
  have hhost : (loopbackHost.map octetOf).foldlM AuthorityScan.push {} = .ok {} :=
    foldlM_push_plain rfl (by decide +kernel)
  cases port with
  | none => exact ⟨0, Nat.zero_le 1, by rw [portChars, List.append_nil, hhost]⟩
  | some n =>
    have hdigits : ∀ b ∈ (Net.decimal n).map octetOf, isDigit b = true ∨ b = 0x2E := by
      rw [List.forall_mem_map]
      intro c hc
      exact forall_digit (P := fun c ↦ isDigit (octetOf c) = true ∨ octetOf c = 0x2E)
        (by decide) c (isDigit_of_mem_decimal hc)
    refine ⟨1, Nat.le_refl 1, ?_⟩
    rw [List.map_append, List.foldlM_append, hhost]
    show ((octetOf ':' :: (Net.decimal n).map octetOf).foldlM AuthorityScan.push {}) = _
    rw [List.foldlM_cons, show octetOf ':' = 0x3A from rfl, push_colon (by decide)]
    exact foldlM_push_plain rfl hdigits

/-- The authority of a server before a path. -/
theorem readAuthority_loopback (port : Option Nat) (cs : List Char) :
    readAuthority (Utf8.encodeChars (loopbackHost ++ portChars port ++ '/' :: cs))
      = .ok ((loopbackHost ++ portChars port).map octetOf, Utf8.encodeChars ('/' :: cs)) := by
  have hhost : ∀ c ∈ loopbackHost, c.toNat < 128 ∧ endsAuthority (octetOf c) = false := by
    simp [loopbackHost, octetOf, endsAuthority]
  have hport : ∀ c ∈ portChars port, c.toNat < 128 ∧ endsAuthority (octetOf c) = false := by
    intro c hc
    rcases mem_portChars hc with rfl | hc
    · decide
    · exact forall_digit (P := fun c ↦ c.toNat < 128 ∧ endsAuthority (octetOf c) = false)
        (by decide) c hc
  have hchars : ∀ c ∈ loopbackHost ++ portChars port,
      c.toNat < 128 ∧ endsAuthority (octetOf c) = false :=
    fun c hc ↦ (List.mem_append.mp hc).elim (hhost c) (hport c)
  have hinside : ∀ b ∈ (loopbackHost ++ portChars port).map octetOf,
      (!endsAuthority b) = true := by
    rw [List.forall_mem_map]
    intro c hc
    rw [(hchars c hc).2]
    rfl
  have hslash : Utf8.encodeChars ('/' :: cs) = 0x2F :: Utf8.encodeChars cs := rfl
  obtain ⟨colons, hcolons, hscan⟩ := foldlM_push_loopback port
  rw [encodeChars_append, encodeChars_of_ascii fun c hc ↦ (hchars c hc).1, hslash, readAuthority,
    List.takeWhile_append_of_pos hinside, List.takeWhile_cons_of_neg (by decide), List.append_nil,
    hscan, List.drop_left]
  show (if _ then _ else _) = _
  rw [if_neg]
  · rfl
  · simp only [ne_eq, not_true_eq_false, Bool.false_eq_true, or_false, false_or]
    omega

/-! ## Whole URLs -/

theorem readScheme_http (cs : List Char) :
    readScheme (Utf8.encodeChars (schemeChars ++ cs)) = .ok (some "http", Utf8.encodeChars cs) := by
  have hbytes : Utf8.encodeChars (schemeChars ++ cs)
      = 0x68 :: 0x74 :: 0x74 :: 0x70 :: 0x3A :: 0x2F :: 0x2F :: Utf8.encodeChars cs := rfl
  have hhead : ([0x68, 0x74, 0x74, 0x70, 0x3A, 0x2F, 0x2F] : Bytes).map toLower
      = Utf8.encode "http://" := by decide +kernel
  rw [hbytes, readScheme]
  exact if_pos hhead

theorem ofBytes_http {more : Bytes} (h : (0x68 :: 0x74 :: more : Bytes).length ≤ maxLength) :
    ofBytes (0x68 :: 0x74 :: more) = ofFull (0x68 :: 0x74 :: more) := by
  unfold ofBytes
  rw [if_neg (Nat.not_lt_of_le h)]
  rfl

theorem ofBytes_of_long {bs : Bytes} (h : maxLength < bs.length) :
    ofBytes bs = .error .tooLong := by
  unfold ofBytes
  rw [if_pos h]

/-- A URL on a server that is not too long is a request target. -/
theorem exists_ofText_eq_ok (port : Option Nat) {rest : List Char} (hslash : path = '/' :: rest)
    (hpath : ∀ c ∈ path, IsPathChar c) (hquery : ∀ c ∈ query, Form.isPairChar c = true) {s : String}
    (hs : s.toList = schemeChars ++ (loopbackHost ++ portChars port ++ (path ++ '?' :: query)))
    (hlength : (Utf8.encode s).length ≤ maxLength) : ∃ target, ofText s = .ok target := by
  have hread := readTarget_encodeChars hpath hquery
  have hauthority := readAuthority_loopback port (rest ++ '?' :: query)
  rw [← List.cons_append, ← hslash] at hauthority
  have hscheme := readScheme_http (loopbackHost ++ portChars port ++ (path ++ '?' :: query))
  obtain ⟨more, hmore⟩ : ∃ more, Utf8.encode s = 0x68 :: 0x74 :: more := by
    rw [Utf8.encode, hs]
    exact ⟨_, rfl⟩
  rw [← hs, ← Utf8.encode, hmore] at hscheme
  rw [hmore] at hlength
  rw [ofText, hmore, ofBytes_http hlength, ofFull, hscheme]
  simp only [bind, Except.bind, hauthority, hread]
  exact ⟨_, rfl⟩

end Http.Uri
end RequestTelemetry
