import Mathlib.Data.List.TakeWhile
import RequestTelemetry.Proofs.Glimpses
import RequestTelemetry.Proofs.Resynchronization

/-!
# The first address of a forwarding list

A request hands on the addresses that it passed as a list, the client's first. The list may stand in
one line or be spread over several, with commas between the entries of a line and any blanks around
the commas. The client's address is the first entry, however the list is written, whatever octets it
has and whatever else is in the request.

The whole line is decoded before it is taken apart at the commas. That this gives the entry as it
decodes alone, also if its end is ill-formed, is what `lossyChars_append_encodeChars` is for.
-/

namespace RequestTelemetry

open Http Tracking

/-! ## Blanks at the end -/

namespace Text

theorem trimEnd_append_blanks (cs : List Char) {blanks : List Char} (h : ∀ c ∈ blanks, isBlank c) :
    trimEnd (cs ++ blanks) = trimEnd cs := by
  have hreverse : ∀ c ∈ blanks.reverse, isBlank c := fun c hc ↦ h c (List.mem_reverse.mp hc)
  rw [trimEnd, List.reverse_append, List.dropWhile_append_of_pos hreverse, trimEnd]

theorem trim_append_blanks (cs : List Char) {blanks : List Char} (h : ∀ c ∈ blanks, isBlank c) :
    trim (cs ++ blanks) = trim cs := by
  by_cases hcs : ∀ c ∈ cs, isBlank c
  · have hall : ∀ c ∈ cs ++ blanks, isBlank c := fun c hc ↦
      (List.mem_append.mp hc).elim (hcs c) (h c)
    rw [trim_eq_nil_iff.mpr hcs, trim_eq_nil_iff.mpr hall]
  · -- the blanks at the start end inside `cs`
    have hstart : trimStart (cs ++ blanks) = trimStart cs ++ blanks := by
      have hne : ¬(cs.dropWhile isBlank).isEmpty := by
        rwa [List.isEmpty_iff, List.dropWhile_eq_nil_iff]
      rw [trimStart, List.dropWhile_append, if_neg hne, trimStart]
    rw [trim, hstart, trimEnd_append_blanks _ h, trim]

end Text

/-! ## Lists in a line -/

namespace Tracking

/-- A line that lists entries: commas between them, and blanks around the commas. -/
inductive Lists : List Bytes → Bytes → Prop where
  | last (entry : Bytes) : Lists [entry] entry
  | more (entry : Bytes) (before after : List Char) {entries : List Bytes} {line : Bytes}
      (hbefore : ∀ c ∈ before, Text.isBlank c) (hafter : ∀ c ∈ after, Text.isBlank c)
      (h : Lists entries line) :
      Lists (entry :: entries) (entry ++ (Utf8.encodeChars (before ++ ',' :: after) ++ line))

/-- What follows the first comma does not matter, nor do blanks before it. -/
theorem firstEntry_lossy_append (list : Bytes) {before after : List Char}
    (h : ∀ c ∈ before, Text.isBlank c) (rest : Bytes) :
    firstEntry (Utf8.lossy (list ++ (Utf8.encodeChars (before ++ ',' :: after) ++ rest))) =
      firstEntry (Utf8.lossy list) := by
  have hne : before ++ ',' :: after ≠ [] := by simp
  have hcomma : ∀ c ∈ before, decide (c ≠ ',') := by
    rintro c hc
    refine decide_eq_true fun heq ↦ ?_
    subst heq
    exact absurd (h ',' hc) (by decide)
  simp only [firstEntry, Utf8.lossy, String.toList_ofList,
    Utf8.lossyChars_append_encodeChars list hne]
  rw [List.takeWhile_append]
  split
  · next hall =>
    have hself : (Utf8.lossyChars list).takeWhile (· ≠ ',') = Utf8.lossyChars list :=
      (List.takeWhile_prefix _).eq_of_length hall
    rw [List.append_assoc, List.takeWhile_append_of_pos hcomma, List.cons_append,
      List.takeWhile_cons_of_neg (by simp), List.append_nil, Text.trim_append_blanks _ h, hself]
  · rfl

theorem Lists.firstEntry_eq {first : Bytes} {later : List Bytes} {line : Bytes}
    (h : Lists (first :: later) line) :
    firstEntry (Utf8.lossy line) = firstEntry (Utf8.lossy first) := by
  rcases h with _ | ⟨_, _, _, hbefore, -, -⟩
  · rfl
  · exact firstEntry_lossy_append first hbefore _

/-- A single entry is its own first one. -/
theorem firstEntry_of_not_mem {entry : Bytes} (h : 0x2C ∉ entry) :
    firstEntry (Utf8.lossy entry) = String.ofList (Text.trim (Utf8.lossyChars entry)) := by
  have hcomma : ∀ c ∈ Utf8.lossyChars entry, decide (c ≠ ',') := by
    rintro c hc
    refine decide_eq_true fun heq ↦ h ?_
    subst heq
    exact Utf8.octet_mem_of_mem_lossyChars (by decide) (by decide) hc
  rw [firstEntry, Utf8.lossy, String.toList_ofList, List.takeWhile_eq_self_iff.mpr hcomma]

end Tracking

/-! ## Lists in a request -/

namespace Http.Request

/-- The lines of a request in which the addresses that it passed are listed. -/
def forwardedLines (r : Request) : List Bytes := r.headers.getAll .forwardedFor

/-- Whether a request is another one with its list of addresses written in some other way. -/
structure Relists (r' r : Request) : Prop where
  same : r' = { r with headers := r'.headers }
  others : ∀ name ≠ HeaderName.forwardedFor, r'.headers.getAll name = r.headers.getAll name

end Http.Request

namespace Tracking

theorem clientIp_of_forwardedLines {r : Request} {line : Bytes} {lines : List Bytes}
    (hlines : r.forwardedLines = line :: lines) (hne : line ≠ []) :
    clientIp r = firstEntry (Utf8.lossy line) := by
  have hfirst : r.headers.get? .forwardedFor = some line := by
    rw [get?_eq_head?_getAll, ← Request.forwardedLines, hlines, List.head?_cons]
  have hforwarded : r.forwarded? = some line := by
    rw [Request.forwarded?, hfirst, Option.filter_some, if_pos (decide_eq_true hne), Option.some_or]
  rw [clientIp_eq, hforwarded]

end Tracking

/-- If the address of the client is the same, so is the event. -/
theorem Http.Request.Relists.ofRequest_eq {r r' : Request} (h : r'.Relists r)
    (hip : clientIp r' = clientIp r) (cookieName : String) :
    clientId r' cookieName = clientId r cookieName ∧
      RequestInfo.ofRequest r' cookieName = RequestInfo.ofRequest r cookieName := by
  have hagent : r'.userAgent = r.userAgent := by
    rw [userAgent, get?_eq_head?_getAll, h.others _ (by decide), ← get?_eq_head?_getAll, userAgent]
  have hcookie : cookieValue? r' cookieName = cookieValue? r cookieName := by
    rw [cookieValue?, cookies, h.others _ (by decide), ← cookies, ← cookieValue?]
  have hid : clientId r' cookieName = clientId r cookieName := by
    rw [clientId, hcookie, hip, hagent, ← clientId]
  refine ⟨hid, ?_⟩
  rw [RequestInfo.ofRequest, hid, hip, hagent, h.same]
  rfl

namespace Tracking

/-- However a list is spread over lines, its first entry is the first of the first line. -/
theorem exists_line_of_spread {first : Bytes} {later lines : List Bytes}
    {spread : List (List Bytes)} (hspread : List.Forall₂ Lists spread lines)
    (hentries : spread.flatten = first :: later) :
    ∃ line rest others, lines = line :: rest ∧ Lists (first :: others) line := by
  rcases hspread with _ | @⟨group, line, groups, rest, hline, -⟩
  · exact absurd hentries.symm (List.cons_ne_nil first later)
  · -- a line lists one entry at least
    obtain ⟨entry, others, rfl⟩ : ∃ entry others, group = entry :: others := by
      rcases hline with _ | _
      · exact ⟨_, _, rfl⟩
      · exact ⟨_, _, rfl⟩
    rw [List.flatten_cons, List.cons_append] at hentries
    obtain rfl := (List.cons.inj hentries).1
    exact ⟨line, rest, others, rfl, hline⟩

/-- **The first entry wins, however the list is written.** A list of addresses may be spread over
any number of lines, each with at least one entry, and have any blanks around its commas. If the
first entry is not blank, the client's address is this entry, decoded and trimmed, whatever the
later entries and the rest of the request are. And joining the lines into one changes neither the
address nor the id of the client nor the event; for this it is enough that the first line is not
empty. -/
theorem first_forwarded_entry_wins :
    (∀ (r : Request) (first : Bytes) (later : List Bytes) (spread : List (List Bytes)),
      spread.flatten = first :: later → List.Forall₂ Lists spread r.forwardedLines →
      0x2C ∉ first → ¬ Text.isBlankText (Utf8.lossy first) →
        clientIp r = String.ofList (Text.trim (Utf8.lossyChars first))) ∧
    ∀ (r r' : Request) (line joined : Bytes) (lines : List Bytes),
      r.forwardedLines = line :: lines → line ≠ [] → Lists (line :: lines) joined →
      r'.Relists r → r'.forwardedLines = [joined] →
        clientIp r' = clientIp r ∧ ∀ cookieName : String,
          clientId r' cookieName = clientId r cookieName ∧ ∀ status elapsed,
            (RequestInfo.ofRequest r' cookieName).toEvent status elapsed =
              (RequestInfo.ofRequest r cookieName).toEvent status elapsed := by
  constructor
  · intro r first later spread hentries hspread hcomma hblank
    obtain ⟨line, rest, others, hlines, hline⟩ := exists_line_of_spread hspread hentries
    have hentry : firstEntry (Utf8.lossy line) =
        String.ofList (Text.trim (Utf8.lossyChars first)) := by
      rw [hline.firstEntry_eq, firstEntry_of_not_mem hcomma]
    have hne : line ≠ [] := by
      rintro rfl
      have hnil : Text.trim (Utf8.lossyChars first) = [] :=
        String.ofList_eq_empty_iff.mp hentry.symm
      apply hblank
      rw [Text.isBlankText, Utf8.lossy, String.toList_ofList, List.all_eq_true]
      exact Text.trim_eq_nil_iff.mp hnil
    rw [clientIp_of_forwardedLines hlines hne, hentry]
  · intro r r' line joined lines hlines hne hjoined hrelists hlines'
    have hne' : joined ≠ [] := by
      rcases hjoined with _ | _
      · exact hne
      · simp [Utf8.encodeChars, hne]
    have hip : clientIp r' = clientIp r := by
      rw [clientIp_of_forwardedLines hlines' hne', clientIp_of_forwardedLines hlines hne,
        hjoined.firstEntry_eq]
    refine ⟨hip, fun cookieName ↦ ?_⟩
    obtain ⟨hid, hinfo⟩ := hrelists.ofRequest_eq hip cookieName
    exact ⟨hid, fun status elapsed ↦ by rw [hinfo]⟩

/-- A request that passed several addresses. -/
private def relayedRequest (lines : List Bytes) : Request :=
  { headers := ⟨(.realIp, Utf8.encode "7.7.7.7") :: lines.map (.forwardedFor, ·) ++
      [(.userAgent, Utf8.encode "UA1")]⟩,
    peer := some (.v4 ⟨9, 9, 9, 9⟩ 4444) }

/-- A first entry that is cut short in the middle of a character wins, with a blank and a comma
after it, and from one line as from two. -/
theorem entry_cut_short_wins :
    let first : Bytes := [0x31, 0xE2, 0x82]
    let upper : Bytes := first ++ Utf8.encode "\u00A0, 5.6.6.6"
    let lower : Bytes := [0xFF]
    let r := relayedRequest [upper, lower]
    let r' := relayedRequest [upper ++ Utf8.encode " ,\t" ++ lower]
    List.Forall₂ Lists [[first, Utf8.encode "5.6.6.6"], [lower]] r.forwardedLines ∧
      0x2C ∉ first ∧ ¬ Text.isBlankText (Utf8.lossy first) ∧ clientIp r = "1\uFFFD" ∧
      Lists [upper, lower] (upper ++ Utf8.encode " ,\t" ++ lower) ∧ r'.Relists r ∧
      clientIp r' = "1\uFFFD" ∧ clientId r' "_ga" = clientId r "_ga" := by
  intro first upper lower r r'
  obtain ⟨hwins, hjoins⟩ := first_forwarded_entry_wins
  have hlines : r.forwardedLines = [upper, lower] := by decide
  have hlines' : r'.forwardedLines = [upper ++ Utf8.encode " ,\t" ++ lower] := by decide
  have hupper : Lists [first, Utf8.encode "5.6.6.6"] upper :=
    .more first ['\u00A0'] [' '] (List.forall_mem_singleton.mpr rfl)
      (List.forall_mem_singleton.mpr rfl) (.last _)
  have hspread : List.Forall₂ Lists [[first, Utf8.encode "5.6.6.6"], [lower]] r.forwardedLines := by
    rw [hlines]
    exact .cons hupper (.cons (.last lower) .nil)
  have hjoined : Lists [upper, lower] (upper ++ Utf8.encode " ,\t" ++ lower) :=
    .more upper [' '] ['\t'] (List.forall_mem_singleton.mpr rfl)
      (List.forall_mem_singleton.mpr rfl) (.last lower)
  have hrelists : r'.Relists r := by
    refine ⟨rfl, fun name hname ↦ ?_⟩
    simp [r, r', relayedRequest, Headers.getAll, List.filter_cons, hname.symm]
  have hip : clientIp r = "1\uFFFD" :=
    hwins r first [Utf8.encode "5.6.6.6", lower] _ rfl hspread (by decide) (by decide)
  obtain ⟨hsame, hid⟩ := hjoins r r' upper _ [lower] hlines (by decide) hjoined hrelists hlines'
  exact ⟨hspread, by decide, by decide, hip, hjoined, hrelists, hsame.trans hip, (hid "_ga").1⟩

end Tracking
end RequestTelemetry
