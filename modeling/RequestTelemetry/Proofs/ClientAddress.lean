import Mathlib.Data.List.TakeWhile
import RequestTelemetry.Tracking.Identity

/-!
# Where the address of a client comes from

The address of a client comes from the first forwarding header that is not empty. That header
decides alone: if the first entry of its list is blank, nothing is known of the client, whatever the
other header says and although the peer has an address. So the address of the client is empty for
two reasons only, a blank first entry and a request that has neither a forwarding header nor a peer.
-/

namespace RequestTelemetry

open Http Tracking

/-! ## Octets that give no text -/

namespace Utf8

theorem Decoder.finish_push_ne_nil (d : Decoder) (b : UInt8) : (d.push b).finish ≠ [] := by
  -- an octet is read, or it opens a character, or it continues one
  have hstart : ∀ read, (start read b).finish ≠ [] := by
    intro read
    rw [start]
    cases opening b <;> simp [finish]
  rw [push]
  cases d.pending with
  | none => exact hstart _
  | some p =>
    by_cases hrange : p.low ≤ b ∧ b ≤ p.high
    · simp only [if_pos hrange]
      cases p.owed <;> simp [finish]
    · simp only [if_neg hrange]
      exact hstart _

/-- Only no octets give no text. -/
theorem lossy_eq_empty_iff {bs : Bytes} : lossy bs = "" ↔ bs = [] := by
  constructor
  · intro h
    have hchars : lossyChars bs = [] := String.ofList_eq_empty_iff.mp h
    by_contra hne
    obtain ⟨init, b, rfl⟩ := List.eq_nil_or_concat bs |>.resolve_left hne
    rw [lossyChars, units, List.concat_eq_append, List.foldl_append] at hchars
    exact Decoder.finish_push_ne_nil _ b (List.map_eq_nil_iff.mp hchars)
  · rintro rfl
    rfl

end Utf8

/-! ## Texts of addresses -/

namespace Net

theorem V6.chars_ne_nil (ip : V6) : ip.chars ≠ [] := by
  rw [chars]
  cases ip.mapped? with
  | some v4 => simp
  | none =>
    simp only
    split
    · simp
    · -- eight groups have colons between them
      obtain ⟨groups, hlength⟩ := ip
      obtain ⟨g, h, rest, rfl⟩ : ∃ g h rest, groups = g :: h :: rest := by
        match groups, hlength with
        | g :: h :: rest, _ => exact ⟨g, h, rest, rfl⟩
      simp [groupChars]

/-- Every address has a text. -/
theorem Ip.text_ne_empty (ip : Ip) : ip.text ≠ "" := by
  intro h
  have hchars : ip.chars = [] := String.ofList_eq_empty_iff.mp h
  cases ip with
  | v4 ip => simp [chars, V4.chars] at hchars
  | v6 ip => exact ip.chars_ne_nil hchars

end Net

/-! ## Forwarding headers -/

/-- `x-forwarded-for`, the addresses that a request passed, the client's first. -/
def Http.HeaderName.forwardedFor : HeaderName := ⟨"x-forwarded-for"⟩

/-- `x-real-ip`, the client's address as one proxy saw it. -/
def Http.HeaderName.realIp : HeaderName := ⟨"x-real-ip"⟩

namespace Http.Request

/-- The forwarding header that decides: the first value of `X-Forwarded-For`, or that of `X-Real-IP`
if there is none or it is empty, as long as it is not empty. -/
def forwarded? (r : Request) : Option Bytes :=
  ((r.headers.get? .forwardedFor).filter (· ≠ [])).or ((r.headers.get? .realIp).filter (· ≠ []))

/-- A header value as text is empty if it is empty itself. -/
theorem filter_map_lossy (value : Option Bytes) :
    (value.map Utf8.lossy).filter (· ≠ "") = (value.filter (· ≠ [])).map Utf8.lossy := by
  cases value with
  | none => rfl
  | some bs => by_cases h : bs = [] <;> simp [Option.filter_some, Utf8.lossy_eq_empty_iff, h]

theorem find?_forwardingHeaders (r : Request) :
    (forwardingHeaders.filterMap r.header?).find? (· ≠ "") = r.forwarded?.map Utf8.lossy := by
  have hname : ∀ name : HeaderName, HeaderName.ofText? name.name = some name →
      r.header? name.name = (r.headers.get? name).map Utf8.lossy := by
    intro name h
    rw [header?, Headers.find?, h, Option.bind_some]
  have htoList : ∀ o : Option String, o.toList.find? (· ≠ "") = o.filter (· ≠ "") := by
    intro o
    cases o <;> simp [Option.filter]
  have hfirst : ∀ a b : String, [a, b].filterMap r.header?
      = (r.header? a).toList ++ (r.header? b).toList := by
    intro a b
    rw [List.filterMap_cons, List.filterMap_cons]
    cases r.header? a <;> cases r.header? b <;> rfl
  have hheaders : forwardingHeaders = [HeaderName.forwardedFor.name, HeaderName.realIp.name] := rfl
  rw [hheaders, hfirst, List.find?_append, htoList, htoList, hname .forwardedFor (by decide),
    hname .realIp (by decide), filter_map_lossy, filter_map_lossy, ← Option.map_or]
  rfl

end Http.Request

theorem Text.trim_eq_nil_iff {cs : List Char} : trim cs = [] ↔ ∀ c ∈ cs, isBlank c := by
  constructor
  · intro h
    have hrest : ∀ c ∈ trimStart cs, isBlank c := by
      simpa [trim, trimEnd, List.dropWhile_eq_nil_iff] using h
    -- what is left without the blanks at the start does not start with one, so nothing is left
    have hnil : trimStart cs = [] := by
      by_contra hne
      have hhead := List.head_dropWhile_not isBlank hne
      exact Bool.false_ne_true (hhead.symm.trans (hrest _ (List.head_mem hne)))
    exact List.dropWhile_eq_nil_iff.mp hnil
  · intro h
    have hnil : trimStart cs = [] := List.dropWhile_eq_nil_iff.mpr h
    rw [trim, hnil]
    rfl

namespace Tracking

/-- Whether the first entry of a list with commas is blank. -/
def HasBlankFirst (list : Bytes) : Prop :=
  ∀ c ∈ (Utf8.lossyChars list).takeWhile (· ≠ ','), Text.isBlank c

instance (list : Bytes) : Decidable (HasBlankFirst list) :=
  decidable_of_iff (((Utf8.lossyChars list).takeWhile (· ≠ ',')).all Text.isBlank) List.all_eq_true

theorem firstEntry_eq_empty_iff {list : Bytes} :
    firstEntry (Utf8.lossy list) = "" ↔ HasBlankFirst list := by
  rw [firstEntry, String.ofList_eq_empty_iff, Text.trim_eq_nil_iff, Utf8.lossy,
    String.toList_ofList, HasBlankFirst]

/-- The forwarding header decides, and without one the peer. -/
theorem clientIp_eq (r : Request) :
    clientIp r = match r.forwarded? with
      | some list => firstEntry (Utf8.lossy list)
      | none => (r.peer.map fun a ↦ a.ip.text).getD "" := by
  rw [clientIp, r.find?_forwardingHeaders]
  cases r.forwarded? <;> rfl

/-- **Where the address of a client comes from.** It is the first entry, without blanks around it,
of the forwarding header that decides, and the address of the peer only without such a header. So
it is empty exactly if that header has a blank first entry, or if there is neither such a header nor
a peer; if the peer is known, exactly for a blank first entry. -/
theorem clientIp_forwarded_or_peer (r : Request) :
    (∀ list, r.forwarded? = some list →
      clientIp r = String.ofList (Text.trim ((Utf8.lossyChars list).takeWhile (· ≠ ',')))) ∧
    (r.forwarded? = none → ∀ a, r.peer = some a → clientIp r = a.ip.text) ∧
    (clientIp r = "" ↔
      (∃ list, r.forwarded? = some list ∧ HasBlankFirst list) ∨
        r.forwarded? = none ∧ r.peer = none) ∧
    (r.peer ≠ none →
      (clientIp r = "" ↔ ∃ list, r.forwarded? = some list ∧ HasBlankFirst list)) := by
  have hiff : clientIp r = "" ↔
      (∃ list, r.forwarded? = some list ∧ HasBlankFirst list) ∨
        r.forwarded? = none ∧ r.peer = none := by
    rw [clientIp_eq]
    cases r.forwarded? with
    | some list => simp [firstEntry_eq_empty_iff]
    | none =>
      cases r.peer with
      | none => simp
      | some a => simp [a.ip.text_ne_empty]
  refine ⟨fun list hlist ↦ ?_, fun hnone a hpeer ↦ ?_, hiff, fun hpeer ↦ hiff.trans ?_⟩
  · simp only [clientIp_eq, hlist, firstEntry, Utf8.lossy, String.toList_ofList]
  · simp only [clientIp_eq, hnone, hpeer, Option.map_some, Option.getD_some]
  · exact or_iff_left fun h ↦ hpeer h.2

/-- A request of a known peer. -/
private def proxiedRequest (fields : List (HeaderName × Bytes)) : Request :=
  { headers := ⟨fields⟩, peer := some (.v4 ⟨9, 9, 9, 9⟩ 4444) }

/-- Without an entry the address is the peer's, and of a list it is the first entry; an octet that
is no text makes an entry that is not blank, so the address is not empty. -/
theorem ill_formed_entry_is_an_address :
    let r := proxiedRequest [(.realIp, []), (.forwardedFor, []), (.forwardedFor, [0x20])]
    let r' := proxiedRequest [(.forwardedFor, [0x20, 0xFF, 0x2C, 0x20])]
    r.peer ≠ none ∧ r'.peer ≠ none ∧ clientIp r = "9.9.9.9" ∧ clientIp r ≠ "" ∧
      clientIp r' = "\uFFFD" ∧ clientIp r' ≠ "" := by
  intro r r'
  have hpeer : r.peer ≠ none := by decide
  have hpeer' : r'.peer ≠ none := by decide
  have hnone : r.forwarded? = none := by decide
  have hvalue : r'.forwarded? = some [0x20, 0xFF, 0x2C, 0x20] := by decide
  obtain ⟨-, hofPeer, -, hempty⟩ := clientIp_forwarded_or_peer r
  obtain ⟨hofList, -, -, hempty'⟩ := clientIp_forwarded_or_peer r'
  refine ⟨hpeer, hpeer', ?_, fun h ↦ ?_, ?_, fun h ↦ ?_⟩
  · rw [hofPeer hnone (.v4 ⟨9, 9, 9, 9⟩ 4444) rfl]
    decide
  · obtain ⟨list, hlist, -⟩ := (hempty hpeer).mp h
    exact Option.some_ne_none list (hlist.symm.trans hnone)
  · rw [hofList _ hvalue]
    decide
  · obtain ⟨list, hlist, hblank⟩ := (hempty' hpeer').mp h
    obtain rfl : list = _ := Option.some.inj (hlist.symm.trans hvalue)
    exact absurd hblank (by decide)

/-- A list that starts with a comma leaves nothing of the client's address, although another header
has one and the peer is known. -/
theorem leading_comma_hides_the_peer :
    let r := proxiedRequest
      [(.forwardedFor, Utf8.encode ", 10.0.0.1"), (.realIp, Utf8.encode "7.7.7.7")]
    r.peer = some (.v4 ⟨9, 9, 9, 9⟩ 4444) ∧ clientIp r = "" := by
  decide

end Tracking
end RequestTelemetry
