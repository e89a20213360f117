import RequestTelemetry.Proofs.JsonRoundTrip
import RequestTelemetry.Tracking.Event

/-!
# What a collector can read off a payload

The payload of an event is a value of whole numbers and of depth four, so reading undoes writing
for it: whatever characters the texts of the event hold, and however large its numbers are, a
reader of JSON finds every one of them in its place. In particular no two events have the same
octets.
-/

namespace RequestTelemetry.Tracking.Event

theorem isWhole_payload (e : Event) : e.payload.IsWhole := by
  have hstatus : Json.IsWhole (.ofNat e.statusCode.toNat) :=
    Number.fitsWord_of_le (Nat.le_trans (Nat.le_of_lt e.statusCode.toNat_lt) (by decide))
  have htime : Json.IsWhole (.ofNat e.responseTimeMs.toNat) :=
    Number.fitsWord_of_le (Nat.le_sub_one_of_lt e.responseTimeMs.toNat_lt)
  simp [payload, Json.IsWhole, Json.ItemsWhole, Json.FieldsWhole, hstatus, htime]

theorem depth_payload (e : Event) : e.payload.depth = 4 := rfl

/-- The payload with its members in increasing order of keys. -/
theorem sorted_payload (e : Event) : e.payload.sorted =
    .object [
      ("client_id", .string e.clientId),
      ("events", .array [.object [
        ("name", .string "api_request"),
        ("params", .object [
          ("ip_address", .string e.ipAddress),
          ("method", .string e.method),
          ("path", .string e.path),
          ("response_time_ms", .ofNat e.responseTimeMs.toNat),
          ("status_code", .ofNat e.statusCode.toNat),
          ("user_agent", .string e.userAgent)])]])] := by
  simp only [payload, reportedName, Json.ofNat, Json.sorted, Json.sortedItems, Json.sortedFields,
    Json.ofFields, Json.sortFields, Json.insertField, List.foldl_cons, List.foldl_nil,
    String.reduceLT, String.reduceEq, ↓reduceIte]

theorem ofBytes?_payload (e : Event) : Json.ofBytes? e.toJson = some e.payload.sorted :=
  Json.ofBytes?_renderBytes (isWhole_payload e) (by rw [depth_payload]; decide)

/-- An event is determined by what its payload holds. -/
theorem eq_of_sorted_payload_eq {e e' : Event} (h : e.payload.sorted = e'.payload.sorted) :
    e = e' := by
  rw [sorted_payload, sorted_payload] at h
  obtain ⟨hclient, hip, hmethod, hpath, htime, hstatus, hagent⟩ :
      e.clientId = e'.clientId ∧ e.ipAddress = e'.ipAddress ∧ e.method = e'.method ∧
        e.path = e'.path ∧ e.responseTimeMs = e'.responseTimeMs ∧ e.statusCode = e'.statusCode ∧
        e.userAgent = e'.userAgent := by
    simpa [Json.ofNat, Int.natCast_inj, UInt64.toNat_inj, UInt16.toNat_inj] using h
  exact Event.ext hclient hpath hmethod hstatus htime hagent hip

/-- **The payload loses nothing.** For all texts and numbers an event may hold, reading the octets
of its payload gives the client id and one event named `api_request` with the six other fields
unchanged, and two events have the same octets only if they are the same. -/
theorem payload_loses_nothing :
    (∀ e : Event, Json.ofBytes? e.toJson = some (.object [
      ("client_id", .string e.clientId),
      ("events", .array [.object [
        ("name", .string "api_request"),
        ("params", .object [
          ("ip_address", .string e.ipAddress),
          ("method", .string e.method),
          ("path", .string e.path),
          ("response_time_ms", .ofNat e.responseTimeMs.toNat),
          ("status_code", .ofNat e.statusCode.toNat),
          ("user_agent", .string e.userAgent)])]])])) ∧
    ∀ e e' : Event, e.toJson = e'.toJson ↔ e = e' := by
  refine ⟨fun e ↦ (ofBytes?_payload e).trans (congrArg some (sorted_payload e)), fun e e' ↦ ?_⟩
  constructor
  · intro h
    have hread : some e.payload.sorted = some e'.payload.sorted := by
      rw [← ofBytes?_payload, ← ofBytes?_payload, h]
    exact eq_of_sorted_payload_eq (Option.some.inj hread)
  · rintro rfl
    rfl

end RequestTelemetry.Tracking.Event
