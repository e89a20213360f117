import Mathlib.Data.List.Basic
import RequestTelemetry.Tracking.Capture

/-!
# What a capture keeps

A capture takes statuses and chunks of octets as they come. How the octets are cut into chunks, and
where among them a status is set, leaves no trace: the capture is determined by the last status and
by all octets one after another, of which it keeps the first up to its limit and counts the rest. A
response that is captured when it is ready is thus captured as one that was written bit by bit.

`Capture.ofAll` is the capture in this closed form. One record takes it to the closed form of one
record more, whether there is room for all octets of a chunk, for some or for none.
-/

namespace RequestTelemetry.Tracking.Capture

open Http

/-! ## What was recorded -/

/-- The status that a record sets. -/
def Record.status? : Record → Option Status
  | .status s => some s
  | .chunk _ => none

/-- The octets that a record adds. -/
def Record.octets? : Record → Option Bytes
  | .status _ => none
  | .chunk octets => some octets

/-- The last status that is set, if one is. -/
def lastStatus? (records : List Record) : Option Status :=
  (records.filterMap Record.status?).getLast?

/-- All octets in order. -/
def allOctets (records : List Record) : Bytes := (records.filterMap Record.octets?).flatten

theorem lastStatus?_cons_status (s : Status) (records : List Record) :
    lastStatus? (.status s :: records) = some ((lastStatus? records).getD s) := by
  change (s :: records.filterMap Record.status?).getLast? = _
  rw [List.getLast?_cons]
  rfl

theorem lastStatus?_cons_chunk (octets : Bytes) (records : List Record) :
    lastStatus? (.chunk octets :: records) = lastStatus? records := rfl

theorem allOctets_cons_status (s : Status) (records : List Record) :
    allOctets (.status s :: records) = allOctets records := rfl

theorem allOctets_cons_chunk (octets : Bytes) (records : List Record) :
    allOctets (.chunk octets :: records) = octets ++ allOctets records := rfl

theorem lastStatus?_map_chunk (chunks : List Bytes) : lastStatus? (chunks.map .chunk) = none := by
  induction chunks with
  | nil => rfl
  | cons octets chunks ih => rw [List.map_cons, lastStatus?_cons_chunk, ih]

theorem allOctets_map_chunk (chunks : List Bytes) :
    allOctets (chunks.map .chunk) = chunks.flatten := by
  induction chunks with
  | nil => rfl
  | cons octets chunks ih => rw [List.map_cons, allOctets_cons_chunk, ih, List.flatten_cons]

/-! ## The closed form -/

/-- The capture of a status and of octets that come all at once. -/
def ofAll (limit : Nat) (status : Status) (all : Bytes) : Capture where
  limit
  status
  body := all.take limit
  written := all.length

theorem empty_eq_ofAll (limit : Nat) : empty limit = ofAll limit .ok [] := by
  rw [empty, ofAll, List.take_nil, List.length_nil]

theorem setStatus_ofAll (limit : Nat) (s s' : Status) (all : Bytes) :
    (ofAll limit s all).setStatus s' = ofAll limit s' all := rfl

/-- The room that is left is what the limit leaves of all octets so far, whether they fit or not. -/
theorem write_ofAll (limit : Nat) (s : Status) (all chunk : Bytes) :
    (ofAll limit s all).write chunk = ofAll limit s (all ++ chunk) := by
  have hroom : limit - (all.take limit).length = limit - all.length := by
    rw [List.length_take]
    omega
  have hbody : all.take limit ++ chunk.take (limit - (all.take limit).length)
      = (all ++ chunk).take limit := by
    rw [hroom, List.take_append]
  rw [write, ofAll, ofAll, hbody, List.length_append]

/-- Recording takes the closed form to the closed form, and answers each chunk with its length. -/
theorem recordAll_ofAll (limit : Nat) (s : Status) (all : Bytes) (records : List Record) :
    (ofAll limit s all).recordAll records =
      (ofAll limit ((lastStatus? records).getD s) (all ++ allOctets records),
        records.map fun x ↦ x.octets?.map List.length) := by
  induction records generalizing s all with
  | nil =>
    rw [allOctets, List.filterMap_nil, List.flatten_nil, List.append_nil]
    rfl
  | cons x records ih =>
    rw [recordAll]
    cases x with
    | status s' =>
      rw [record, setStatus_ofAll, lastStatus?_cons_status, allOctets_cons_status, Option.getD_some]
      simp only [ih]
      rfl
    | chunk octets =>
      rw [record, write_ofAll, lastStatus?_cons_chunk, allOctets_cons_chunk, ← List.append_assoc]
      simp only [ih]
      rfl

theorem recordAll_empty (limit : Nat) (records : List Record) :
    (empty limit).recordAll records =
      (ofAll limit ((lastStatus? records).getD .ok) (allOctets records),
        records.map fun x ↦ x.octets?.map List.length) := by
  rw [empty_eq_ofAll, recordAll_ofAll, List.nil_append]

theorem isTruncated_ofAll {limit : Nat} {s : Status} {all : Bytes} :
    (ofAll limit s all).isTruncated = true ↔ limit < all.length := by
  rw [isTruncated, decide_eq_true_iff]
  change (all.take limit).length < all.length ↔ limit < all.length
  rw [List.length_take]
  omega

theorem ofResponse_eq_ofAll (r : Response) (limit : Nat) :
    ofResponse r limit = ofAll limit r.status r.body := by
  rw [ofResponse, empty_eq_ofAll, setStatus_ofAll, write_ofAll, List.nil_append]

/-- **A capture keeps the first octets and the last status.** After any sequence of statuses and
chunks, the status is the last one set, or 200 if none was; the body is the first octets of all that
were written, up to the limit, and the count is that of all; some are missing exactly if there were
more than the limit; and each chunk was answered with its length.

So sequences with the same last status and the same octets altogether lead to the same capture. In
particular a response that passes a capture comes out as it came in, and what was captured of it is
what its status and the pieces of its body lead to one by one, however the body is cut. -/
theorem capture_keeps_prefix (limit : Nat) (records : List Record) :
    let c := ((empty limit).recordAll records).1
    let all := allOctets records
    c.status = (lastStatus? records).getD .ok ∧
      c.body = all.take (min limit all.length) ∧
      c.written = all.length ∧
      (c.isTruncated = true ↔ limit < all.length) ∧
      ((empty limit).recordAll records).2 = records.map (fun x ↦ x.octets?.map List.length) ∧
      (∀ records', (lastStatus? records').getD .ok = (lastStatus? records).getD .ok →
        allOctets records' = all → ((empty limit).recordAll records').1 = c) ∧
      ∀ (r : Response) (chunks : List Bytes), chunks.flatten = r.body →
        captureResponse r limit =
          (r, ((empty limit).recordAll (.status r.status :: chunks.map .chunk)).1) := by
  intro c all
  have hrun := recordAll_empty limit records
  have hc : c = ofAll limit ((lastStatus? records).getD .ok) all := congrArg Prod.fst hrun
  rw [hc]
  refine ⟨rfl, ?_, rfl, isTruncated_ofAll, congrArg Prod.snd hrun, ?_, ?_⟩
  · exact List.take_eq_take_min
  · intro records' hstatus hall
    rw [recordAll_empty, hstatus, hall]
  · intro r chunks hchunks
    rw [captureResponse, ofResponse_eq_ofAll, recordAll_empty, lastStatus?_cons_status,
      lastStatus?_map_chunk, allOctets_cons_status, allOctets_map_chunk, hchunks]
    rfl

/-- A body that goes over the limit inside a chunk, with an empty chunk and a status between the
chunks, is captured as the whole is. -/
theorem chunks_over_the_limit :
    let r : Response := { status := .notFound, body := [1, 2, 3, 4, 5] }
    let records : List Record :=
      [.chunk [1, 2], .status .noContent, .chunk [], .chunk [3, 4, 5], .status .notFound]
    ((empty 4).recordAll [.status .notFound, .chunk [1, 2, 3], .chunk [4, 5]]).1
        = ((empty 4).recordAll records).1 ∧
      captureResponse r 4 = (r, ((empty 4).recordAll
        [.status .notFound, .chunk [1], .chunk [], .chunk [2, 3, 4, 5]]).1) ∧
      ((empty 4).recordAll records).1.body = [1, 2, 3, 4] := by
  intro r records
  obtain ⟨-, hbody, -, -, -, hcongr, hresponse⟩ := capture_keeps_prefix 4 records
  exact ⟨hcongr [.status .notFound, .chunk [1, 2, 3], .chunk [4, 5]] rfl rfl,
    hresponse r [[1], [], [2, 3, 4, 5]] rfl, hbody⟩

end RequestTelemetry.Tracking.Capture
