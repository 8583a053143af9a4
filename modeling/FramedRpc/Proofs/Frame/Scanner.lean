import Mathlib
import FramedRpc.Proofs.Frame.Layout

namespace FramedRpc

-- What the bytes after a magic pair are.
inductive Candidate where
  | incomplete
  | fault (fault : Fault)
  | packet (p : Packet) (size : Nat)

namespace Candidate

def behind (n : Nat) : Candidate → Candidate
  | packet p size => packet p (n + size)
  | c => c

-- The checksum after fields and content, and then the content. Where there is none it is null.
def ofChecksum (fields : Frame.Fields) (fieldBytes contentBytes bytes : Bytes) : Candidate :=
  match Layout.checksum? bytes with
  | none => incomplete
  | some sum =>
    if sum = (Crc32.checksum (fieldBytes ++ contentBytes)).toNat then
      match if contentBytes = [] then .ok .null else Value.decode contentBytes with
      | .error _ => fault .decode
      | .ok v => packet ⟨fields.isResponse, fields.typeId, fields.requestId, v⟩ 4
    else fault .crc

def ofContent (fields : Frame.Fields) (fieldBytes : Bytes) (n : Nat) (bytes : Bytes) : Candidate :=
  if bytes.length < n then incomplete
  else (ofChecksum fields fieldBytes (bytes.take n) (bytes.drop n)).behind n

def ofFields (n : Nat) (bytes : Bytes) : Candidate :=
  match Layout.fields? bytes with
  | none => incomplete
  | some (fields, size) =>
    if fields.isResponse ∧ fields.requestId = 0 then fault .range
    else (ofContent fields (bytes.take size) n (bytes.drop size)).behind size

def ofBytes (limit : Nat) (bytes : Bytes) : Candidate :=
  match Layout.doubled? bytes with
  | none => incomplete
  | some (none, _) => fault .length
  | some (some n, size) => if limit < n then fault .length else (ofFields n (bytes.drop size)).behind size

-- What the candidates come to in terms of the decoders that the deframer has.

theorem ofChecksum_eq (fields : Frame.Fields) (fieldBytes contentBytes bytes : Bytes) :
    ofChecksum fields fieldBytes contentBytes bytes =
      if bytes.length < Frame.crcSize then incomplete
      else if Bytes.ofLittleEndian (bytes.take Frame.crcSize) =
          (Crc32.checksum (fieldBytes ++ contentBytes)).toNat then
        match Frame.decodeContent contentBytes with
        | .error _ => fault .decode
        | .ok v => packet ⟨fields.isResponse, fields.typeId, fields.requestId, v⟩ Frame.crcSize
      else fault .crc := by
  unfold ofChecksum
  rw [Layout.checksum?_eq]
  by_cases early : bytes.length < Frame.crcSize
  · simp only [if_pos early]
  · simp only [if_neg early]
    cases contentBytes with
    | nil => rfl
    | cons first rest => rfl

theorem ofFields_eq (n : Nat) (bytes : Bytes) :
    ofFields n bytes =
      let size := Frame.fieldsSize bytes
      let fieldBytes := bytes.take size
      let read := Frame.readFields fieldBytes
      if bytes.length < size then incomplete
      else if read.isResponse ∧ read.requestId = 0 then fault .range
      else (ofContent read fieldBytes n (bytes.drop size)).behind size := by
  unfold ofFields
  rw [Layout.fields?_eq]
  by_cases early : bytes.length < Frame.fieldsSize bytes
  · simp only [if_pos early]
  · simp only [if_neg early]

theorem ofBytes_eq (limit : Nat) (bytes : Bytes) :
    ofBytes limit bytes =
      let size := Frame.lengthSize bytes
      if bytes.length < size then incomplete
      else
        match Frame.readLength? (bytes.take size) with
        | none => fault .length
        | some n => if limit < n then fault .length else (ofFields n (bytes.drop size)).behind size := by
  unfold ofBytes
  rw [Layout.doubled?_eq]
  by_cases early : bytes.length < Frame.lengthSize bytes
  · simp only [if_pos early]
  · simp only [if_neg early]
    cases Frame.readLength? (bytes.take (Frame.lengthSize bytes)) <;> rfl

end Candidate

inductive Finding where
  | packet (p : Packet)
  | fault (fault : Fault)

structure Scan where
  findings : List (Nat × Finding)
  -- Where the candidate begins that the stream ends in.
  unfinished : Option Nat

namespace Scan

def packets (s : Scan) : List Packet :=
  s.findings.filterMap fun
    | (_, .packet p) => some p
    | (_, .fault _) => none

def faults (s : Scan) : List Fault :=
  s.findings.filterMap fun
    | (_, .packet _) => none
    | (_, .fault fault) => some fault

def stats (s : Scan) : Stats :=
  ⟨s.packets.length, s.faults.length, s.faults.count .crc, s.faults.count .decode, s.faults.count .range,
    s.faults.count .length⟩

def found (position : Nat) (finding : Finding) (s : Scan) : Scan :=
  { s with findings := (position, finding) :: s.findings }

end Scan

def scanFrom (limit : Nat) (stream : Bytes) (position : Nat) : Scan :=
  if position < stream.length then
    if (stream.drop position).take 2 = Frame.magic then
      match Candidate.ofBytes limit (stream.drop (position + 2)) with
      | .incomplete => ⟨[], some position⟩
      | .fault fault => (scanFrom limit stream (position + 2)).found position (.fault fault)
      | .packet p size => (scanFrom limit stream (position + 2 + size)).found position (.packet p)
    else scanFrom limit stream (position + 1)
  else ⟨[], none⟩
termination_by stream.length - position

def scan (limit : Nat) (stream : Bytes) : Scan := scanFrom limit stream 0

-- A candidate judged at once, against the first decision on its bytes one after another, which come after
-- sections already collected.
inductive Agrees (before bytes : Bytes) : Candidate → Outcome → Prop where
  | incomplete {phase : Phase} (held : phase.held = before ++ bytes) (busy : phase.isIdle = false) :
      Agrees before bytes .incomplete (.pending phase)
  | fault {fault : Fault} : Agrees before bytes (.fault fault) (.fault fault (before ++ bytes))
  | packet {p : Packet} {size : Nat} : Agrees before bytes (.packet p size) (.packet p (bytes.drop size))

theorem Agrees.behind {before bytes : Bytes} {n : Nat} {c : Candidate} {o : Outcome}
    (agrees : Agrees (before ++ bytes.take n) (bytes.drop n) c o) : Agrees before bytes (c.behind n) o := by
  have whole : (before ++ bytes.take n) ++ bytes.drop n = before ++ bytes := by
    rw [List.append_assoc, List.take_append_drop]
  cases agrees with
  | incomplete held busy => exact .incomplete (held.trans whole) busy
  | fault =>
    rw [whole]
    exact .fault
  | packet =>
    rw [List.drop_drop]
    exact .packet

namespace Phase

theorem crc_agrees (limit : Nat) (lengthBytes fieldBytes contentBytes bytes : Bytes) :
    Agrees (lengthBytes ++ (fieldBytes ++ contentBytes)) bytes
      (.ofChecksum (Frame.readFields fieldBytes) fieldBytes contentBytes bytes)
      ((crc lengthBytes fieldBytes contentBytes (Crc32.updateAll Crc32.start (fieldBytes ++ contentBytes))
        []).follow limit bytes) := by
  rw [Candidate.ofChecksum_eq, follow_crc]
  by_cases early : bytes.length < Frame.crcSize
  · rw [if_pos early, if_pos early]
    exact .incomplete (by simp [held]) rfl
  · rw [if_neg early, if_neg early]
    have whole : lengthBytes ++ (fieldBytes ++ (contentBytes ++ bytes.take Frame.crcSize)) ++
        bytes.drop Frame.crcSize = lengthBytes ++ (fieldBytes ++ contentBytes) ++ bytes := by
      simp only [List.append_assoc, List.take_append_drop]
    unfold afterCrc Crc32.checksum
    split
    · cases Frame.decodeContent contentBytes with
      | error e =>
        simp only [resume, whole]
        exact .fault
      | ok v => exact .packet
    · simp only [resume, whole]
      exact .fault

theorem content_agrees (limit : Nat) (lengthBytes fieldBytes : Bytes) (n : Nat) (bytes : Bytes)
    (valid : ¬((Frame.readFields fieldBytes).isResponse ∧ (Frame.readFields fieldBytes).requestId = 0)) :
    Agrees (lengthBytes ++ fieldBytes) bytes (.ofContent (Frame.readFields fieldBytes) fieldBytes n bytes)
      (resume limit bytes (afterFields lengthBytes fieldBytes n)) := by
  have ready : resume limit bytes (afterFields lengthBytes fieldBytes n) =
      if bytes.length < n then
        .pending (content lengthBytes fieldBytes (Crc32.updateAll Crc32.start fieldBytes) bytes.reverse
          (n - bytes.length))
      else
        (crc lengthBytes fieldBytes (bytes.take n) (Crc32.updateAll Crc32.start (fieldBytes ++ bytes.take n))
          []).follow limit (bytes.drop n) := by
    unfold afterFields
    simp only [if_neg valid]
    by_cases none : n = 0
    · subst none
      simp [resume]
    · rw [if_neg none, resume, follow_content _ _ _ _ (Nat.pos_of_ne_zero none)]
      simp
  unfold Candidate.ofContent
  rw [ready]
  by_cases early : bytes.length < n
  · rw [if_pos early, if_pos early]
    exact .incomplete (by simp [held]) rfl
  · rw [if_neg early, if_neg early]
    apply Agrees.behind
    rw [List.append_assoc]
    exact crc_agrees limit lengthBytes fieldBytes (bytes.take n) (bytes.drop n)

theorem fields_agrees (limit : Nat) (lengthBytes : Bytes) (n : Nat) (bytes : Bytes) :
    Agrees lengthBytes bytes (.ofFields n bytes) ((fields lengthBytes n []).follow limit bytes) := by
  rw [Candidate.ofFields_eq, follow_fields]
  by_cases early : bytes.length < Frame.fieldsSize bytes
  · simp only [if_pos early]
    exact .incomplete rfl rfl
  · simp only [if_neg early]
    generalize Frame.fieldsSize bytes = size
    by_cases range : (Frame.readFields (bytes.take size)).isResponse ∧
        (Frame.readFields (bytes.take size)).requestId = 0
    · have whole : lengthBytes ++ bytes.take size ++ bytes.drop size = lengthBytes ++ bytes := by
        rw [List.append_assoc, List.take_append_drop]
      simp only [if_pos range, afterFields, resume, whole]
      exact .fault
    · rw [if_neg range]
      exact .behind (content_agrees limit lengthBytes _ n _ range)

-- The candidate behind a magic pair is judged by the bytes that the deframer takes for it, and all of them
-- are there to be looked at again where it fails.
theorem follow_agrees (limit : Nat) (bytes : Bytes) :
    Agrees [] bytes (.ofBytes limit bytes) ((length []).follow limit bytes) := by
  rw [Candidate.ofBytes_eq, follow_length]
  by_cases early : bytes.length < Frame.lengthSize bytes
  · simp only [if_pos early]
    exact .incomplete rfl rfl
  · simp only [if_neg early]
    generalize Frame.lengthSize bytes = size
    unfold afterLength
    have whole : bytes.take size ++ bytes.drop size = [] ++ bytes := List.take_append_drop ..
    cases Frame.readLength? (bytes.take size) with
    | none =>
      simp only [resume, whole]
      exact .fault
    | some n =>
      by_cases large : limit < n
      · simp only [if_pos large, if_neg (Nat.not_le_of_lt large), resume, whole]
        exact .fault
      · simp only [if_neg large, if_pos (Nat.le_of_not_lt large), resume]
        exact .behind (fields_agrees limit (bytes.take size) n (bytes.drop size))

end Phase

def Stats.plus (s t : Stats) : Stats :=
  ⟨s.packets + t.packets, s.resyncs + t.resyncs, s.crcFailures + t.crcFailures,
    s.decodeFailures + t.decodeFailures, s.rangeFailures + t.rangeFailures,
    s.lengthFailures + t.lengthFailures⟩

namespace Stats

theorem zero_plus (s : Stats) : zero.plus s = s := by
  simp [plus, zero]

theorem plus_zero (s : Stats) : s.plus zero = s := by
  simp [plus, zero]

theorem plus_found_packet (s : Stats) (position : Nat) (p : Packet) (found : Scan) :
    s.plus (found.found position (.packet p)).stats = s.emitted.plus found.stats := by
  simp [plus, emitted, Scan.stats, Scan.found, Scan.packets, Scan.faults]
  omega

theorem plus_found_fault (s : Stats) (position : Nat) (fault : Fault) (found : Scan) :
    s.plus (found.found position (.fault fault)).stats = (s.faulted fault).plus found.stats := by
  cases fault <;> simp [plus, faulted, Scan.stats, Scan.found, Scan.packets, Scan.faults] <;> omega

end Stats

namespace Deframer

variable {d : Deframer}

theorem isIdle_exact : d.isIdle = true ↔ ∃ sawFirst, d.phase = .seeking sawFirst := by
  unfold isIdle
  constructor
  · intro idle
    cases same : d.phase with
    | seeking sawFirst => exact ⟨sawFirst, rfl⟩
    | length | fields | content | crc =>
      rw [same] at idle
      cases idle
  · rintro ⟨sawFirst, seeking⟩
    rw [seeking]
    rfl

theorem buffered_idle (idle : d.isIdle = true) : d.buffered = 0 := by
  obtain ⟨sawFirst, seeking⟩ := isIdle_exact.mp idle
  unfold buffered
  rw [seeking]
  rfl

theorem feed_seek {sawFirst : Bool} (idle : d.phase = .seeking sawFirst) {byte : UInt8}
    (apart : ¬(sawFirst = true ∧ byte = 7)) (rest : Bytes) :
    d.feed (byte :: rest) = { d with phase := .seeking (byte = 1) }.feed rest := by
  rw [feed_cons, idle]
  simp only [Phase.accept]
  rw [if_neg apart]
  rfl

theorem feed_magic {sawFirst : Bool} (idle : d.phase = .seeking sawFirst) (bytes : Bytes) :
    d.feed (Frame.magic ++ bytes) = { d with phase := .length [] }.feed bytes := by
  unfold Frame.magic
  rw [List.cons_append, feed_seek idle (by simp), List.cons_append, feed_cons]
  rfl

theorem feed_passed (idle : d.phase = .seeking false) {byte next : UInt8} {rest : Bytes}
    (other : (byte :: next :: rest).take 2 ≠ Frame.magic) :
    d.feed (byte :: next :: rest) = d.feed (next :: rest) := by
  have apart : ¬(decide (byte = 1) = true ∧ next = 7) := by
    rintro ⟨first, rfl⟩
    exact other (by simp [Frame.magic, of_decide_eq_true first])
  rw [feed_seek idle (by simp), feed_seek rfl apart, feed_seek idle (by simp)]

theorem feed_last (idle : d.phase = .seeking false) (byte : UInt8) :
    d.feed [byte] = ({ d with phase := .seeking (byte = 1) }, []) := by
  rw [feed_seek idle (by simp), feed]

-- Each verdict on a candidate, and where the deframer goes on after it.

section
variable {sawFirst : Bool} {bytes : Bytes}

theorem feed_candidate (idle : d.phase = .seeking sawFirst) (bytes : Bytes) :
    ∃ o, Agrees [] bytes (.ofBytes d.limit bytes) o ∧
      d.feed (Frame.magic ++ bytes) = settle { d with phase := .length [] } o := by
  refine ⟨_, Phase.follow_agrees d.limit bytes, ?_⟩
  rw [feed_magic idle, feed_follow]

theorem feed_incomplete (idle : d.phase = .seeking sawFirst)
    (verdict : Candidate.ofBytes d.limit bytes = .incomplete) :
    ∃ phase : Phase, phase.held = bytes ∧ phase.isIdle = false ∧
      d.feed (Frame.magic ++ bytes) = ({ d with phase }, []) := by
  obtain ⟨o, agrees, fed⟩ := feed_candidate idle bytes
  rw [verdict] at agrees
  cases agrees with
  | incomplete held busy => exact ⟨_, held, busy, fed⟩

theorem feed_fault (idle : d.phase = .seeking sawFirst) {fault : Fault}
    (verdict : Candidate.ofBytes d.limit bytes = .fault fault) :
    d.feed (Frame.magic ++ bytes) = (d.faulted fault).feed bytes := by
  obtain ⟨o, agrees, fed⟩ := feed_candidate idle bytes
  rw [verdict] at agrees
  cases agrees with
  | fault => exact fed

theorem feed_packet (idle : d.phase = .seeking sawFirst) {p : Packet} {size : Nat}
    (verdict : Candidate.ofBytes d.limit bytes = .packet p size) :
    d.feed (Frame.magic ++ bytes) =
      ((d.emitted.feed (bytes.drop size)).1, p :: (d.emitted.feed (bytes.drop size)).2) := by
  obtain ⟨o, agrees, fed⟩ := feed_candidate idle bytes
  rw [verdict] at agrees
  cases agrees with
  | packet => exact fed

end
end Deframer

-- What a deframer has to show for a stream, in the terms of a scan.
structure Shows (stream : Bytes) (start : Deframer) (s : Scan) (result : Deframer × List Packet) : Prop where
  packets : result.2 = s.packets
  stats : result.1.stats = start.stats.plus s.stats
  limit : result.1.limit = start.limit
  idle : s.unfinished = none → result.1.isIdle = true
  busy : ∀ position, s.unfinished = some position →
    result.1.isIdle = false ∧ result.1.phase.held = stream.drop (position + 2)

namespace Shows

variable {stream : Bytes} {d : Deframer} {s : Scan} {result : Deframer × List Packet}

theorem found_fault (position : Nat) {fault : Fault} (later : Shows stream (d.faulted fault) s result) :
    Shows stream d (s.found position (.fault fault)) result := by
  refine ⟨later.packets, ?_, later.limit, later.idle, later.busy⟩
  rw [later.stats, Stats.plus_found_fault]
  rfl

theorem found_packet (position : Nat) {p : Packet} (later : Shows stream d.emitted s result) :
    Shows stream d (s.found position (.packet p)) (result.1, p :: result.2) := by
  refine ⟨?_, ?_, later.limit, later.idle, later.busy⟩
  · rw [later.packets]
    rfl
  · rw [later.stats, Stats.plus_found_packet]
    rfl

end Shows

theorem feed_scanFrom (stream : Bytes) (position : Nat) {d : Deframer} (idle : d.phase = .seeking false) :
    Shows stream d (scanFrom d.limit stream position) (d.feed (stream.drop position)) := by
  have magicAt : ∀ position, (stream.drop position).take 2 = Frame.magic →
      stream.drop position = Frame.magic ++ stream.drop (position + 2) := by
    intro position pair
    rw [← pair, ← List.drop_drop, List.take_append_drop]
  generalize same : d.limit = limit
  fun_induction scanFrom limit stream position generalizing d with
  | case1 position inside pair incomplete =>
    subst same
    obtain ⟨phase, held, busy, fed⟩ := Deframer.feed_incomplete idle incomplete
    rw [magicAt _ pair, fed]
    refine ⟨rfl, rfl, rfl, ?_, ?_⟩
    · intro ended
      cases ended
    · intro _ stopped
      cases stopped
      exact ⟨busy, held⟩
  | case2 position inside pair fault failed ih =>
    subst same
    rw [magicAt _ pair, Deframer.feed_fault idle failed]
    exact (ih (d := d.faulted fault) rfl rfl).found_fault position
  | case3 position inside pair p size whole ih =>
    subst same
    rw [magicAt _ pair, Deframer.feed_packet idle whole, List.drop_drop]
    exact (ih (d := d.emitted) rfl rfl).found_packet position
  | case4 position inside other ih =>
    have later := ih idle same
    rw [List.drop_eq_getElem_cons inside] at other ⊢
    cases rest : stream.drop (position + 1) with
    | nil =>
      rw [rest, Deframer.feed] at later
      rw [Deframer.feed_last idle]
      refine ⟨later.packets, later.stats, later.limit, fun _ => rfl, ?_⟩
      intro position stopped
      have busy := (later.busy position stopped).1
      rw [Deframer.isIdle_exact.mpr ⟨false, idle⟩] at busy
      cases busy
    | cons next tail =>
      rw [rest] at other later
      rw [Deframer.feed_passed idle other]
      exact later
  | case5 position outside =>
    rw [List.drop_eq_nil_iff.mpr (by omega), Deframer.feed]
    refine ⟨rfl, (Stats.plus_zero d.stats).symm, rfl, fun _ => Deframer.isIdle_exact.mpr ⟨false, idle⟩, ?_⟩
    intro _ stopped
    cases stopped

-- All that a fresh deframer shows of a stream is what the scanner finds in it, and what it keeps is what
-- follows the magic pair of the candidate that the stream ends in.
theorem feed_new_eq_scan (limit : Nat) (stream : Bytes) :
    let s := scan limit stream
    let d := ((Deframer.new limit).feed stream).1
    ((Deframer.new limit).feed stream).2 = s.packets ∧ d.stats = s.stats ∧ d.limit = limit ∧
      (d.isIdle = true ∧ d.buffered = 0 ↔ s.unfinished = none) ∧
      ∀ position, s.unfinished = some position →
        d.isIdle = false ∧ d.phase.held = stream.drop (position + 2) ∧
          d.buffered = stream.length - (position + 2) := by
  have shows : Shows stream (Deframer.new limit) (scan limit stream) ((Deframer.new limit).feed stream) :=
    feed_scanFrom stream 0 rfl
  generalize (Deframer.new limit).feed stream = result at shows
  refine ⟨shows.packets, ?_, shows.limit, ⟨?_, ?_⟩, ?_⟩
  · rw [shows.stats]
    exact Stats.zero_plus _
  · rintro ⟨idle, -⟩
    cases stopped : (scan limit stream).unfinished with
    | none => rfl
    | some position =>
      rw [(shows.busy position stopped).1] at idle
      cases idle
  · intro ended
    have idle := shows.idle ended
    refine ⟨idle, ?_⟩
    exact Deframer.buffered_idle idle
  · intro position stopped
    obtain ⟨busy, held⟩ := shows.busy position stopped
    refine ⟨busy, held, ?_⟩
    unfold Deframer.buffered
    rw [held, List.length_drop]

-- Copies that differ, a checksum that does not fit, a request without content, an answer to nobody, an answer with
-- the wider forms of type and id, a content that is no value, and a head that is not complete.
theorem feed_new_eq_scan_mixed :
    let stream : Bytes := [9, 1, 7, 0, 2, 0, 3, 1, 7, 0, 2, 0, 2, 0, 5, 2, 2, 0, 195, 177, 78, 193, 1, 7, 0, 0, 0, 0, 0,
      5, 2, 123, 76, 56, 108, 1, 7, 0, 0, 0, 0, 0, 0, 130, 30, 59, 247, 252, 1, 7, 0, 3, 0, 3, 129, 17, 112, 193, 44,
      2, 8, 0, 29, 79, 244, 197, 1, 7, 0, 1, 0, 1, 0, 5, 2, 9, 209, 199, 101, 108, 1, 7, 0]
    let request := Packet.request 2 5 .null
    let answer := Packet.response 300 70000 (.list [.bool true])
    let d := ((Deframer.new 8).feed stream).1
    scan 8 stream = ⟨[(1, .fault .length), (7, .fault .crc), (22, .packet request), (35, .fault .range),
        (48, .packet answer), (66, .fault .decode)], some 80⟩ ∧
      ((Deframer.new 8).feed stream).2 = [request, answer] ∧ d.stats = ⟨2, 4, 1, 1, 1, 1⟩ ∧ d.isIdle = false ∧
      d.phase.held = [0] := by
  intro stream request answer d
  have found : scan 8 stream = ⟨[(1, .fault .length), (7, .fault .crc), (22, .packet request), (35, .fault .range),
      (48, .packet answer), (66, .fault .decode)], some 80⟩ := by cbv
  obtain ⟨packets, stats, -, -, busy⟩ := feed_new_eq_scan 8 stream
  rw [found] at packets stats busy
  obtain ⟨notIdle, held, -⟩ := busy 80 rfl
  exact ⟨found, packets, stats, notIdle, held⟩

end FramedRpc
