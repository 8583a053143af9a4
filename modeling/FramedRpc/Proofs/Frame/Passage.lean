import FramedRpc.Proofs.Frame.Chunks
import FramedRpc.Proofs.Frame.RoundTrip

namespace FramedRpc

-- The scan of a stream goes from one position to another and finds this on its way.
inductive Passes (limit : Nat) (stream : Bytes) : Nat → Nat → List (Nat × Finding) → Prop where
  | here (position : Nat) : Passes limit stream position position []
  | byte {start stop : Nat} {findings : List (Nat × Finding)} (inside : start < stream.length)
      (other : (stream.drop start).take 2 ≠ Frame.magic) (later : Passes limit stream (start + 1) stop findings) :
      Passes limit stream start stop findings
  | fault {start stop : Nat} {findings : List (Nat × Finding)} {fault : Fault}
      (pair : (stream.drop start).take 2 = Frame.magic)
      (failed : Candidate.ofBytes limit (stream.drop (start + 2)) = .fault fault)
      (later : Passes limit stream (start + 2) stop findings) :
      Passes limit stream start stop ((start, .fault fault) :: findings)
  | packet {start stop : Nat} {findings : List (Nat × Finding)} {p : Packet} {size : Nat}
      (pair : (stream.drop start).take 2 = Frame.magic)
      (passed : Candidate.ofBytes limit (stream.drop (start + 2)) = .packet p size)
      (later : Passes limit stream (start + 2 + size) stop findings) :
      Passes limit stream start stop ((start, .packet p) :: findings)

theorem inside_of_magic {stream : Bytes} {position : Nat} (pair : (stream.drop position).take 2 = Frame.magic) :
    position + 1 < stream.length ∧ stream[position + 1]? = some 7 := by
  have second := congrArg (fun bytes => bytes[1]?) pair
  simp only [List.getElem?_take_of_lt (by decide : 1 < 2), List.getElem?_drop] at second
  exact ⟨(List.getElem?_eq_some_iff.mp second).1, second⟩

namespace Passes

variable {limit : Nat} {stream : Bytes} {start middle stop : Nat} {findings more : List (Nat × Finding)}

theorem trans (first : Passes limit stream start middle findings) (second : Passes limit stream middle stop more) :
    Passes limit stream start stop (findings ++ more) := by
  induction first with
  | here => exact second
  | byte inside other later ih => exact .byte inside other (ih second)
  | fault pair failed later ih => exact .fault pair failed (ih second)
  | packet pair passed later ih => exact .packet pair passed (ih second)

theorem le (passes : Passes limit stream start stop findings) : start ≤ stop := by
  induction passes with
  | here => exact Nat.le_refl _
  | byte | fault | packet => omega

theorem positions (passes : Passes limit stream start stop findings) :
    ∀ found ∈ findings, start ≤ found.1 ∧ found.1 < stop := by
  induction passes with
  | here => exact fun _ none => absurd none List.not_mem_nil
  | byte inside other later ih =>
    intro found member
    have := ih found member
    omega
  | fault pair failed later ih | packet pair passed later ih =>
    have := later.le
    intro found member
    rcases List.mem_cons.mp member with rfl | member
    · exact ⟨Nat.le_refl _, by omega⟩
    · have := ih found member
      omega

theorem split (passes : Passes limit stream start stop findings) {position : Nat} {p : Packet}
    (found : (position, .packet p) ∈ findings) :
    ∃ early size, Passes limit stream start position early ∧
      (stream.drop position).take 2 = Frame.magic ∧
      Candidate.ofBytes limit (stream.drop (position + 2)) = .packet p size := by
  induction passes with
  | here => cases found
  | byte inside other later ih =>
    obtain ⟨early, size, before, candidate⟩ := ih found
    exact ⟨early, size, .byte inside other before, candidate⟩
  | fault pair failed later ih =>
    rcases List.mem_cons.mp found with same | found
    · cases same
    · obtain ⟨early, size, before, candidate⟩ := ih found
      exact ⟨_, size, .fault pair failed before, candidate⟩
  | packet pair passed later ih =>
    rcases List.mem_cons.mp found with same | found
    · cases same
      exact ⟨[], _, .here _, pair, passed⟩
    · obtain ⟨early, size, before, candidate⟩ := ih found
      exact ⟨_, size, .packet pair passed before, candidate⟩

theorem scanFrom_eq (passes : Passes limit stream start stop findings) :
    scanFrom limit stream start =
      ⟨findings ++ (scanFrom limit stream stop).findings, (scanFrom limit stream stop).unfinished⟩ := by
  induction passes with
  | here => rfl
  | byte inside other later ih => rw [scanFrom, if_pos inside, if_neg other, ih]
  | fault pair failed later ih | packet pair failed later ih =>
    rw [scanFrom, if_pos (Nat.lt_of_succ_lt (inside_of_magic pair).1), if_pos pair, failed]
    simp only [ih, Scan.found, List.cons_append]

theorem packets_scanFrom (passes : Passes limit stream start stop findings) :
    (scanFrom limit stream start).packets = Scan.packets ⟨findings, none⟩ ++ (scanFrom limit stream stop).packets := by
  unfold Scan.packets
  rw [passes.scanFrom_eq, List.filterMap_append]

theorem unfinished_scanFrom (passes : Passes limit stream start stop findings) :
    (scanFrom limit stream start).unfinished = (scanFrom limit stream stop).unfinished := by
  rw [passes.scanFrom_eq]

end Passes

theorem Scan.packets_eq_nil_or (findings : List (Nat × Finding)) :
    Scan.packets ⟨findings, none⟩ = [] ∨ ∃ position p, (position, .packet p) ∈ findings := by
  cases some : Scan.packets ⟨findings, none⟩ with
  | nil => exact .inl rfl
  | cons p others =>
    have member : p ∈ Scan.packets ⟨findings, none⟩ := some ▸ List.mem_cons_self
    obtain ⟨⟨position, finding⟩, found, same⟩ := List.mem_filterMap.mp member
    cases finding with
    | packet q =>
      cases same
      exact .inr ⟨position, _, found⟩
    | fault fault => cases same

inductive Approach (limit : Nat) (stream : Bytes) (start target : Nat) : Prop where
  | reached {findings : List (Nat × Finding)} (passes : Passes limit stream start target findings)
  | jumped {findings : List (Nat × Finding)} {position : Nat} {p : Packet} {size : Nat}
      (passes : Passes limit stream start position findings) (before : position < target)
      (pair : (stream.drop position).take 2 = Frame.magic)
      (passed : Candidate.ofBytes limit (stream.drop (position + 2)) = .packet p size)
      (beyond : target < position + 2 + size)
  | ended {findings : List (Nat × Finding)} {position : Nat} (passes : Passes limit stream start position findings)
      (before : position < target) (pair : (stream.drop position).take 2 = Frame.magic)
      (incomplete : Candidate.ofBytes limit (stream.drop (position + 2)) = .incomplete)

namespace Approach

variable {limit : Nat} {stream : Bytes} {start target : Nat}

theorem after {middle : Nat} {findings : List (Nat × Finding)}
    (passes : Passes limit stream start middle findings) (later : Approach limit stream middle target) :
    Approach limit stream start target := by
  cases later with
  | reached rest => exact .reached (passes.trans rest)
  | jumped rest before pair passed beyond => exact .jumped (passes.trans rest) before pair passed beyond
  | ended rest before pair incomplete => exact .ended (passes.trans rest) before pair incomplete

-- A candidate that fails gives up its magic pair only, and no magic pair lies across the place.
theorem exact (limit : Nat) {stream : Bytes} {start target : Nat} (ahead : start ≤ target) (inside : target ≤ stream.length) (clear : stream[target]? ≠ some 7) :
    Approach limit stream start target := by
  induction size : target - start using Nat.strongRecOn generalizing start with
  | ind n ih =>
    subst size
    by_cases there : start = target
    · subst there
      exact .reached (.here start)
    · by_cases pair : (stream.drop start).take 2 = Frame.magic
      · have whole : start + 2 ≤ target := by
          have apart : start + 1 ≠ target := by
            rintro rfl
            exact clear (inside_of_magic pair).2
          omega
        cases verdict : Candidate.ofBytes limit (stream.drop (start + 2)) with
        | incomplete => exact .ended (.here start) (by omega) pair verdict
        | fault fault =>
          exact after (.fault pair verdict (.here _)) (ih _ (by omega) whole rfl)
        | packet p size =>
          by_cases short : start + 2 + size ≤ target
          · exact after (.packet pair verdict (.here _)) (ih _ (by omega) short rfl)
          · exact .jumped (.here start) (by omega) pair verdict (by omega)
      · exact after (.byte (by omega) pair (.here _)) (ih _ (by omega) (by omega) rfl)

end Approach

-- A frame in a stream is delivered: the bytes from one place to another are a candidate that passes all its
-- checks, its packet is emitted in its turn, and everything behind it is read as by a new deframer.
structure Delivered (limit : Nat) (stream : Bytes) (start stop : Nat) (p : Packet) : Prop where
  pair : (stream.drop start).take 2 = Frame.magic
  passed : ∃ size, Candidate.ofBytes limit (stream.drop (start + 2)) = .packet p size ∧ stop = start + 2 + size
  placed : ∃ early, (∀ found ∈ early, found.1 < start) ∧
    (scan limit stream).findings = early ++ (start, .packet p) :: (scanFrom limit stream stop).findings ∧
    ∀ pieces : List Bytes, pieces.flatten = stream →
      ((Deframer.new limit).feedPieces pieces).2 =
        Scan.packets ⟨early, none⟩ ++ p :: ((Deframer.new limit).feed (stream.drop stop)).2

theorem packets_eq_scanFrom (limit : Nat) (stream : Bytes) (position : Nat) :
    ((Deframer.new limit).feed (stream.drop position)).2 = (scanFrom limit stream position).packets :=
  (feed_scanFrom (d := .new limit) stream position rfl).packets

theorem Passes.delivered {limit : Nat} {stream : Bytes} {start : Nat} {early : List (Nat × Finding)} {p : Packet}
    {size : Nat} (passes : Passes limit stream 0 start early) (pair : (stream.drop start).take 2 = Frame.magic)
    (passed : Candidate.ofBytes limit (stream.drop (start + 2)) = .packet p size) :
    Delivered limit stream start (start + 2 + size) p := by
  have onwards := passes.trans (.packet pair passed (.here _))
  have findings := congrArg Scan.findings onwards.scanFrom_eq
  simp only [List.append_assoc] at findings
  refine ⟨pair, ⟨size, passed, rfl⟩, early, fun found member => (passes.positions found member).2, findings, ?_⟩
  intro pieces cut
  have emitted := packets_eq_scanFrom limit stream 0
  rw [List.drop_zero, onwards.packets_scanFrom] at emitted
  rw [Deframer.feedPieces_flatten, cut, emitted, packets_eq_scanFrom]
  simp [Scan.packets]

namespace Candidate

-- Settled, and a frame of at most so many bytes if it is one.
def Within (n : Nat) : Candidate → Prop
  | incomplete => False
  | fault _ => True
  | packet _ size => size ≤ n

theorem Within.behind {m n : Nat} {c : Candidate} (within : c.Within n) : (c.behind m).Within (m + n) := by
  cases c with
  | incomplete => exact within
  | fault => trivial
  | packet p size => exact Nat.add_le_add_left within m

theorem Within.mono {m n : Nat} {c : Candidate} (within : c.Within m) (le : m ≤ n) : c.Within n := by
  cases c with
  | incomplete => exact within
  | fault => trivial
  | packet p size => exact Nat.le_trans within le

theorem ofChecksum_within (f : Frame.Fields) (fieldBytes contentBytes : Bytes) {bytes : Bytes}
    (enough : Frame.crcSize ≤ bytes.length) : (ofChecksum f fieldBytes contentBytes bytes).Within Frame.crcSize := by
  rw [ofChecksum_eq, if_neg (Nat.not_lt_of_le enough)]
  split
  · cases Frame.decodeContent contentBytes with
    | error e => trivial
    | ok v => exact Nat.le_refl _
  · trivial

theorem ofContent_within (f : Frame.Fields) (fieldBytes : Bytes) (n : Nat) {bytes : Bytes}
    (enough : n + Frame.crcSize ≤ bytes.length) : (ofContent f fieldBytes n bytes).Within (n + Frame.crcSize) := by
  unfold ofContent
  rw [if_neg (by omega)]
  exact (ofChecksum_within f fieldBytes _ (by rw [List.length_drop]; omega)).behind

theorem fieldsSize_le (bytes : Bytes) : Frame.fieldsSize bytes ≤ 6 := by
  have width := Sizing.idWidth_le bytes
  have := (Sizing.fieldsSize_bounds bytes).2
  omega

theorem ofFields_within (n : Nat) {bytes : Bytes} (enough : 6 + (n + Frame.crcSize) ≤ bytes.length) :
    (ofFields n bytes).Within (6 + (n + Frame.crcSize)) := by
  have size := fieldsSize_le bytes
  rw [ofFields_eq]
  simp only
  rw [if_neg (by omega)]
  split
  · trivial
  · have enough : n + Frame.crcSize ≤ (bytes.drop (Frame.fieldsSize bytes)).length := by
      rw [List.length_drop]
      omega
    exact (ofContent_within _ _ n enough).behind.mono (by omega)

theorem ofBytes_within {limit : Nat} {bytes : Bytes} (enough : limit + 18 ≤ bytes.length) :
    (ofBytes limit bytes).Within (limit + 18) := by
  have size : Frame.lengthSize bytes ≤ 8 := by
    unfold Frame.lengthSize
    split
    · split <;> omega
    · omega
  have trailer : Frame.crcSize = 4 := rfl
  rw [ofBytes_eq]
  simp only
  rw [if_neg (by omega)]
  cases Frame.readLength? (bytes.take (Frame.lengthSize bytes)) with
  | none => trivial
  | some n =>
    by_cases large : limit < n
    · simp only [if_pos large]
      trivial
    · simp only [if_neg large]
      have enough : 6 + (n + Frame.crcSize) ≤ (bytes.drop (Frame.lengthSize bytes)).length := by
        rw [List.length_drop]
        omega
      exact (ofFields_within n enough).behind.mono (by omega)

end Candidate

-- Why a deframer with this limit gives up the frame of a packet, if it does.
def Packet.refusal? (limit : Nat) (p : Packet) : Option Fault :=
  match Frame.encodeContent p.content with
  | .error _ => none
  | .ok content =>
    if limit < content.length then some .length
    else if p.isResponse ∧ p.requestId = 0 then some .range
    else none

theorem Candidate.ofBytes_frame {p : Packet} {frame : Bytes} (packed : p.encode = .ok frame) (limit : Nat) :
    ∃ bytes, frame = Frame.magic ++ bytes ∧ ∀ rest, ofBytes limit (bytes ++ rest) =
      match p.refusal? limit with
      | none => packet p bytes.length
      | some refusal => fault refusal := by
  obtain ⟨content, encoded, type, id, small, rfl⟩ := Packet.encode_eq_ok.mp packed
  refine ⟨_, Frame.assemble_eq p.fields content, ?_⟩
  intro rest
  have decoded := Frame.decodeContent_encodeContent encoded
  unfold Packet.refusal?
  rw [encoded]
  by_cases large : limit < content.length
  · simp only [if_pos large, Frame.body, List.append_assoc]
    rw [ofBytes_head (f := p.fields) type id small, if_pos large]
  · by_cases range : p.isResponse ∧ p.requestId = 0
    · simp only [if_neg large, if_pos range, Frame.body, List.append_assoc]
      have inFields : p.fields.isResponse ∧ p.fields.requestId = 0 := range
      rw [ofBytes_head (f := p.fields) type id small, if_neg large, if_pos inFields]
    · simp only [if_neg large, if_neg range]
      exact ofBytes_written (f := p.fields) decoded type id range small (Nat.le_of_not_lt large) rest

theorem Packet.refusal?_eq_none {limit : Nat} {p : Packet}
    (fits : ∀ content, Frame.encodeContent p.content = .ok content → content.length ≤ limit)
    (answers : ¬(p.isResponse ∧ p.requestId = 0)) : p.refusal? limit = none := by
  unfold refusal?
  cases encoded : Frame.encodeContent p.content with
  | error e => rfl
  | ok content => simp only [if_neg (Nat.not_lt_of_le (fits content encoded)), if_neg answers]

namespace Deframer

-- No bytes in front of a frame keep it from being found for longer than the longest candidate takes. Only a
-- candidate that passes all its checks can stand in for it, and behind that one everything is read afresh.
theorem feed_recovers {limit : Nat} (x y : Bytes) {p : Packet} {frame : Bytes} (packed : p.encode = .ok frame)
    (fits : ∀ content, Frame.encodeContent p.content = .ok content → content.length ≤ limit)
    (answers : ¬(p.isResponse ∧ p.requestId = 0)) (long : limit + 20 ≤ y.length) :
    Delivered limit (x ++ (frame ++ y)) x.length (x.length + frame.length) p ∨
      ∃ start stop q, start < x.length ∧ x.length < stop ∧ stop ≤ start + (limit + 20) ∧
        Delivered limit (x ++ (frame ++ y)) start stop q := by
  obtain ⟨bytes, rfl, verdict⟩ := Candidate.ofBytes_frame packed limit
  simp only [Packet.refusal?_eq_none fits answers] at verdict
  generalize same : x ++ (Frame.magic ++ bytes ++ y) = stream
  have behind : stream.drop x.length = Frame.magic ++ (bytes ++ y) := by
    rw [← same, List.drop_left, List.append_assoc]
  have lengths : stream.length = x.length + (2 + bytes.length + y.length) := by
    rw [← same]
    simp only [List.length_append, Frame.magic, List.length_cons, List.length_nil]
  have clear : stream[x.length]? ≠ some 7 := by
    have first := congrArg (fun bytes => bytes[0]?) behind
    simp only [List.getElem?_drop, Nat.add_zero] at first
    rw [first]
    exact (by decide : some (1 : UInt8) ≠ some 7)
  have settled : ∀ position, position < x.length →
      (Candidate.ofBytes limit (stream.drop (position + 2))).Within (limit + 18) := by
    intro position before
    apply Candidate.ofBytes_within
    rw [List.length_drop]
    omega
  cases Approach.exact limit (Nat.zero_le x.length) (by omega) clear with
  | reached passes =>
    left
    have pair : (stream.drop x.length).take 2 = Frame.magic := by
      rw [behind]
      exact List.take_left' rfl
    have passed : Candidate.ofBytes limit (stream.drop (x.length + 2)) = .packet p bytes.length := by
      rw [← List.drop_drop, behind]
      exact verdict y
    have delivered := passes.delivered pair passed
    rw [Nat.add_assoc] at delivered
    have size : (Frame.magic ++ bytes).length = 2 + bytes.length := List.length_append
    rw [size]
    exact delivered
  | @jumped findings position q size passes before pair passed beyond =>
    right
    have within := settled position before
    rw [passed] at within
    have short : size ≤ limit + 18 := within
    exact ⟨position, _, q, before, beyond, by omega, passes.delivered pair passed⟩
  | @ended findings position passes before pair incomplete =>
    have within := settled position before
    rw [incomplete] at within
    exact within.elim

-- A spurious head in front of the frame claims its first bytes, and fails on their checksum.
theorem feed_recovers_after_spurious_head :
    let notice := Packet.request 0 0 .null
    let frame : Bytes := [1, 7, 0, 0, 0, 0, 0, 0, 0, 18, 217, 65, 255]
    let x : Bytes := [1, 7, 0, 0, 0, 0]
    let y : Bytes := List.replicate 20 0
    notice.encode = .ok frame ∧
      (Delivered 0 (x ++ (frame ++ y)) 6 19 notice ∨
        ∃ start stop q, start < 6 ∧ 6 < stop ∧ stop ≤ start + 20 ∧
          Delivered 0 (x ++ (frame ++ y)) start stop q) := by
  intro notice frame x y
  have packed : notice.encode = .ok frame := by cbv
  have fits : ∀ content, Frame.encodeContent notice.content = .ok content → content.length ≤ 0 := by
    intro content encoded
    cases encoded
    decide
  exact ⟨packed, feed_recovers x y packed fits (by decide) (by decide)⟩

end Deframer

theorem scan_stretch {limit : Nat} {stream : Bytes} {start target : Nat} {early : List (Nat × Finding)}
    (passes : Passes limit stream 0 start early) (ahead : start ≤ target) (inside : target ≤ stream.length)
    (clear : stream[target]? ≠ some 7) :
    (∃ more, Passes limit stream 0 target more ∧
        (scanFrom limit stream start).packets = (scanFrom limit stream target).packets ∧
        (scanFrom limit stream start).unfinished = (scanFrom limit stream target).unfinished) ∨
      (scanFrom limit stream start).packets = [] ∧ (scanFrom limit stream start).unfinished ≠ none ∨
      ∃ position stop p, start ≤ position ∧ position < target ∧ Delivered limit stream position stop p := by
  have way : ∀ {findings position}, Passes limit stream start position findings → position ≤ target →
      Scan.packets ⟨findings, none⟩ = [] ∨
        ∃ position stop p, start ≤ position ∧ position < target ∧ Delivered limit stream position stop p := by
    intro findings position way before
    rcases Scan.packets_eq_nil_or findings with none | ⟨earlier, p, found⟩
    · exact .inl none
    · obtain ⟨_, _, before', pair, passed⟩ := way.split found
      obtain ⟨after, sooner⟩ := way.positions _ found
      exact .inr ⟨earlier, _, p, after, Nat.lt_of_lt_of_le sooner before,
        (passes.trans before').delivered pair passed⟩
  cases Approach.exact limit ahead inside clear with
  | reached rest =>
    rcases way rest (Nat.le_refl _) with none | stray
    · left
      refine ⟨_, passes.trans rest, ?_, rest.unfinished_scanFrom⟩
      rw [rest.packets_scanFrom, none, List.nil_append]
    · exact .inr (.inr stray)
  | jumped rest before pair passed beyond =>
    exact .inr (.inr ⟨_, _, _, rest.le, before, (passes.trans rest).delivered pair passed⟩)
  | @ended findings position rest before pair incomplete =>
    rcases way rest (Nat.le_of_lt before) with none | stray
    · right; left
      have stopped : scanFrom limit stream position = ⟨[], some position⟩ := by
        rw [scanFrom, if_pos (Nat.lt_of_succ_lt (inside_of_magic pair).1), if_pos pair, incomplete]
      rw [rest.packets_scanFrom, rest.unfinished_scanFrom, none, stopped]
      exact ⟨rfl, Option.some_ne_none _⟩
    · exact .inr (.inr stray)

-- In a stream of frames that begins at a place, one of them is refused and a packet comes from inside of it.
def Stray (limit : Nat) (stream : Bytes) (place : Nat) (packets : List Packet) : Prop :=
  ∃ before p after ahead frame, packets = before ++ p :: after ∧ before.mapM Packet.encode = .ok ahead ∧
    p.encode = .ok frame ∧ p.refusal? limit ≠ none ∧
    ∃ start stop q, place + ahead.flatten.length + 2 ≤ start ∧
      start < place + ahead.flatten.length + frame.length ∧ Delivered limit stream start stop q

theorem Stray.later {limit : Nat} {stream : Bytes} {place : Nat} {p : Packet} {others : List Packet} {frame : Bytes}
    (packed : p.encode = .ok frame) (stray : Stray limit stream (place + frame.length) others) :
    Stray limit stream place (p :: others) := by
  obtain ⟨before, q, after, ahead, other, rfl, ready, encoded, refused, start, stop, found, above, below, delivered⟩ :=
    stray
  refine ⟨p :: before, q, after, frame :: ahead, other, rfl, mapM_cons_eq_ok.mpr ⟨_, _, packed, ready, rfl⟩,
    encoded, refused, start, stop, found, ?_, ?_, delivered⟩
  · rw [List.flatten_cons, List.length_append]
    omega
  · rw [List.flatten_cons, List.length_append]
    omega

-- Every frame begins with the first magic byte, so what comes before it cannot end in half a magic pair.
theorem clear_frames {packets : List Packet} {frames : List Bytes} (packed : packets.mapM Packet.encode = .ok frames) :
    frames.flatten[0]? ≠ some 7 := by
  cases packets with
  | nil =>
    cases packed
    exact (by decide : none ≠ some (7 : UInt8))
  | cons p others =>
    obtain ⟨frame, more, first, -, rfl⟩ := mapM_cons_eq_ok.mp packed
    obtain ⟨bytes, rfl, -⟩ := Candidate.ofBytes_frame first 0
    exact (by decide : some (1 : UInt8) ≠ some 7)

-- The packets of accepted frames, as far as a scan gets, and it gets to the end unless it ends in a candidate.
def Gives (limit : Nat) (stream : Bytes) (place : Nat) (packets : List Packet) : Prop :=
  ∃ met rest, packets = met ++ rest ∧
    (scanFrom limit stream place).packets = met.filter (fun p => (p.refusal? limit).isNone) ∧
    (rest = [] ∨ (scanFrom limit stream place).unfinished ≠ none)

theorem scan_frames {limit : Nat} {stream : Bytes} {packets : List Packet} {frames : List Bytes} {start : Nat}
    {early : List (Nat × Finding)} (packed : packets.mapM Packet.encode = .ok frames)
    (passes : Passes limit stream 0 start early) (whole : stream.drop start = frames.flatten) :
    Gives limit stream start packets ∨ Stray limit stream start packets := by
  induction packets generalizing frames start early with
  | nil =>
    cases packed
    have ended : stream.drop start = [] := whole
    refine .inl ⟨[], [], rfl, ?_, .inl rfl⟩
    rw [← packets_eq_scanFrom, ended, Deframer.feed]
    rfl
  | cons p others ih =>
    obtain ⟨frame, more, first, later, rfl⟩ := mapM_cons_eq_ok.mp packed
    obtain ⟨bytes, rfl, verdict⟩ := Candidate.ofBytes_frame first limit
    rw [List.flatten_cons, List.append_assoc] at whole
    have size : (Frame.magic ++ bytes).length = 2 + bytes.length := List.length_append
    have pair : (stream.drop start).take 2 = Frame.magic := by
      rw [whole]
      exact List.take_left' rfl
    have rest : stream.drop (start + 2) = bytes ++ more.flatten := by
      rw [← List.drop_drop, whole]
      rfl
    have next : stream.drop (start + 2 + bytes.length) = more.flatten := by
      rw [← List.drop_drop, rest, List.drop_left]
    have judged := verdict more.flatten
    rw [← rest] at judged
    have lift : Stray limit stream (start + 2 + bytes.length) others → Stray limit stream start (p :: others) := by
      rw [Nat.add_assoc, ← size]
      exact Stray.later first
    cases refusal : p.refusal? limit with
    | none =>
      simp only [refusal] at judged
      have step := Passes.packet pair judged (.here _)
      rcases ih later (passes.trans step) next with ⟨met, unmet, rfl, given, ended⟩ | stray
      · refine .inl ⟨p :: met, unmet, rfl, ?_, ?_⟩
        · rw [step.packets_scanFrom, given, List.filter_cons_of_pos (by rw [refusal]; rfl)]
          rfl
        · rw [step.unfinished_scanFrom]
          exact ended
      · exact .inr (lift stray)
    | some fault =>
      simp only [refusal] at judged
      have step := Passes.fault pair judged (.here _)
      have clear : stream[start + 2 + bytes.length]? ≠ some 7 := by
        have head := congrArg (fun bytes => bytes[0]?) next
        simp only [List.getElem?_drop, Nat.add_zero] at head
        rw [head]
        exact clear_frames later
      have inside : start + 2 + bytes.length ≤ stream.length := by
        have lengths := congrArg List.length whole
        have positions := (inside_of_magic pair).1
        simp only [List.length_drop, List.length_append, Frame.magic, List.length_cons, List.length_nil] at lengths
        omega
      have skipped : (scanFrom limit stream start).packets = (scanFrom limit stream (start + 2)).packets :=
        step.packets_scanFrom
      have dropped : ∀ met : List Packet, (p :: met).filter (fun p => (p.refusal? limit).isNone) =
          met.filter (fun p => (p.refusal? limit).isNone) :=
        fun _ => List.filter_cons_of_neg (by rw [refusal]; exact Bool.false_ne_true)
      rcases scan_stretch (passes.trans step) (Nat.le_add_right _ bytes.length) inside clear with
        ⟨_, onwards, same, stays⟩ | ⟨none, stopped⟩ | ⟨position, stop, q, after, before, delivered⟩
      · rcases ih later onwards next with ⟨met, unmet, rfl, given, ended⟩ | stray
        · refine .inl ⟨p :: met, unmet, rfl, ?_, ?_⟩
          · rw [skipped, same, given, dropped]
          · rw [step.unfinished_scanFrom, stays]
            exact ended
        · exact .inr (lift stray)
      · refine .inl ⟨[p], others, rfl, ?_, .inr ?_⟩
        · rw [skipped, none, dropped]
          rfl
        · rw [step.unfinished_scanFrom]
          exact stopped
      · have refused : p.refusal? limit ≠ none := by
          rw [refusal]
          exact Option.some_ne_none fault
        refine .inr ⟨[], p, others, [], _, rfl, rfl, first, refused, position, stop, q, ?_, ?_, delivered⟩
        · simpa using after
        · rw [size]
          simp only [List.flatten_nil, List.length_nil]
          omega

namespace Deframer

theorem feed_refused {d : Deframer} (idle : d.isIdle = true) {p : Packet} {frame : Bytes} {fault : Fault}
    (packed : p.encode = .ok frame) (refused : p.refusal? d.limit = some fault) (rest : Bytes) :
    d.feed (frame ++ rest) = (d.faulted fault).feed (frame.drop 2 ++ rest) := by
  obtain ⟨sawFirst, seeking⟩ := isIdle_exact.mp idle
  obtain ⟨bytes, rfl, verdict⟩ := Candidate.ofBytes_frame packed d.limit
  have failed := verdict rest
  simp only [refused] at failed
  rw [List.append_assoc, feed_fault seeking failed]
  rfl

-- A stream of frames gives the packets of accepted frames in their order and nothing else, up to a candidate that
-- the stream ends in, unless a candidate inside of a refused frame passes all its checks: a refused frame counts
-- as one fault and loses its magic pair, and its other bytes are looked at again.
theorem feed_frames_unless_stray {limit : Nat} {packets : List Packet} {frames : List Bytes}
    (packed : packets.mapM Packet.encode = .ok frames) :
    let result := (new limit).feed frames.flatten
    (result.2.Sublist packets ∧ (∃ met rest, packets = met ++ rest ∧
        result.2 = met.filter (fun p => (p.refusal? limit).isNone) ∧ (rest = [] ∨ result.1.isIdle = false)) ∨
      Stray limit frames.flatten 0 packets) ∧
      ∀ p ∈ packets, ∀ (frame : Bytes) (fault : Fault), p.encode = .ok frame → p.refusal? limit = some fault →
        ∀ d : Deframer, d.isIdle = true → d.limit = limit → ∀ rest,
          d.feed (frame ++ rest) = (d.faulted fault).feed (frame.drop 2 ++ rest) := by
  intro result
  constructor
  · have shows : Shows frames.flatten (.new limit) (scanFrom limit frames.flatten 0) result :=
      feed_scanFrom frames.flatten 0 rfl
    rcases scan_frames packed (.here 0) rfl with ⟨met, rest, rfl, given, ended⟩ | stray
    · rw [← shows.packets] at given
      refine .inl ⟨?_, met, rest, rfl, given, ?_⟩
      · rw [given]
        exact List.filter_sublist.trans (List.sublist_append_left met rest)
      · rcases ended with none | stopped
        · exact .inl none
        · obtain ⟨position, place⟩ := Option.ne_none_iff_exists'.mp stopped
          exact .inr (shows.busy position place).1
    · exact .inr stray
  · rintro p - frame fault encoded refused d idle rfl rest
    exact feed_refused idle encoded refused rest

-- The answer to nobody is refused for its range, and the request behind it is met.
theorem feed_frames_past_answer_to_nobody :
    let packets := [Packet.response 3 0 (.list []), Packet.request 3 9 (.list [])]
    let frames : List Bytes := [[1, 7, 0, 2, 0, 2, 0, 0, 131, 2, 0, 70, 48, 103, 23],
      [1, 7, 0, 2, 0, 2, 0, 9, 3, 2, 0, 76, 100, 90, 139]]
    let result := (new 2).feed frames.flatten
    packets.mapM Packet.encode = .ok frames ∧
      (result.2.Sublist packets ∧ (∃ met rest, packets = met ++ rest ∧
          result.2 = met.filter (fun p => (p.refusal? 2).isNone) ∧ (rest = [] ∨ result.1.isIdle = false)) ∨
        Stray 2 frames.flatten 0 packets) := by
  intro packets frames result
  have packed : packets.mapM Packet.encode = .ok frames := by cbv
  exact ⟨packed, (feed_frames_unless_stray packed).1⟩

-- A frame may be carried in the content of another one, and comes out of it where that one is too large.
theorem feed_frame_inside_refused :
    let inner := Packet.request 0 0 .null
    let outer := Packet.request 0 0
      (.list [.scalar (.binary [1, 7, 0, 0, 0, 0, 0, 0, 0, 18, 217, 65, 255])])
    let frame : Bytes := [1, 7, 0, 17, 0, 17, 0, 0, 0, 2, 14, 13, 1, 7, 0, 0, 0, 0, 0, 0, 0, 18, 217, 65, 255, 0,
      183, 64, 25, 68]
    [outer].mapM Packet.encode = .ok [frame] ∧ ((new 16).feed [frame].flatten).2 = [inner] ∧
      ¬((new 16).feed [frame].flatten).2.Sublist [outer] := by
  intro inner outer frame
  have fed : (new 16).feed [frame].flatten = (⟨.seeking false, 16, ⟨1, 1, 0, 0, 0, 1⟩⟩, [inner]) := by cbv
  have packed : [outer].mapM Packet.encode = .ok [frame] := by cbv
  rw [fed]
  refine ⟨packed, rfl, ?_⟩
  rw [List.singleton_sublist, List.mem_singleton]
  decide

end Deframer
end FramedRpc
