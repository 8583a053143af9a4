import FramedRpc.Frame.Packet

namespace FramedRpc

-- What a frame in progress has collected, by the part that is being read.
inductive Phase where
  | seeking (sawFirst : Bool)
  | length (held : Bytes)
  | fields (lengthBytes : Bytes) (contentLength : Nat) (held : Bytes)
  -- The content so far, newest byte first, and how much of it is missing.
  | content (lengthBytes fieldBytes : Bytes) (register : UInt32) (newest : Bytes) (missing : Nat)
  | crc (lengthBytes fieldBytes contentBytes : Bytes) (register : UInt32) (held : Bytes)
  deriving DecidableEq

inductive Fault where
  | length
  | range
  | crc
  | decode
  deriving DecidableEq, Repr

structure Stats where
  packets : Nat
  resyncs : Nat
  crcFailures : Nat
  decodeFailures : Nat
  rangeFailures : Nat
  lengthFailures : Nat
  deriving DecidableEq, Repr

namespace Stats

def zero : Stats := ⟨0, 0, 0, 0, 0, 0⟩

def emitted (s : Stats) : Stats := { s with packets := s.packets + 1 }

def faulted (s : Stats) (fault : Fault) : Stats :=
  let s := { s with resyncs := s.resyncs + 1 }
  match fault with
  | .length => { s with lengthFailures := s.lengthFailures + 1 }
  | .range => { s with rangeFailures := s.rangeFailures + 1 }
  | .crc => { s with crcFailures := s.crcFailures + 1 }
  | .decode => { s with decodeFailures := s.decodeFailures + 1 }

end Stats

-- What one more byte leads to.
inductive Verdict where
  | more (phase : Phase)
  | packet (p : Packet)
  | fault (fault : Fault) (again : Bytes)

namespace Phase

-- The bytes kept for the frame in progress, after its magic pair.
def held : Phase → Bytes
  | seeking _ => []
  | length held => held
  | fields lengthBytes _ held => lengthBytes ++ held
  | content lengthBytes fieldBytes _ newest _ => lengthBytes ++ (fieldBytes ++ newest.reverse)
  | crc lengthBytes fieldBytes contentBytes _ held =>
    lengthBytes ++ (fieldBytes ++ (contentBytes ++ held))

def isIdle : Phase → Bool
  | seeking _ => true
  | _ => false

-- The bytes of the stream that the phase stands for, the magic pair included.
def weight (phase : Phase) : Nat :=
  match phase with
  | seeking sawFirst => sawFirst.toNat
  | _ => phase.held.length + 2

-- A length is accepted if its copies agree and it is within the limit.
def afterLength (limit : Nat) (lengthBytes : Bytes) : Verdict :=
  match Frame.readLength? lengthBytes with
  | some n => if n ≤ limit then .more (fields lengthBytes n []) else .fault .length lengthBytes
  | none => .fault .length lengthBytes

-- A response answers a request, and requests with an answer have an id other than zero.
def afterFields (lengthBytes fieldBytes : Bytes) (contentLength : Nat) : Verdict :=
  let read := Frame.readFields fieldBytes
  if read.isResponse ∧ read.requestId = 0 then .fault .range (lengthBytes ++ fieldBytes)
  else
    let register := Crc32.updateAll Crc32.start fieldBytes
    if contentLength = 0 then .more (crc lengthBytes fieldBytes [] register [])
    else .more (content lengthBytes fieldBytes register [] contentLength)

-- The checks of a complete frame: the checksum first, then the content.
def afterCrc (lengthBytes fieldBytes contentBytes : Bytes) (register : UInt32) (held : Bytes) : Verdict :=
  let again := lengthBytes ++ (fieldBytes ++ (contentBytes ++ held))
  if Bytes.ofLittleEndian held = (Crc32.finish register).toNat then
    match Frame.decodeContent contentBytes with
    | .error _ => .fault .decode again
    | .ok v =>
      let read := Frame.readFields fieldBytes
      .packet ⟨read.isResponse, read.typeId, read.requestId, v⟩
  else .fault .crc again

def accept (limit : Nat) (phase : Phase) (byte : UInt8) : Verdict :=
  match phase with
  | seeking sawFirst =>
    if sawFirst ∧ byte = 0x07 then .more (length []) else .more (seeking (byte = 0x01))
  | length held =>
    let held := held ++ [byte]
    if held.length < Frame.lengthSize held then .more (length held) else afterLength limit held
  | fields lengthBytes contentLength held =>
    let held := held ++ [byte]
    if held.length < Frame.fieldsSize held then .more (fields lengthBytes contentLength held)
    else afterFields lengthBytes held contentLength
  | content lengthBytes fieldBytes register newest missing =>
    let newest := byte :: newest
    if missing ≤ 1 then
      let contentBytes := newest.reverse
      .more (crc lengthBytes fieldBytes contentBytes (Crc32.updateAll register contentBytes) [])
    else .more (content lengthBytes fieldBytes register newest (missing - 1))
  | crc lengthBytes fieldBytes contentBytes register held =>
    let held := held ++ [byte]
    if held.length < Frame.crcSize then .more (crc lengthBytes fieldBytes contentBytes register held)
    else afterCrc lengthBytes fieldBytes contentBytes register held

theorem weight_accept {limit : Nat} {phase phase' : Phase} {byte : UInt8}
    (h : phase.accept limit byte = .more phase') : phase'.weight ≤ phase.weight + 1 := by
  cases phase with
  | seeking sawFirst =>
    simp only [accept] at h
    split at h <;> cases h
    · simp_all [weight, held]
    · have := Bool.toNat_le (decide (byte = 0x01))
      simp only [weight]
      omega
  | length _ =>
    simp only [accept, afterLength] at h
    split at h
    · cases h
      simp [weight, held]
    · split at h
      · split at h <;> cases h
        simp [weight, held]
      · cases h
  | fields _ _ _ =>
    simp only [accept, afterFields] at h
    split at h
    · cases h
      simp [weight, held]
      omega
    · split at h
      · cases h
      · split at h <;> cases h <;> simp [weight, held] <;> omega
  | content _ _ _ _ _ =>
    simp only [accept] at h
    split at h <;> cases h <;> simp [weight, held] <;> omega
  | crc _ _ _ _ _ =>
    simp only [accept, afterCrc] at h
    split at h
    · cases h
      simp [weight, held]
      omega
    · split at h
      · split at h <;> cases h
      · cases h

-- A frame given up leaves its magic pair behind for good.
theorem length_again {limit : Nat} {phase : Phase} {byte : UInt8} {fault : Fault} {again : Bytes}
    (h : phase.accept limit byte = .fault fault again) : again.length + 1 = phase.weight := by
  cases phase with
  | seeking sawFirst =>
    simp only [accept] at h
    split at h <;> cases h
  | length _ =>
    simp only [accept, afterLength] at h
    split at h
    · cases h
    · split at h
      · split at h <;> cases h
        simp [weight, held]
      · cases h
        simp [weight, held]
  | fields _ _ _ =>
    simp only [accept, afterFields] at h
    split at h
    · cases h
    · split at h
      · cases h
        simp [weight, held]
        omega
      · split at h <;> cases h
  | content _ _ _ _ _ =>
    simp only [accept] at h
    split at h <;> cases h
  | crc _ _ _ _ _ =>
    simp only [accept, afterCrc] at h
    split at h
    · cases h
    · split at h
      · split at h <;> cases h
        simp [weight, held]
        omega
      · cases h
        simp [weight, held]
        omega

end Phase

structure Deframer where
  phase : Phase
  -- The longest content that is accepted.
  limit : Nat
  stats : Stats
  deriving DecidableEq

namespace Deframer

def new (limit : Nat) : Deframer := ⟨.seeking false, limit, .zero⟩

-- Takes bytes in and gives the packets that they complete, in the order of the stream.
def feed (d : Deframer) : Bytes → Deframer × List Packet
  | [] => (d, [])
  | byte :: rest =>
    match _h : d.phase.accept d.limit byte with
    | .more phase => feed { d with phase } rest
    | .packet p =>
      let (d, packets) := feed { d with phase := .seeking false, stats := d.stats.emitted } rest
      (d, p :: packets)
    | .fault fault again =>
      feed { d with phase := .seeking false, stats := d.stats.faulted fault } (again ++ rest)
termination_by bytes => (d.phase.weight + bytes.length, bytes.length)
decreasing_by
  · have := Phase.weight_accept _h
    rw [Prod.lex_def]
    simp only [List.length_cons]
    omega
  · apply Prod.Lex.left
    show 0 + rest.length < _
    simp only [List.length_cons]
    omega
  · have := Phase.length_again _h
    apply Prod.Lex.left
    show 0 + (again ++ rest).length < _
    simp only [List.length_cons, List.length_append]
    omega

def feedPieces (d : Deframer) : List Bytes → Deframer × List Packet
  | [] => (d, [])
  | piece :: rest =>
    let (d, packets) := d.feed piece
    let (d, more) := feedPieces d rest
    (d, packets ++ more)

def isIdle (d : Deframer) : Bool := d.phase.isIdle

def buffered (d : Deframer) : Nat := d.phase.held.length

def reset (d : Deframer) : Deframer := { d with phase := .seeking false }

-- A frame whose length was accepted before is not looked at again.
def setLimit (d : Deframer) (limit : Nat) : Deframer := { d with limit }

def emitted (d : Deframer) : Deframer := { d with phase := .seeking false, stats := d.stats.emitted }

def faulted (d : Deframer) (fault : Fault) : Deframer :=
  { d with phase := .seeking false, stats := d.stats.faulted fault }

end Deframer

def Phase.describe : Phase → String
  | .seeking sawFirst => s!"SeekingHeader \x7b saw_first: {sawFirst} \x7d"
  | .length _ => "ReadingLength"
  | .fields .. => "ReadingFields"
  | .content .. => "ReadingContent"
  | .crc .. => "ReadingCrc"

def Stats.describe (s : Stats) : String :=
  s!"DeframerStats \x7b packets: {s.packets}, resyncs: {s.resyncs}, crc_failures: {s.crcFailures}, " ++
    s!"decode_failures: {s.decodeFailures}, range_failures: {s.rangeFailures}, " ++
    s!"length_failures: {s.lengthFailures} \x7d"

def Deframer.describe (d : Deframer) : String :=
  s!"Deframer \x7b state: {d.phase.describe}, max_content_size: {d.limit}, buffered: {d.buffered}, " ++
    s!"stats: {d.stats.describe}, .. \x7d"

end FramedRpc
