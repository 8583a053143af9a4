import FramedRpc.IoError
import FramedRpc.Bytes

namespace FramedRpc

inductive Reply where
  | accept (most : Nat)
  | failure (e : IoError)
  deriving DecidableEq

structure Sink where
  replies : List Reply
  -- One entry for each coming flush; none is success.
  flushReplies : List (Option IoError)
  -- Room left; none is room for everything.
  room : Option Nat
  taken : Bytes
  writes : Nat
  flushes : Nat

namespace Sink

def ofReplies (replies : List Reply) (flushReplies : List (Option IoError)) : Sink :=
  ⟨replies, flushReplies, none, [], 0, 0⟩

def ofRoom (n : Nat) : Sink := ⟨[], [], some n, [], 0, 0⟩

-- Takes a first part of the bytes, as long as the reply and the room allow.
def accept (s : Sink) (most : Nat) (bytes : Bytes) : Nat × Sink :=
  let n := min (min most bytes.length) (s.room.getD bytes.length)
  (n, { s with room := s.room.map (· - n), taken := s.taken ++ bytes.take n })

def write (s : Sink) (bytes : Bytes) : Except IoError Nat × Sink :=
  let s := { s with writes := s.writes + 1 }
  match s.replies with
  | [] =>
    let (n, s) := s.accept bytes.length bytes
    (.ok n, s)
  | .accept most :: rest =>
    let (n, s) := { s with replies := rest }.accept most bytes
    (.ok n, s)
  | .failure e :: rest => (.error e, { s with replies := rest })

def flush (s : Sink) : Except IoError Unit × Sink :=
  let s := { s with flushes := s.flushes + 1 }
  match s.flushReplies with
  | [] | none :: _ => (.ok (), { s with flushReplies := s.flushReplies.tail })
  | some e :: rest => (.error e, { s with flushReplies := rest })

-- Why not everything was written.
inductive Stop where
  -- The sink took nothing.
  | refused
  | failure (e : IoError)
  deriving DecidableEq

-- An attempt uses up a reply or, after the last one, takes something or nothing at all.
theorem write_progress {s s' : Sink} {bytes : Bytes} {r : Except IoError Nat}
    (h : s.write bytes = (r, s')) : s'.replies.length ≤ s.replies.length ∧
      ((∃ e, r = .error e) → s'.replies.length < s.replies.length) := by
  simp only [write] at h
  split at h <;> cases h <;> simp_all [accept]

theorem write_taken {s s' : Sink} {bytes : Bytes} {result : Except IoError Nat} (wrote : s.write bytes = (result, s')) :
    s'.taken = s.taken ++ bytes.take (result.toOption.getD 0) := by
  obtain ⟨replies, flushReplies, room, taken, writes, flushes⟩ := s
  cases replies with
  | nil =>
    cases wrote
    rfl
  | cons reply rest =>
    cases reply with
    | accept most =>
      cases wrote
      rfl
    | failure e =>
      cases wrote
      exact (List.append_nil taken).symm

-- Writes until everything is taken. `retry` says after which failures the attempt is made again.
def push (retry : IoError → Bool) (s : Sink) (bytes : Bytes) : Except Stop Unit × Sink :=
  if _some : bytes = [] then (.ok (), s)
  else
    match h : s.write bytes with
    | (.ok 0, s') => (.error .refused, s')
    | (.ok (n + 1), s') => push retry s' (bytes.drop (n + 1))
    | (.error e, s') => if retry e then push retry s' bytes else (.error (.failure e), s')
termination_by s.replies.length + bytes.length
decreasing_by
  · have := (write_progress h).1
    have : 0 < bytes.length := List.length_pos_iff.mpr _some
    simp only [List.length_drop]
    omega
  · have := (write_progress h).2 ⟨e, rfl⟩
    omega

theorem flush_progress {s s' : Sink} {e : IoError} (h : s.flush = (.error e, s')) :
    s'.flushReplies.length < s.flushReplies.length := by
  simp only [flush] at h
  split at h <;> cases h
  simp_all

theorem flush_taken {s s' : Sink} {result : Except IoError Unit} (flushed : s.flush = (result, s')) :
    s'.taken = s.taken := by
  simp only [flush] at flushed
  split at flushed <;> cases flushed <;> rfl

def settle (retry : IoError → Bool) (s : Sink) : Except IoError Unit × Sink :=
  match _h : s.flush with
  | (.ok (), s') => (.ok (), s')
  | (.error e, s') => if retry e then settle retry s' else (.error e, s')
termination_by s.flushReplies.length
decreasing_by exact flush_progress _h

end Sink
end FramedRpc
