import FramedRpc.IoError
import FramedRpc.Bytes

namespace FramedRpc

class Supply (σ : Type) where
  size : σ → Nat
  take : Nat → σ → Except IoError Bytes × σ
  size_take : ∀ n s got s', take n s = (.ok got, s') → size s' + got.length = size s

instance : Supply Bytes where
  size := List.length
  take n bytes := (.ok (bytes.take n), bytes.drop n)
  size_take n bytes got rest h := by
    cases h
    simp only [List.length_drop, List.length_take]
    omega

inductive Delivery where
  | data (bytes : Bytes)
  | failure (e : IoError)
  deriving DecidableEq

-- What one end of a channel will see: pieces of data, and attempts that fail.
abbrev Source := List Delivery

namespace Source

def unread : Source → Bytes
  | [] => []
  | .data bytes :: rest => bytes ++ unread rest
  | .failure _ :: rest => unread rest

-- One attempt to read at most `room` bytes: the next piece of data or the next failure, and nothing at
-- the end. Of a failed attempt only the failure is gone.
def read (room : Nat) : Source → Except IoError Bytes × Source
  | [] => (.ok [], [])
  | .data [] :: rest => read room rest
  | .data (byte :: bytes) :: rest =>
    (.ok ((byte :: bytes).take room), .data ((byte :: bytes).drop room) :: rest)
  | .failure e :: rest => (.error e, rest)

-- What is left to come, each delivery counted as one more.
def weight (s : Source) : Nat := s.unread.length + s.length

-- An attempt with room leaves less, or has met the end.
theorem weight_read {room : Nat} (some : 0 < room) {s s' : Source} {r : Except IoError Bytes}
    (h : read room s = (r, s')) : r = .ok [] ∨ s'.weight < s.weight := by
  induction s with
  | nil => cases h; exact .inl rfl
  | cons d rest ih =>
    cases d with
    | data bytes =>
      cases bytes with
      | nil =>
        refine (ih h).imp id fun less => ?_
        simp only [weight, unread, List.nil_append, List.length_cons] at less ⊢
        omega
      | cons byte bytes =>
        cases h
        refine .inr ?_
        simp only [weight, unread, List.length_append, List.length_drop, List.length_cons]
        omega
    | failure e =>
      cases h
      refine .inr ?_
      simp only [weight, unread, List.length_cons]
      omega

-- Reads until there are `n` bytes or no more. An interrupted attempt is made again; what was read
-- before any other failure is lost.
def take (n : Nat) : Source → Except IoError Bytes × Source
  | [] => (.ok [], [])
  | .data bytes :: rest =>
    if n ≤ bytes.length then (.ok (bytes.take n), .data (bytes.drop n) :: rest)
    else
      match take (n - bytes.length) rest with
      | (.ok more, rest) => (.ok (bytes ++ more), rest)
      | (.error e, rest) => (.error e, rest)
  | .failure e :: rest =>
    if n = 0 then (.ok [], .failure e :: rest)
    else if e.isInterrupted then take n rest
    else (.error e, rest)

theorem length_unread_take {n : Nat} {s : Source} {got : Bytes} {s' : Source}
    (h : take n s = (.ok got, s')) : s'.unread.length + got.length = s.unread.length := by
  induction s generalizing n got with
  | nil => cases h; rfl
  | cons d rest ih =>
    cases d with
    | data bytes =>
      simp only [take] at h
      split at h
      · cases h
        simp only [unread, List.length_append, List.length_drop, List.length_take]
        omega
      · split at h <;> cases h
        rename_i h
        have := ih h
        simp only [unread, List.length_append]
        omega
    | failure e =>
      simp only [take] at h
      split at h
      · cases h; rfl
      · split at h
        · exact ih h
        · cases h

end Source

instance : Supply Source where
  size s := s.unread.length
  take := Source.take
  size_take _ _ _ _ := Source.length_unread_take

end FramedRpc
