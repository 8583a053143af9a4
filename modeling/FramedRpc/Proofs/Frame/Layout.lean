import FramedRpc.Proofs.Frame.Section

namespace FramedRpc.Layout

-- The layout of a frame behind its magic pair, field by field as it is laid down: each value with the number of its
-- bytes, or nothing where the bytes end before it does.

-- A length takes two bytes, or four where the top bit of the first one is set.
def length? : Bytes → Option (Nat × Nat)
  | a :: b :: rest =>
    if a.toNat < 128 then some (a.toNat * 256 + b.toNat, 2)
    else
      match rest with
      | c :: d :: _ => some ((((a.toNat - 128) * 256 + b.toNat) * 256 + c.toNat) * 256 + d.toNat, 4)
      | _ => none
  | _ => none

-- A length stands there twice. No length is told by two copies that differ.
def doubled? (bytes : Bytes) : Option (Option Nat × Nat) := do
  let (n, width) ← length? bytes
  if bytes.length < 2 * width then none
  else some (if bytes.take width = (bytes.drop width).take width then some n else none, 2 * width)

-- A request id takes two bytes, or three or four as the two top bits of the first one say.
def requestId? : Bytes → Option (Nat × Nat)
  | a :: b :: rest =>
    if a.toNat < 128 then some (a.toNat * 256 + b.toNat, 2)
    else if a.toNat < 192 then
      match rest with
      | c :: _ => some (((a.toNat - 128) * 256 + b.toNat) * 256 + c.toNat, 3)
      | _ => none
    else
      match rest with
      | c :: d :: _ => some ((((a.toNat - 192) * 256 + b.toNat) * 256 + c.toNat) * 256 + d.toNat, 4)
      | _ => none
  | _ => none

-- The top bit tells a response, and the next one whether the type takes another byte.
def type? : Bytes → Option ((Bool × Nat) × Nat)
  | a :: rest =>
    if a.toNat / 64 % 2 = 0 then some ((decide (128 ≤ a.toNat), a.toNat % 64), 1)
    else
      match rest with
      | b :: _ => some ((decide (128 ≤ a.toNat), a.toNat % 64 * 256 + b.toNat), 2)
      | [] => none
  | [] => none

def fields? (bytes : Bytes) : Option (Frame.Fields × Nat) := do
  let (requestId, idSize) ← requestId? bytes
  let ((isResponse, typeId), typeSize) ← type? (bytes.drop idSize)
  return (⟨isResponse, typeId, requestId⟩, idSize + typeSize)

-- A checksum has its lowest byte first.
def checksum? : Bytes → Option Nat
  | a :: b :: c :: d :: _ => some (a.toNat + 256 * (b.toNat + 256 * (c.toNat + 256 * d.toNat)))
  | _ => none

theorem ofBigEndian_two (a b : UInt8) : Bytes.ofBigEndian [a, b] = a.toNat * 256 + b.toNat := by
  simp [Bytes.ofBigEndian]

theorem ofBigEndian_three (a b c : UInt8) :
    Bytes.ofBigEndian [a, b, c] = (a.toNat * 256 + b.toNat) * 256 + c.toNat := by
  simp [Bytes.ofBigEndian]

theorem ofBigEndian_four (a b c d : UInt8) :
    Bytes.ofBigEndian [a, b, c, d] = ((a.toNat * 256 + b.toNat) * 256 + c.toNat) * 256 + d.toNat := by
  simp [Bytes.ofBigEndian]

-- Where the deframer compares a byte with the mark of a width, its number is compared here.
theorem lengthSize_cons (a : UInt8) (rest : Bytes) :
    Frame.lengthSize (a :: rest) = if a.toNat < 128 then 4 else 8 := by
  unfold Frame.lengthSize
  simp only [UInt8.le_iff_toNat_le, ← Nat.not_lt, ite_not]
  rfl

theorem idWidth_cons (a : UInt8) (rest : Bytes) :
    Frame.idWidth (a :: rest) = if a.toNat < 128 then 2 else if a.toNat < 192 then 3 else 4 := by
  have widest : 0xC0 ≤ a ↔ ¬a.toNat < 192 := UInt8.le_iff_toNat_le.trans Nat.not_lt.symm
  have wide : 0x80 ≤ a ↔ ¬a.toNat < 128 := UInt8.le_iff_toNat_le.trans Nat.not_lt.symm
  unfold Frame.idWidth
  simp only [widest, wide, ite_not]
  by_cases short : a.toNat < 128
  · rw [if_pos short, if_pos short, if_pos (Nat.lt_trans short (by decide))]
  · rw [if_neg short, if_neg short]

theorem length?_eq (bytes : Bytes) :
    length? bytes =
      let width := Frame.lengthSize bytes / 2
      if bytes.length < width then none
      else some (Bytes.ofBigEndian (bytes.take width) % 2 ^ (8 * width - 1), width) := by
  match bytes with
  | [] => rfl
  | [a] =>
    rw [lengthSize_cons]
    split <;> rfl
  | a :: b :: rest =>
    by_cases small : a.toNat < 128
    · have size := (lengthSize_cons a (b :: rest)).trans (if_pos small)
      have value : (a.toNat * 256 + b.toNat) % 32768 = a.toNat * 256 + b.toNat := by
        have := b.toNat_lt
        omega
      simp [length?, small, size, ofBigEndian_two, value]
    · have size := (lengthSize_cons a (b :: rest)).trans (if_neg small)
      match rest with
      | [] | [c] => simp [length?, small, size]
      | c :: d :: rest =>
        have value : (((a.toNat * 256 + b.toNat) * 256 + c.toNat) * 256 + d.toNat) % 2147483648 =
            (((a.toNat - 128) * 256 + b.toNat) * 256 + c.toNat) * 256 + d.toNat := by
          have := a.toNat_lt
          have := b.toNat_lt
          have := c.toNat_lt
          have := d.toNat_lt
          omega
        simp [length?, small, size, ofBigEndian_four, value]

theorem doubled?_eq (bytes : Bytes) :
    doubled? bytes =
      if bytes.length < Frame.lengthSize bytes then none
      else some (Frame.readLength? (bytes.take (Frame.lengthSize bytes)), Frame.lengthSize bytes) := by
  have even : 2 * (Frame.lengthSize bytes / 2) = Frame.lengthSize bytes := by
    unfold Frame.lengthSize
    split
    · split <;> rfl
    · rfl
  unfold doubled?
  rw [length?_eq]
  simp only
  generalize Frame.lengthSize bytes / 2 = width at even
  rw [← even]
  by_cases early : bytes.length < 2 * width
  · by_cases none : bytes.length < width
    · simp [none, early]
    · simp [none, early]
  · have enough : ¬bytes.length < width := by omega
    have half : (bytes.take (2 * width)).length / 2 = width := by
      rw [List.length_take]
      omega
    have first : (bytes.take (2 * width)).take width = bytes.take width := by
      rw [List.take_take, Nat.min_eq_left (by omega)]
    have second : (bytes.take (2 * width)).drop width = (bytes.drop width).take width := by
      rw [List.drop_take]
      congr 1
      omega
    unfold Frame.readLength?
    simp only [half, first, second, if_neg enough, if_neg early, Option.bind_eq_bind, Option.bind_some]

theorem requestId?_eq (bytes : Bytes) :
    requestId? bytes =
      let width := Frame.idWidth bytes
      if bytes.length < width then none
      else some (Bytes.ofBigEndian (bytes.take width) % 2 ^ Frame.idBits width, width) := by
  match bytes with
  | [] => rfl
  | [a] =>
    rw [idWidth_cons]
    split
    · rfl
    · split <;> rfl
  | a :: b :: rest =>
    by_cases short : a.toNat < 128
    · have width := (idWidth_cons a (b :: rest)).trans (if_pos short)
      have value : (a.toNat * 256 + b.toNat) % 32768 = a.toNat * 256 + b.toNat := by
        have := b.toNat_lt
        omega
      simp [requestId?, short, width, ofBigEndian_two, Frame.idBits, value]
    · by_cases medium : a.toNat < 192
      · have width := (idWidth_cons a (b :: rest)).trans ((if_neg short).trans (if_pos medium))
        match rest with
        | [] => simp [requestId?, short, medium, width]
        | c :: rest =>
          have value : ((a.toNat * 256 + b.toNat) * 256 + c.toNat) % 8388608 =
              ((a.toNat - 128) * 256 + b.toNat) * 256 + c.toNat := by
            have := b.toNat_lt
            have := c.toNat_lt
            omega
          simp [requestId?, short, medium, width, ofBigEndian_three, Frame.idBits, value]
      · have width := (idWidth_cons a (b :: rest)).trans ((if_neg short).trans (if_neg medium))
        match rest with
        | [] | [c] => simp [requestId?, short, medium, width]
        | c :: d :: rest =>
          have value : (((a.toNat * 256 + b.toNat) * 256 + c.toNat) * 256 + d.toNat) % 1073741824 =
              (((a.toNat - 192) * 256 + b.toNat) * 256 + c.toNat) * 256 + d.toNat := by
            have := a.toNat_lt
            have := b.toNat_lt
            have := c.toNat_lt
            have := d.toNat_lt
            omega
          simp [requestId?, short, medium, width, ofBigEndian_four, Frame.idBits, value]

theorem isExtended_iff (byte : UInt8) : Frame.isExtended byte = true ↔ ¬byte.toNat / 64 % 2 = 0 := by
  have each : ∀ n : Fin 256, Frame.isExtended (UInt8.ofNat n) = true ↔ ¬(UInt8.ofNat n).toNat / 64 % 2 = 0 := by
    decide +kernel
  have same := each ⟨byte.toNat, byte.toNat_lt⟩
  rwa [UInt8.ofNat_toNat] at same

theorem type?_cons (lead : UInt8) (tail : Bytes) :
    type? (lead :: tail) =
      if Frame.isExtended lead then
        if tail = [] then none
        else some ((decide (0x80 ≤ lead), lead.toNat % 64 * 256 + (tail.getD 0 0).toNat), 2)
      else some ((decide (0x80 ≤ lead), lead.toNat % 64), 1) := by
  have flag : decide (0x80 ≤ lead) = decide (128 ≤ lead.toNat) := decide_eq_decide.mpr UInt8.le_iff_toNat_le
  rw [flag]
  by_cases extended : Frame.isExtended lead = true
  · have digit := (isExtended_iff lead).mp extended
    cases tail <;> simp [type?, extended, digit]
  · have digit : lead.toNat / 64 % 2 = 0 := Classical.not_not.mp (mt (isExtended_iff lead).mpr extended)
    simp [type?, extended, digit]

theorem readFields_append {head : Bytes} (some : head ≠ []) (width : Frame.idWidth head = head.length) (lead : UInt8)
    (tail : Bytes) :
    Frame.readFields (head ++ lead :: tail) =
      ⟨0x80 ≤ lead,
        if Frame.isExtended lead then lead.toNat % 64 * 256 + (tail.getD 0 0).toNat else lead.toNat % 64,
        Bytes.ofBigEndian head % 2 ^ Frame.idBits head.length⟩ := by
  have first : (head ++ lead :: tail).getD head.length 0 = lead := by simp
  have second : (head ++ lead :: tail).getD (head.length + 1) 0 = tail.getD 0 0 := by
    rw [List.getD_eq_getElem?_getD, List.getElem?_append_right (by omega)]
    simp
  unfold Frame.readFields
  simp only [Sizing.idWidth_append some, width, first, second, List.take_left]

theorem fields?_eq (bytes : Bytes) :
    fields? bytes =
      if bytes.length < Frame.fieldsSize bytes then none
      else some (Frame.readFields (bytes.take (Frame.fieldsSize bytes)), Frame.fieldsSize bytes) := by
  have least := (Sizing.fieldsSize_bounds bytes).1
  have positive := Sizing.idWidth_pos bytes
  unfold fields?
  rw [requestId?_eq]
  by_cases early : bytes.length < Frame.idWidth bytes
  · simp only [if_pos early, if_pos (show bytes.length < Frame.fieldsSize bytes by omega)]
    rfl
  · -- The bytes of the id, and what comes behind them.
    obtain ⟨head, rest, whole, length⟩ : ∃ head rest, bytes = head ++ rest ∧ head.length = Frame.idWidth bytes :=
      ⟨_, _, (List.take_append_drop _ bytes).symm, List.length_take_of_le (Nat.le_of_not_lt early)⟩
    have some : head ≠ [] := List.length_pos_iff.mp (by omega)
    have width : Frame.idWidth head = head.length := by rw [length, whole, Sizing.idWidth_append some]
    simp only [if_neg early, Option.bind_eq_bind, Option.bind_some]
    subst whole
    unfold Frame.fieldsSize
    rw [← length, List.take_left, List.drop_left]
    cases rest with
    | nil => simp [type?]
    | cons lead tail =>
      rw [type?_cons]
      by_cases extended : Frame.isExtended lead = true
      · cases tail with
        | nil => simp [extended]
        | cons next tail =>
          have taken : (head ++ lead :: next :: tail).take (head.length + 2) = head ++ [lead, next] :=
            List.take_length_add_append 2
          simp [extended, taken, readFields_append some width]
      · have taken : (head ++ lead :: tail).take (head.length + 1) = head ++ [lead] := List.take_length_add_append 1
        simp [extended, taken, readFields_append some width]

theorem checksum?_eq (bytes : Bytes) :
    checksum? bytes =
      if bytes.length < Frame.crcSize then none
      else some (Bytes.ofLittleEndian (bytes.take Frame.crcSize)) := by
  match bytes with
  | [] | [a] | [a, b] | [a, b, c] => rfl
  | a :: b :: c :: d :: rest => simp [checksum?, Frame.crcSize, Bytes.ofLittleEndian]

end FramedRpc.Layout
