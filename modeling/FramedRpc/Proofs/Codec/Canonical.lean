import FramedRpc.Proofs.Codec.Rewriting
import FramedRpc.Proofs.Codec.Word

namespace FramedRpc.Codec

theorem readToken_integer {kind : IntegerKind} {tag : UInt8} {s rest : Bytes} {t : Token}
    (known : IntegerKind.ofTag? (tag &&& 0x0F) = some kind) :
    readToken (tag :: s) = (.ok (some t), rest) ↔
      ∃ (body : Bytes) (n : Scalar), kind.widths[(tag >>> 4 &&& 7).toNat]? = some body.length ∧
        integerOf kind (tag &&& 0x80 != 0) (Bytes.ofBigEndian body) = .ok n ∧ .scalar n = t ∧ s = body ++ rest := by
  have tagged : readToken (tag :: s) = (some <$> readTagged tag) s := rfl
  have item : readTagged tag = Token.scalar <$> readInteger (σ := Bytes) kind tag := by
    unfold readTagged
    rw [known]
  rw [tagged, item, map_eq_ok]
  constructor
  · rintro ⟨_, read, ⟨⟩⟩
    obtain ⟨n, number, same⟩ := map_eq_ok.mp read
    obtain ⟨body, width, accepted, split⟩ := readInteger_eq_ok.mp number
    exact ⟨body, n, width, accepted, same, split⟩
  · rintro ⟨body, n, width, accepted, same, split⟩
    exact ⟨t, map_eq_ok.mpr ⟨n, readInteger_eq_ok.mpr ⟨body, width, accepted, split⟩, same⟩, rfl⟩

theorem negative_signed (negative : Bool) (m : Nat) : decide (signed negative m < 0) = negative := by
  unfold signed
  cases negative with
  | true => exact decide_eq_true (by rw [if_pos rfl]; omega)
  | false => exact decide_eq_false (by rw [if_neg Bool.false_ne_true]; omega)

theorem IntegerKind.Fits.toInt_ofInt {kind : IntegerKind} {n : Int} (fits : kind.Fits n) :
    (Int64.ofInt n).toInt = n := by
  have small := IntegerKind.magnitude_lt_max fits
  unfold magnitude at small
  apply Int64.toInt_ofInt_of_le
  · split at small <;> omega
  · split at small <;> omega

theorem read_magnitude {kind : IntegerKind} {n : Int} {place : Nat} {body : Bytes} (fits : kind.Fits n)
    (legal : kind.widths[place]? = some body.length) (number : Bytes.ofBigEndian body = magnitude n) :
    getInteger kind (decide (n < 0)) (wordOf body) = .ok (kind.scalar n) ∧
      ∀ rest, readToken (integerTag kind (decide (n < 0)) place :: body ++ rest) =
        (.ok (some (.scalar (kind.scalar n))), rest) := by
  have inside : place < kind.widths.length := (List.getElem?_eq_some_iff.mp legal).1
  have narrow := width_le kind body.length (List.mem_of_getElem? legal)
  have accepted : integerOf kind (decide (n < 0)) (magnitude n) = .ok (kind.scalar n) := by
    rw [integerOf_eq_ok, signed_magnitude]
    exact ⟨IntegerKind.magnitude_lt_max fits, fits, rfl⟩
  constructor
  · rw [getInteger_eq, toNat_wordOf narrow, number]
    exact accepted
  · intro rest
    obtain ⟨known, index, sign⟩ := integerTag_parts kind (decide (n < 0)) inside
    rw [← number] at accepted
    refine (readToken_integer known).mpr ⟨body, kind.scalar n, ?_, ?_, rfl, rfl⟩
    · rw [index]
      exact legal
    · rw [sign]
      exact accepted

-- How a number of a kind is written, with the width that it gets and the place of that width.
structure Canonical (kind : IntegerKind) (n : Int64) (index width : Nat) : Prop where
  legal : kind.widths[index]? = some width
  written : (kind.scalar n.toInt).write =
    integerTag kind (decide (n < 0)) index :: Bytes.bigEndian width (magnitudeWord n).toNat
  words : putInteger? kind n = some (kind.scalar n.toInt).write
  lossless : Bytes.ofBigEndian (Bytes.bigEndian width (magnitudeWord n).toNat) = (magnitudeWord n).toNat
  least : ∀ narrower ∈ kind.widths, narrower < width → 256 ^ narrower ≤ (magnitudeWord n).toNat
  padded : ∀ place wide, kind.widths[place]? = some wide → width ≤ wide →
    let body := List.replicate (wide - width) 0 ++ Bytes.bigEndian width (magnitudeWord n).toNat
    getInteger kind (decide (n < 0)) (wordOf body) = .ok (kind.scalar n.toInt) ∧
      ∀ rest, readToken (integerTag kind (decide (n < 0)) place :: body ++ rest) =
        (.ok (some (.scalar (kind.scalar n.toInt))), rest)

theorem exists_canonical {kind : IntegerKind} {n : Int64} (fits : kind.Fits n.toInt) :
    ∃ index width, Canonical kind n index width := by
  let index := widthIndex kind (magnitude n.toInt)
  have legal : kind.widths[index]? = some (kind.widths.getD index 8) := by
    rw [List.getD_eq_getElem?_getD, List.getElem?_eq_getElem (kind.widthIndex_lt _), Option.getD_some]
  have lossless := ofBigEndian_of_lt (IntegerKind.magnitude_lt_width fits)
  have sign : decide (n < 0) = decide (n.toInt < 0) := decide_eq_decide.mpr (negative_iff n)
  refine ⟨index, kind.widths.getD index 8, ?_⟩
  constructor
  case legal => exact legal
  case written =>
    rw [write_scalar fits, sign, toNat_magnitudeWord]
    rfl
  case words => rw [putInteger?_eq, write_scalar fits]
  case lossless =>
    rw [toNat_magnitudeWord]
    exact lossless
  case least =>
    intro narrower among less
    obtain ⟨place, known⟩ := List.getElem?_of_mem among
    rw [toNat_magnitudeWord]
    apply Nat.le_of_not_lt
    intro enough
    exact Nat.not_le_of_lt less (kind.widthIndex_least known enough)
  case padded =>
    intro place wide known wider
    rw [sign, toNat_magnitudeWord]
    apply read_magnitude fits
    · rw [List.length_append, List.length_replicate, Bytes.length_bigEndian, Nat.sub_add_cancel wider]
      exact known
    · rw [ofBigEndian_zeros]
      exact lossless

theorem writeInteger_signed {kind : IntegerKind} {index : Nat} {body : Bytes}
    (legal : kind.widths[index]? = some body.length) (negative : Bool) :
    ∃ lead digits, writeInteger kind (signed negative (Bytes.ofBigEndian body)) = lead :: digits ∧
      (lead &&& 0x80 != 0) = negative ∧ digits.length ≤ body.length := by
  have holds := Bytes.ofBigEndian_lt body
  generalize Bytes.ofBigEndian body = m at *
  obtain ⟨-, -, sign⟩ := integerTag_parts kind (decide (signed negative m < 0))
    (kind.widthIndex_lt (magnitude (signed negative m)))
  have size : (writeInteger kind (signed negative m)).length ≤ body.length + 1 := by
    apply length_writeInteger_le legal
    rw [magnitude_signed]
    exact holds
  rw [negative_signed] at sign
  refine ⟨_, _, rfl, ?_, Nat.le_of_succ_le_succ size⟩
  rw [negative_signed]
  exact sign

structure Accepted (kind : IntegerKind) (tag : UInt8) (body : Bytes) (n : Int64) : Prop where
  legal : kind.widths[(tag >>> 4 &&& 7).toNat]? = some body.length
  fits : kind.Fits n.toInt
  -- The top bit of eight bytes is never set.
  small : wordOf body < 0x8000000000000000
  number : getInteger kind (tag &&& 0x80 != 0) (wordOf body) = .ok (kind.scalar n.toInt)
  -- What is written of the number has the sign of the item, and no more bytes.
  rewritten : ∃ lead digits, putInteger? kind n = some (lead :: digits) ∧ (kind.scalar n.toInt).write = lead :: digits ∧
    (lead &&& 0x80 != 0) = (tag &&& 0x80 != 0) ∧ digits.length ≤ body.length

theorem exists_accepted {kind : IntegerKind} {tag : UInt8} {s rest : Bytes} {t : Token}
    (known : IntegerKind.ofTag? (tag &&& 0x0F) = some kind) (read : readToken (tag :: s) = (.ok (some t), rest)) :
    ∃ n body, Accepted kind tag body n ∧ t = .scalar (kind.scalar n.toInt) ∧ s = body ++ rest := by
  obtain ⟨body, n, legal, accepted, same, split⟩ := (readToken_integer known).mp read
  have narrow := width_le kind body.length (List.mem_of_getElem? legal)
  obtain ⟨small, fits, scalar⟩ := integerOf_eq_ok.mp accepted
  generalize sign : (tag &&& 0x80 != 0) = negative at *
  have exactly := IntegerKind.Fits.toInt_ofInt fits
  obtain ⟨lead, digits, written, marked, less⟩ := writeInteger_signed legal negative
  refine ⟨Int64.ofInt (signed negative (Bytes.ofBigEndian body)), body, ?_, ?_, split⟩
  · constructor
    case legal => exact legal
    case fits =>
      rw [exactly]
      exact fits
    case small =>
      rw [UInt64.lt_iff_toNat_lt, toNat_wordOf narrow]
      exact small
    case number =>
      rw [exactly, sign, getInteger_eq, toNat_wordOf narrow, accepted, scalar]
    case rewritten =>
      rw [putInteger?_eq, exactly, write_scalar fits, sign, written]
      exact ⟨lead, digits, rfl, rfl, marked, less⟩
  · rw [exactly, scalar, same]

-- Each number of a kind is written in the least width that holds its magnitude and may be read in any wider one; each
-- item that is read is of a number of its kind, which is written with the same sign in no more bytes.
theorem integers_canonical (kind : IntegerKind) :
    (∀ n : Int64, kind.Fits n.toInt → ∃ index width, Canonical kind n index width) ∧
    ∀ (tag : UInt8) (s rest : Bytes) (t : Token), IntegerKind.ofTag? (tag &&& 0x0F) = some kind →
      readToken (tag :: s) = (.ok (some t), rest) →
      ∃ n body, Accepted kind tag body n ∧ t = .scalar (kind.scalar n.toInt) ∧ s = body ++ rest :=
  ⟨fun _ fits => exists_canonical fits, fun _ _ _ _ known read => exists_accepted known read⟩

-- A number that needs five bytes is written in six, and one of four is read from eight.
theorem integers_canonical_gap :
    IntegerKind.long.Fits (0x100000000 : Int64).toInt ∧
      (∃ index width, Canonical .long 0x100000000 index width) ∧
      IntegerKind.ofTag? (0xD7 &&& 0x0F) = some .long ∧
      readToken ([0xD7, 0, 0, 0, 0, 0x80, 0, 0, 0, 0] : Bytes) = (.ok (some (.scalar (.long (-0x80000001)))), [0]) ∧
      ∃ n body, Accepted .long 0xD7 body n ∧ Token.scalar (.long (-0x80000001)) = .scalar (IntegerKind.long.scalar n.toInt) ∧
        ([0, 0, 0, 0, 0x80, 0, 0, 0, 0] : Bytes) = body ++ [0] := by
  have fits : IntegerKind.long.Fits (0x100000000 : Int64).toInt := by decide
  have known : IntegerKind.ofTag? (0xD7 &&& 0x0F) = some .long := by decide
  have read : readToken ([0xD7, 0, 0, 0, 0, 0x80, 0, 0, 0, 0] : Bytes) =
      (.ok (some (.scalar (.long (-0x80000001)))), [0]) := by rfl
  exact ⟨fits, (integers_canonical .long).1 _ fits, known, read, (integers_canonical .long).2 _ _ _ _ known read⟩

end FramedRpc.Codec
