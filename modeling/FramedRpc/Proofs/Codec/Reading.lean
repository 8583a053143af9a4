import FramedRpc.Proofs.Codec.Grammar
import FramedRpc.Proofs.Codec.Integer

namespace FramedRpc
namespace Codec

section
variable {α β : Type} {s rest : Bytes}

theorem pure_eq_ok {a b : α} : (pure a : Reading Bytes α) s = (.ok b, rest) ↔ a = b ∧ s = rest := by
  constructor
  · rintro ⟨⟩
    exact ⟨rfl, rfl⟩
  · rintro ⟨rfl, rfl⟩
    rfl

theorem map_eq_ok {r : Reading Bytes α} {f : α → β} {b : β} :
    (f <$> r) s = (.ok b, rest) ↔ ∃ a, r s = (.ok a, rest) ∧ f a = b := by
  rw [← bind_pure_comp, bind_eq_ok]
  constructor
  · rintro ⟨a, middle, read, ⟨⟩⟩
    exact ⟨a, read, rfl⟩
  · rintro ⟨a, read, rfl⟩
    exact ⟨a, rest, read, rfl⟩

theorem orFail_eq_ok {e : Except Malformed α} {a : α} : orFail e s = (.ok a, rest) ↔ e = .ok a ∧ s = rest := by
  cases e with
  | ok found =>
    constructor
    · rintro ⟨⟩
      exact ⟨rfl, rfl⟩
    · rintro ⟨⟨⟩, rfl⟩
      rfl
  | error why => exact ⟨nofun, nofun⟩

theorem readBytes_eq_ok {what : String} {n : Nat} {got : Bytes} :
    readBytes what n s = (.ok got, rest) ↔ got.length = n ∧ s = got ++ rest := by
  constructor
  · intro read
    obtain ⟨taken, middle, first, checked⟩ := bind_eq_ok.mp read
    cases first
    split at checked
    · cases checked
    · rename_i enough
      cases checked
      refine ⟨?_, (List.take_append_drop n s).symm⟩
      have most := List.length_take_le n s
      omega
  · rintro ⟨rfl, rfl⟩
    refine bind_eq_ok.mpr ⟨got, rest, ?_, ?_⟩
    · simp [readSome, Supply.take]
    · rw [if_neg (Nat.lt_irrefl _)]
      rfl

theorem readNumber_eq_ok {what : String} {width n : Nat} :
    readNumber what width s = (.ok n, rest) ↔
      ∃ body : Bytes, body.length = width ∧ Bytes.ofBigEndian body = n ∧ s = body ++ rest := by
  unfold readNumber
  rw [bind_eq_ok]
  constructor
  · rintro ⟨body, middle, read, ⟨⟩⟩
    obtain ⟨size, split⟩ := readBytes_eq_ok.mp read
    exact ⟨body, size, rfl, split⟩
  · rintro ⟨body, size, rfl, split⟩
    exact ⟨body, rest, readBytes_eq_ok.mpr ⟨size, split⟩, rfl⟩

end

section
variable {s rest : Bytes}

theorem integerOf_eq_ok {kind : IntegerKind} {negative : Bool} {m : Nat} {n : Scalar} :
    integerOf kind negative m = .ok n ↔
      m < 2 ^ 63 ∧ kind.Fits (signed negative m) ∧ kind.scalar (signed negative m) = n := by
  unfold integerOf
  by_cases large : 0x8000000000000000 ≤ m
  · rw [if_pos large]
    exact ⟨nofun, fun ⟨small, _⟩ => absurd large (Nat.not_le_of_lt small)⟩
  · rw [if_neg large]
    by_cases fits : kind.Fits (signed negative m)
    · rw [if_pos fits]
      simp only [Except.ok.injEq, fits, true_and]
      exact ⟨fun same => ⟨Nat.lt_of_not_le large, same⟩, fun ⟨_, same⟩ => same⟩
    · rw [if_neg fits]
      exact ⟨nofun, fun ⟨_, other, _⟩ => absurd other fits⟩

theorem readInteger_eq_ok {kind : IntegerKind} {tag : UInt8} {n : Scalar} :
    readInteger kind tag s = (.ok n, rest) ↔
      ∃ body : Bytes, kind.widths[(tag >>> 4 &&& 7).toNat]? = some body.length ∧
        integerOf kind (tag &&& 0x80 != 0) (Bytes.ofBigEndian body) = .ok n ∧ s = body ++ rest := by
  unfold readInteger
  cases known : kind.widths[(tag >>> 4 &&& 7).toNat]? with
  | none => exact ⟨nofun, nofun⟩
  | some width =>
    simp only [bind_eq_ok, readNumber_eq_ok, orFail_eq_ok, Option.some.injEq]
    constructor
    · rintro ⟨-, middle, ⟨body, rfl, rfl, split⟩, accepted, rfl⟩
      exact ⟨body, rfl, accepted, split⟩
    · rintro ⟨body, rfl, accepted, split⟩
      exact ⟨_, rest, ⟨body, rfl, rfl, split⟩, accepted, rfl⟩

theorem readText_eq_ok {width : Nat} {t : Scalar} :
    readText width s = (.ok t, rest) ↔
      ∃ (size : Bytes) (text : String), size.length = width ∧
        Bytes.ofBigEndian size = (Text.Utf8.encode text).length ∧ .string text = t ∧
        s = size ++ Text.Utf8.encode text ++ rest := by
  unfold readText
  simp only [bind_eq_ok, readNumber_eq_ok, readBytes_eq_ok, orFail_eq_ok]
  constructor
  · rintro ⟨n, middle, ⟨size, width, rfl, split⟩, bytes, last, ⟨length, found⟩, decoded, rfl⟩
    cases text : Text.Utf8.decode bytes with
    | error fault =>
      rw [text] at decoded
      cases decoded
    | ok text' =>
      rw [text] at decoded
      cases decoded
      obtain rfl := Text.Utf8.decode_eq_ok_iff.mp text
      exact ⟨size, text', width, length.symm, rfl, by rw [split, found, List.append_assoc]⟩
  · rintro ⟨size, text, width, length, rfl, split⟩
    refine ⟨_, _, ⟨size, width, rfl, ?_⟩, Text.Utf8.encode text, rest, ⟨length.symm, rfl⟩, ?_, rfl⟩
    · rw [split, List.append_assoc]
    · rw [Text.Utf8.decode_encode]
      rfl

theorem readBinary_eq_ok {width : Nat} {b : Scalar} :
    readBinary width s = (.ok b, rest) ↔
      ∃ size bytes : Bytes, size.length = width ∧ Bytes.ofBigEndian size = bytes.length ∧ .binary bytes = b ∧
        s = size ++ bytes ++ rest := by
  unfold readBinary
  simp only [bind_eq_ok, readNumber_eq_ok, readBytes_eq_ok]
  constructor
  · rintro ⟨n, middle, ⟨size, width, rfl, split⟩, bytes, last, ⟨length, found⟩, ⟨⟩⟩
    exact ⟨size, bytes, width, length.symm, rfl, by rw [split, found, List.append_assoc]⟩
  · rintro ⟨size, bytes, width, length, rfl, split⟩
    exact ⟨_, _, ⟨size, width, rfl, by rw [split, List.append_assoc]⟩, bytes, rest, ⟨length.symm, rfl⟩, rfl⟩

end

def Reads {α : Type} (r : Reading Bytes α) (bytes : Bytes) (a : α) : Prop :=
  ∀ rest, r (bytes ++ rest) = (.ok a, rest)

theorem reads_pure {α : Type} (a : α) : Reads (pure a) [] a := fun _ => rfl

theorem reads_map {α β : Type} {r : Reading Bytes α} {bytes : Bytes} {a : α} (f : α → β)
    (inner : Reads r bytes a) : Reads (f <$> r) bytes (f a) :=
  fun rest => map_eq_ok.mpr ⟨a, inner rest, rfl⟩

theorem reads_token {tag : UInt8} {bytes : Bytes} {t : Token} (tagged : Reads (readTagged tag) bytes t) :
    Reads readToken (tag :: bytes) (some t) :=
  fun rest => bind_eq_ok.mpr ⟨some tag, bytes ++ rest, rfl, reads_map some tagged rest⟩

inductive TokenForm : Token → Bytes → Prop where
  | close : TokenForm .close [0]
  | openMap : TokenForm .openMap [1]
  | openList : TokenForm .openList [2]
  | scalar {s : Scalar} {bytes : Bytes} (form : ScalarForm s bytes) : TokenForm (.scalar s) bytes

theorem readTagged_sized {short long tag : UInt8} {width : Nat} (item : Nat → Reading Bytes Scalar)
    (one : readTagged short = Token.scalar <$> item 1) (three : readTagged long = Token.scalar <$> item 3)
    (form : (tag, width) ∈ [(short, 1), (long, 3)]) : readTagged tag = Token.scalar <$> item width := by
  simp only [List.mem_cons, List.not_mem_nil, or_false, Prod.mk.injEq] at form
  rcases form with ⟨rfl, rfl⟩ | ⟨rfl, rfl⟩
  · exact one
  · exact three

theorem TokenForm.reads {t : Token} {bytes : Bytes} (form : TokenForm t bytes) :
    Reads readToken bytes (some t) := by
  cases form with
  | close => exact reads_token (reads_pure _)
  | openMap => exact reads_token (reads_pure _)
  | openList => exact reads_token (reads_pure _)
  | scalar form =>
    cases form with
    | null => exact reads_token (reads_pure _)
    | yes => exact reads_token (reads_pure _)
    | no => exact reads_token (reads_pure _)
    | float size =>
      refine reads_token fun rest => map_eq_ok.mpr ⟨_, ?_, rfl⟩
      exact readNumber_eq_ok.mpr ⟨_, size, rfl, rfl⟩
    | double size =>
      refine reads_token fun rest => map_eq_ok.mpr ⟨_, ?_, rfl⟩
      exact readNumber_eq_ok.mpr ⟨_, size, rfl, rfl⟩
    | @integer kind negative index body width small fits =>
      obtain ⟨known, place, sign⟩ := integerTag_parts kind negative (List.getElem?_eq_some_iff.mp width).1
      apply reads_token
      unfold readTagged
      rw [known]
      refine reads_map Token.scalar fun rest => readInteger_eq_ok.mpr ⟨body, ?_, ?_, rfl⟩
      · rw [place]
        exact width
      · rw [sign]
        exact integerOf_eq_ok.mpr ⟨small, fits, rfl⟩
    | text form length =>
      apply reads_token
      rw [readTagged_sized readText rfl rfl form]
      exact reads_map Token.scalar fun rest => readText_eq_ok.mpr ⟨_, _, rfl, length, rfl, rfl⟩
    | binary form length =>
      apply reads_token
      rw [readTagged_sized readBinary rfl rfl form]
      exact reads_map Token.scalar fun rest => readBinary_eq_ok.mpr ⟨_, _, rfl, length, rfl, rfl⟩

def Progress.continued (rest : Bytes) : Progress → Except CodecError Value × Bytes
  | done v => (.ok v, rest)
  | more top around => readOpen top around rest

theorem readOpen_token {bytes : Bytes} {t : Token} (read : Reads readToken bytes (some t)) {top : Open}
    {around : List Open} {next : Progress} (stepped : Progress.step top around t = .ok next) (rest : Bytes) :
    readOpen top around (bytes ++ rest) = next.continued rest := by
  rw [readOpen]
  split
  · rename_i taken
    rw [read rest] at taken
    cases taken
  · rename_i taken
    rw [read rest] at taken
    cases taken
  · rename_i taken
    rw [read rest] at taken
    cases taken
    rw [stepped]
    cases next with
    | done v => rfl
    | more top around => rfl

theorem readOpen_close {top : Open} {v : Value} (closed : top.close = .ok v) (around : List Open)
    (rest : Bytes) : readOpen top around (0 :: rest) = (Progress.deliver v around).continued rest := by
  have stepped : Progress.step top around .close = .ok (Progress.deliver v around) := by
    rw [Progress.step, closed]
    rfl
  exact readOpen_token TokenForm.close.reads stepped rest

theorem close_list (items : List Value) : (Open.list items.reverse).close = .ok (.list items) := by
  rw [Open.close, List.reverse_reverse]

theorem close_map (entries : List (Value × Value)) : (Open.map entries.reverse).close = .ok (.map entries) := by
  rw [Open.close, List.reverse_reverse]

inductive Opens : UInt8 → Open → Prop where
  | list : Opens 2 (.list [])
  | map : Opens 1 (.map [])

namespace Opens

variable {tag : UInt8} {new : Open} (opens : Opens tag new)
include opens

theorem readOpen (top : Open) {around : List Open} (room : around.length + 1 < maxDepth) (rest : Bytes) :
    Codec.readOpen top around (tag :: rest) = Codec.readOpen new (top :: around) rest := by
  have entered : Progress.enter new top around = .ok (.more new (top :: around)) := by
    rw [Progress.enter, if_neg (Nat.not_le_of_lt room)]
  cases opens with
  | list => exact readOpen_token TokenForm.openList.reads entered rest
  | map => exact readOpen_token TokenForm.openMap.reads entered rest

theorem read (rest : Bytes) : Codec.read (tag :: rest) = Codec.readOpen new [] rest := by
  cases opens with
  | list => rfl
  | map => rfl

end Opens

-- Every form is taken: an item goes into the container that is open around it, and items in a row go in newest first.
mutual

theorem Item.readOpen {depth : Nat} {v : Value} {bytes : Bytes} (item : Item depth v bytes) (top : Open)
    {around : List Open} (place : around.length + 1 = depth) (rest : Bytes) :
    readOpen top around (bytes ++ rest) = Codec.readOpen (top.add v) around rest := by
  cases item with
  | scalar form => exact readOpen_token (TokenForm.scalar form).reads rfl rest
  | @list depth items body room inner =>
    have deeper : (top :: around).length + 1 = depth + 1 := congrArg (· + 1) place
    rw [List.cons_append, List.append_assoc, List.singleton_append, Opens.list.readOpen top (place ▸ room),
      inner.readOpen [] deeper, List.append_nil, readOpen_close (close_list items)]
    rfl
  | @map depth entries body room inner =>
    have deeper : (top :: around).length + 1 = depth + 1 := congrArg (· + 1) place
    rw [List.cons_append, List.append_assoc, List.singleton_append, Opens.map.readOpen top (place ▸ room),
      inner.readOpen [] deeper, List.append_nil, readOpen_close (close_map entries)]
    rfl

theorem Items.readOpen {depth : Nat} {items : List Value} {bytes : Bytes} (inner : Items depth items bytes)
    (before : List Value) {around : List Open} (place : around.length + 1 = depth) (rest : Bytes) :
    readOpen (.list before) around (bytes ++ rest) =
      Codec.readOpen (.list (items.reverse ++ before)) around rest := by
  cases inner with
  | nil => rfl
  | cons head tail =>
    rw [List.append_assoc, head.readOpen _ place, Open.add, tail.readOpen _ place]
    simp

theorem Entries.readOpen {depth : Nat} {entries : List (Value × Value)} {bytes : Bytes}
    (inner : Entries depth entries bytes) (before : List (Value × Value)) {around : List Open}
    (place : around.length + 1 = depth) (rest : Bytes) :
    readOpen (.map before) around (bytes ++ rest) =
      Codec.readOpen (.map (entries.reverse ++ before)) around rest := by
  cases inner with
  | nil => rfl
  | cons key value tail =>
    rw [List.append_assoc, List.append_assoc, key.readOpen _ place, Open.add, value.readOpen _ place, Open.add,
      tail.readOpen _ place]
    simp

end

theorem Item.read {v : Value} {bytes : Bytes} (item : Item 0 v bytes) (container : v.isContainer = true)
    (rest : Bytes) : read (bytes ++ rest) = (.ok v, rest) := by
  cases item with
  | scalar form => cases container
  | @list depth items body room inner =>
    rw [List.cons_append, List.append_assoc, Opens.list.read, inner.readOpen [] rfl, List.append_nil]
    exact readOpen_close (close_list items) [] rest
  | @map depth entries body room inner =>
    rw [List.cons_append, List.append_assoc, Opens.map.read, inner.readOpen [] rfl, List.append_nil]
    exact readOpen_close (close_map entries) [] rest

theorem readOpen_end (top : Open) (around : List Open) :
    readOpen top around ([] : Bytes) = ((Progress.finish top around).mapError .malformed, []) := by
  have nothing : readToken ([] : Bytes) = (.ok none, []) := rfl
  rw [readOpen]
  split
  · rename_i read
    rw [nothing] at read
    cases read
  · rename_i read
    rw [nothing] at read
    cases read
    rfl
  · rename_i read
    rw [nothing] at read
    cases read

-- What a finished value becomes when everything around it ends.
def finishWith (v : Value) : List Open → Except Malformed Value
  | [] => .ok v
  | next :: around => Progress.finish (next.add v) around

theorem finish_of_close {top : Open} {v : Value} (closed : top.close = .ok v) (around : List Open) :
    Progress.finish top around = finishWith v around := by
  cases around with
  | nil => exact closed
  | cons next around =>
    rw [Progress.finish, closed]
    rfl

theorem Unclosed.readBody {depth : Nat} {v : Value} {bytes : Bytes} {missing : Nat}
    (cut : Unclosed depth v bytes missing) : ∃ tag new body, bytes = tag :: body ∧ Opens tag new ∧
      depth < maxDepth ∧ ∀ around : List Open, around.length = depth →
        readOpen new around body = ((finishWith v around).mapError .malformed, []) := by
  induction cut with
  | @list depth items body room inner =>
    refine ⟨2, .list [], body, rfl, .list, room, ?_⟩
    intro around place
    have read := inner.readOpen [] (congrArg (· + 1) place) []
    rw [List.append_nil, List.append_nil] at read
    rw [read, readOpen_end, finish_of_close (close_list items)]
  | @map depth entries body room inner =>
    refine ⟨1, .map [], body, rfl, .map, room, ?_⟩
    intro around place
    have read := inner.readOpen [] (congrArg (· + 1) place) []
    rw [List.append_nil, List.append_nil] at read
    rw [read, readOpen_end, finish_of_close (close_map entries)]
  | @item depth items v body bytes missing room before last ih =>
    obtain ⟨tag, new, within, rfl, opens, deep, read⟩ := ih
    refine ⟨2, .list [], body ++ tag :: within, rfl, .list, room, ?_⟩
    intro around place
    have closed : ((Open.list items.reverse).add v).close = .ok (.list (items ++ [v])) := by
      rw [Open.add, ← List.reverse_concat]
      exact close_list (items ++ [v])
    rw [before.readOpen [] (congrArg (· + 1) place), List.append_nil, opens.readOpen _ (place ▸ deep),
      read _ (congrArg (· + 1) place), finishWith, finish_of_close closed]
  | @value depth entries k v body first bytes missing room before key last ih =>
    obtain ⟨tag, new, within, rfl, opens, deep, read⟩ := ih
    refine ⟨1, .map [], body ++ (first ++ tag :: within), rfl, .map, room, ?_⟩
    intro around place
    have closed : ((Open.entry entries.reverse k).add v).close = .ok (.map (entries ++ [(k, v)])) := by
      rw [Open.add, ← List.reverse_concat]
      exact close_map (entries ++ [(k, v)])
    rw [before.readOpen [] (congrArg (· + 1) place), List.append_nil, key.readOpen _ (congrArg (· + 1) place),
      Open.add, opens.readOpen _ (place ▸ deep), read _ (congrArg (· + 1) place), finishWith, finish_of_close closed]

theorem Unclosed.read {v : Value} {bytes : Bytes} {missing : Nat} (cut : Unclosed 0 v bytes missing) :
    read bytes = (.ok v, []) := by
  obtain ⟨tag, new, body, rfl, opens, -, read⟩ := cut.readBody
  rw [opens.read, read [] rfl]
  rfl

end Codec
end FramedRpc
