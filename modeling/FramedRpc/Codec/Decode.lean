import FramedRpc.Stream.Source
import FramedRpc.Codec.Encode

namespace FramedRpc
namespace Codec

-- A computation that consumes a supply, also where it fails.
abbrev Reading (σ α : Type) := ExceptT CodecError (StateM σ) α

section
variable {σ : Type} [Supply σ]

def fail {α : Type} (why : Malformed) : Reading σ α := throw (.malformed why)

def orFail {α : Type} : Except Malformed α → Reading σ α
  | .ok a => pure a
  | .error why => fail why

def readSome (n : Nat) : Reading σ Bytes := fun s =>
  match Supply.take n s with
  | (.ok got, s) => (.ok got, s)
  | (.error e, s) => (.error (.io e), s)

def readBytes (what : String) (n : Nat) : Reading σ Bytes := do
  let got ← readSome n
  if got.length < n then fail (.short what n got.length) else pure got

def readNumber (what : String) (width : Nat) : Reading σ Nat := do
  return Bytes.ofBigEndian (← readBytes what width)

def readInteger (kind : IntegerKind) (tag : UInt8) : Reading σ Scalar :=
  match kind.widths[(tag >>> 4 &&& 7).toNat]? with
  | none => fail (.width tag)
  | some width => do
    orFail (integerOf kind (tag &&& 0x80 != 0) (← readNumber "integer" width))

def readText (lengthWidth : Nat) : Reading σ Scalar := do
  let length ← readNumber "string length" lengthWidth
  let bytes ← readBytes "string" length
  orFail ((Text.Utf8.decode bytes).map .string |>.mapError .notText)

def readBinary (lengthWidth : Nat) : Reading σ Scalar := do
  let length ← readNumber "binary length" lengthWidth
  return .binary (← readBytes "binary" length)

-- The token that a tag introduces. Only integers have a use for the high nibble.
def readTagged (tag : UInt8) : Reading σ Token :=
  match IntegerKind.ofTag? (tag &&& 0x0F) with
  | some kind => .scalar <$> readInteger kind tag
  | none =>
    match tag.toNat with
    | 0 => pure .close
    | 1 => pure .openMap
    | 2 => pure .openList
    | 3 => (fun n => .scalar (.float (UInt32.ofNat n))) <$> readNumber "float" 4
    | 4 => (fun n => .scalar (.double (UInt64.ofNat n))) <$> readNumber "double" 8
    | 8 => pure (.scalar (.bool true))
    | 9 => pure (.scalar (.bool false))
    | 10 => pure (.scalar .null)
    | 12 => .scalar <$> readText 1
    | 13 => .scalar <$> readText 3
    | 14 => .scalar <$> readBinary 1
    | 15 => .scalar <$> readBinary 3
    | _ => fail (.highBits tag)

def readTag : Reading σ (Option UInt8) := do return (← readSome 1).head?

def readToken : Reading σ (Option Token) := do
  match ← readTag with
  | none => pure none
  | some tag => some <$> readTagged tag

-- A reading that succeeds leaves no more than it found.
def Within {α : Type} (r : Reading σ α) : Prop :=
  ∀ s a s', r s = (.ok a, s') → Supply.size s' ≤ Supply.size s

theorem within_pure {α : Type} (a : α) : Within (σ := σ) (pure a) := by
  intro s b s' h
  cases h
  exact Nat.le_refl _

theorem within_fail {α : Type} (why : Malformed) : Within (σ := σ) (α := α) (fail why) := by
  intro s b s' h
  cases h

omit [Supply σ] in
theorem bind_apply {α β : Type} (r : Reading σ α) (f : α → Reading σ β) (s : σ) :
    (r >>= f) s = match r s with
      | (.ok a, s') => f a s'
      | (.error e, s') => (.error e, s') := by
  simp only [bind, ExceptT.bind, ExceptT.mk, StateT.bind, ExceptT.bindCont]
  rcases r s with ⟨_ | _, _⟩ <;> rfl

omit [Supply σ] in
theorem bind_eq_ok {α β : Type} {r : Reading σ α} {f : α → Reading σ β} {s s' : σ} {b : β} :
    (r >>= f) s = (.ok b, s') ↔ ∃ a s₁, r s = (.ok a, s₁) ∧ f a s₁ = (.ok b, s') := by
  rw [bind_apply]
  rcases r s with ⟨e | a, s₁⟩
  · constructor
    · intro h
      cases h
    · rintro ⟨_, _, ⟨⟩, _⟩
  · constructor
    · exact fun h => ⟨a, s₁, rfl, h⟩
    · rintro ⟨_, _, ⟨⟩, h⟩
      exact h

theorem within_bind {α β : Type} {r : Reading σ α} {f : α → Reading σ β} (first : Within r)
    (next : ∀ a, Within (f a)) : Within (r >>= f) := by
  intro s b s' h
  obtain ⟨a, s₁, h₁, h₂⟩ := bind_eq_ok.mp h
  exact Nat.le_trans (next a _ _ _ h₂) (first _ _ _ h₁)

theorem within_map {α β : Type} {r : Reading σ α} (f : α → β) (inner : Within r) :
    Within (f <$> r) := by
  intro s b s' h
  rw [← bind_pure_comp] at h
  exact within_bind inner (fun a => within_pure (f a)) _ _ _ h

theorem size_readSome {n : Nat} {s s' : σ} {got : Bytes} (h : readSome n s = (.ok got, s')) :
    Supply.size s' + got.length = Supply.size s := by
  simp only [readSome] at h
  split at h <;> cases h
  rename_i h
  exact Supply.size_take _ _ _ _ h

theorem within_readSome (n : Nat) : Within (σ := σ) (readSome n) := by
  intro s got s' h
  have := size_readSome h
  omega

theorem within_readNumber (what : String) (width : Nat) : Within (σ := σ) (readNumber what width) := by
  refine within_bind (within_bind (within_readSome width) fun got => ?_) fun _ => within_pure _
  split
  · exact within_fail _
  · exact within_pure _

theorem within_readBytes (what : String) (n : Nat) : Within (σ := σ) (readBytes what n) := by
  refine within_bind (within_readSome n) fun got => ?_
  split
  · exact within_fail _
  · exact within_pure _

theorem within_orFail {α : Type} (r : Except Malformed α) : Within (σ := σ) (orFail r) := by
  cases r with
  | ok a => exact within_pure a
  | error why => exact within_fail why

theorem within_readInteger (kind : IntegerKind) (tag : UInt8) :
    Within (σ := σ) (readInteger kind tag) := by
  unfold readInteger
  split
  · exact within_fail _
  · exact within_bind (within_readNumber _ _) fun _ => within_orFail _

theorem within_readText (width : Nat) : Within (σ := σ) (readText width) := by
  refine within_bind (within_readNumber _ _) fun _ => ?_
  exact within_bind (within_readBytes _ _) fun _ => within_orFail _

theorem within_readBinary (width : Nat) : Within (σ := σ) (readBinary width) := by
  refine within_bind (within_readNumber _ _) fun _ => ?_
  exact within_bind (within_readBytes _ _) fun _ => within_pure _

theorem within_readTagged (tag : UInt8) : Within (σ := σ) (readTagged tag) := by
  unfold readTagged
  split
  · exact within_map _ (within_readInteger _ tag)
  · split
    · exact within_pure _
    · exact within_pure _
    · exact within_pure _
    · exact within_map _ (within_readNumber _ _)
    · exact within_map _ (within_readNumber _ _)
    · exact within_pure _
    · exact within_pure _
    · exact within_pure _
    · exact within_map _ (within_readText _)
    · exact within_map _ (within_readText _)
    · exact within_map _ (within_readBinary _)
    · exact within_map _ (within_readBinary _)
    · exact within_fail _

theorem size_readToken_lt {s s' : σ} {t : Token} (h : readToken s = (.ok (some t), s')) :
    Supply.size s' < Supply.size s := by
  obtain ⟨tag, s₁, first, second⟩ := bind_eq_ok.mp h
  obtain ⟨got, s₂, taken, ended⟩ := bind_eq_ok.mp first
  have size := size_readSome taken
  cases ended
  cases got with
  | nil => cases second
  | cons b rest =>
    have := within_map some (within_readTagged (σ := σ) b) _ _ _ second
    simp only [List.length_cons] at size
    omega

end

-- A container being read, newest first.
inductive Open where
  | list (items : List Value)
  | map (entries : List (Value × Value))
  | entry (entries : List (Value × Value)) (key : Value)

namespace Open

def add (v : Value) : Open → Open
  | list items => list (v :: items)
  | map entries => entry entries v
  | entry entries key => map ((key, v) :: entries)

def close : Open → Except Malformed Value
  | list items => .ok (.list items.reverse)
  | map entries => .ok (.map entries.reverse)
  | entry _ key => .error (.noValue key)

end Open

-- The innermost open container and those around it, or the finished value.
inductive Progress where
  | more (top : Open) (around : List Open)
  | done (v : Value)

namespace Progress

def deliver (v : Value) : List Open → Progress
  | [] => done v
  | next :: around => more (next.add v) around

def enter (new top : Open) (around : List Open) : Except Malformed Progress :=
  if maxDepth ≤ around.length + 1 then .error .tooDeep else .ok (more new (top :: around))

def step (top : Open) (around : List Open) : Token → Except Malformed Progress
  | .scalar s => .ok (more (top.add (.scalar s)) around)
  | .close => return deliver (← top.close) around
  | .openMap => enter (.map []) top around
  | .openList => enter (.list []) top around

-- What is open at the end of the supply is closed from the inside out.
def finish (top : Open) : List Open → Except Malformed Value
  | [] => top.close
  | next :: around => do finish (next.add (← top.close)) around

end Progress

section
variable {σ : Type} [Supply σ]

def readOpen (top : Open) (around : List Open) (s : σ) : Except CodecError Value × σ :=
  match _h : readToken s with
  | (.error e, s') => (.error e, s')
  | (.ok none, s') => ((Progress.finish top around).mapError .malformed, s')
  | (.ok (some t), s') =>
    match Progress.step top around t with
    | .error why => (.error (.malformed why), s')
    | .ok (.done v) => (.ok v, s')
    | .ok (.more top around) => readOpen top around s'
termination_by Supply.size s
decreasing_by exact size_readToken_lt _h

def read (s : σ) : Except CodecError Value × σ :=
  match readTag s with
  | (.error e, s) => (.error e, s)
  | (.ok none, s) => (.error (.malformed .empty), s)
  | (.ok (some tag), s) =>
    if tag = 1 then readOpen (.map []) [] s
    else if tag = 2 then readOpen (.list []) [] s
    else (.error (.malformed (.topLevel tag)), s)

end
end Codec

-- The value that a byte string is the written form of.
def Value.decode (bytes : Bytes) : Except CodecError Value :=
  match Codec.read bytes with
  | (.error e, _) => .error e
  | (.ok v, []) => .ok v
  | (.ok _, rest) => .error (.malformed (.trailing rest.length))

end FramedRpc
