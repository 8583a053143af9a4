import FramedRpc.Codec.Decode

namespace FramedRpc

structure Twin (σ τ : Type) [Supply σ] [Supply τ] where
  Level : σ → τ → Prop
  Past : σ → Prop
  Failed : IoError → τ → Prop
  Shared : IoError → Prop
  take : ∀ n s t, Level s t →
    (∃ given s' t', Supply.take n s = (given, s') ∧ Supply.take n t = (given, t') ∧ Level s' t' ∧
      ∀ e, given = .error e → Shared e) ∨
    Past (Supply.take n s).2 ∧ ∃ e t', Supply.take n t = (.error e, t') ∧ Failed e t'
  past : ∀ n s, Past s → Past (Supply.take n s).2

namespace Codec

theorem readOpen_apply {σ : Type} [Supply σ] (top : Open) (around : List Open) (s : σ) :
    readOpen top around s = match readToken s with
      | (.error e, s') => (.error e, s')
      | (.ok none, s') => ((Progress.finish top around).mapError .malformed, s')
      | (.ok (some t), s') =>
        match Progress.step top around t with
        | .error why => (.error (.malformed why), s')
        | .ok (.done v) => (.ok v, s')
        | .ok (.more top around) => readOpen top around s' := by
  rw [readOpen]
  split
  · rename_i read
    simp only [read]
  · rename_i read
    simp only [read]
  · rename_i read
    exact read ▸ rfl

theorem read_eq {σ : Type} [Supply σ] : (read : Reading σ Value) = readTag >>= fun
    | none => fail .empty
    | some tag =>
      if tag = 1 then readOpen (.map []) []
      else if tag = 2 then readOpen (.list []) []
      else fail (.topLevel tag) := by
  funext s
  rw [bind_apply, read]
  rcases readTag s with ⟨_ | _ | tag, s'⟩
  · rfl
  · rfl
  · simp only [apply_ite (fun r : Reading σ Value => r s')]
    rfl

section

variable {σ τ α β : Type} [Supply σ] [Supply τ] (twin : Twin σ τ)

def Ends (onFirst : Except CodecError α × σ) (onSecond : Except CodecError α × τ) : Prop :=
  (∃ result s t, onFirst = (result, s) ∧ onSecond = (result, t) ∧ twin.Level s t ∧
    ∀ e, result = .error (.io e) → twin.Shared e) ∨
  twin.Past onFirst.2 ∧ ∃ e t, onSecond = (.error (.io e), t) ∧ twin.Failed e t

structure Alike (r : Reading σ α) (q : Reading τ α) : Prop where
  level : ∀ s t, twin.Level s t → Ends twin (r s) (q t)
  past : ∀ s, twin.Past s → twin.Past (r s).2

namespace Alike

variable {twin}

theorem pure (a : α) : Alike twin (pure a) (pure a) :=
  ⟨fun s t level => .inl ⟨.ok a, s, t, rfl, rfl, level, nofun⟩, fun _ past => past⟩

theorem fail (why : Malformed) : Alike twin (α := α) (fail why) (fail why) :=
  ⟨fun s t level => .inl ⟨.error (.malformed why), s, t, rfl, rfl, level, nofun⟩, fun _ past => past⟩

theorem orFail (result : Except Malformed α) : Alike twin (orFail result) (orFail result) := by
  cases result with
  | ok a => exact .pure a
  | error why => exact .fail why

theorem bind {r : Reading σ α} {q : Reading τ α} {f : α → Reading σ β} {g : α → Reading τ β} (first : Alike twin r q)
    (next : ∀ a, Alike twin (f a) (g a)) : Alike twin (r >>= f) (q >>= g) where
  level s t level := by
    rw [bind_apply, bind_apply]
    rcases first.level s t level with ⟨result, s', t', left, right, still, shared⟩ | ⟨past, e, t', right, failed⟩
    · rw [left, right]
      cases result with
      | ok a => exact (next a).level s' t' still
      | error why => exact .inl ⟨.error why, s', t', rfl, rfl, still, fun e same => shared e (by cases same; rfl)⟩
    · rw [right]
      refine .inr ⟨?_, e, t', rfl, failed⟩
      cases left : r s with
      | mk result s' =>
        rw [left] at past
        cases result with
        | ok a => exact (next a).past s' past
        | error why => exact past
  past s past := by
    have kept := first.past s past
    rw [bind_apply]
    cases left : r s with
    | mk result s' =>
      rw [left] at kept
      cases result with
      | ok a => exact (next a).past s' kept
      | error why => exact kept

theorem map {r : Reading σ α} {q : Reading τ α} (f : α → β) (inner : Alike twin r q) :
    Alike twin (f <$> r) (f <$> q) := by
  rw [← bind_pure_comp, ← bind_pure_comp]
  exact inner.bind fun a => .pure (f a)

theorem readSome (n : Nat) : Alike twin (readSome n) (readSome n) where
  level s t level := by
    unfold Codec.readSome
    rcases twin.take n s t level with ⟨given, s', t', left, right, still, shared⟩ | ⟨past, e, t', right, failed⟩
    · rw [left, right]
      cases given with
      | ok got => exact .inl ⟨.ok got, s', t', rfl, rfl, still, nofun⟩
      | error e => exact .inl ⟨.error (.io e), s', t', rfl, rfl, still, fun _ same => by cases same; exact shared e rfl⟩
    · rw [right]
      refine .inr ⟨?_, e, t', rfl, failed⟩
      cases left : Supply.take n s with
      | mk given s' =>
        rw [left] at past
        cases given <;> exact past
  past s past := by
    have kept := twin.past n s past
    unfold Codec.readSome
    cases left : Supply.take n s with
    | mk given s' =>
      rw [left] at kept
      cases given <;> exact kept

theorem readBytes (what : String) (n : Nat) : Alike twin (readBytes what n) (readBytes what n) := by
  apply (readSome n).bind
  intro got
  split
  · exact .fail _
  · exact .pure got

theorem readNumber (what : String) (width : Nat) : Alike twin (readNumber what width) (readNumber what width) :=
  (readBytes what width).bind fun _ => .pure _

theorem readInteger (kind : IntegerKind) (tag : UInt8) : Alike twin (readInteger kind tag) (readInteger kind tag) := by
  unfold Codec.readInteger
  split
  · exact .fail _
  · exact (readNumber _ _).bind fun _ => .orFail _

theorem readText (width : Nat) : Alike twin (readText width) (readText width) :=
  (readNumber _ width).bind fun length => (readBytes _ length).bind fun _ => .orFail _

theorem readBinary (width : Nat) : Alike twin (readBinary width) (readBinary width) :=
  (readNumber _ width).bind fun length => (readBytes _ length).bind fun _ => .pure _

theorem readTagged (tag : UInt8) : Alike twin (readTagged tag) (readTagged tag) := by
  unfold Codec.readTagged
  split
  · exact (readInteger _ tag).map _
  · split
    · exact .pure _
    · exact .pure _
    · exact .pure _
    · exact (readNumber _ _).map _
    · exact (readNumber _ _).map _
    · exact .pure _
    · exact .pure _
    · exact .pure _
    · exact (readText _).map _
    · exact (readText _).map _
    · exact (readBinary _).map _
    · exact (readBinary _).map _
    · exact .fail _

theorem readTag : Alike twin readTag readTag := (readSome 1).bind fun _ => .pure _

theorem readToken : Alike twin readToken readToken := by
  apply readTag.bind
  intro tag
  cases tag with
  | none => exact .pure none
  | some tag => exact (readTagged tag).map some

theorem past_readOpen (top : Open) (around : List Open) {s : σ} (past : twin.Past (Codec.readToken s).2) :
    twin.Past (Codec.readOpen top around s).2 := by
  fun_induction Codec.readOpen top around s with
  | case1 top around s e s' read | case2 top around s s' read | case3 top around s token s' read why step
  | case4 top around s token s' read v step =>
    rw [read] at past
    exact past
  | case5 top around s token s' read top' around' step ih =>
    rw [read] at past
    exact ih (readToken.past s' past)

theorem readOpen (top : Open) (around : List Open) : Alike twin (readOpen top around) (readOpen top around) where
  level s t level := by
    induction size : Supply.size s using Nat.strongRecOn generalizing top around s t with
    | ind n ih =>
      subst size
      rw [readOpen_apply top around t]
      rcases readToken.level s t level with ⟨result, s', t', left, right, still, shared⟩ | ⟨past, e, t', right, failed⟩
      · rw [readOpen_apply, left, right]
        rcases result with why | _ | token
        · exact .inl ⟨.error why, s', t', rfl, rfl, still, fun e same => shared e (by cases same; rfl)⟩
        · refine .inl ⟨_, s', t', rfl, rfl, still, fun e same => ?_⟩
          cases ended : Progress.finish top around <;> rw [ended] at same <;> cases same
        · simp only
          cases step : Progress.step top around token with
          | error why => exact .inl ⟨.error (.malformed why), s', t', rfl, rfl, still, fun e same => by cases same⟩
          | ok progress =>
            cases progress with
            | done v => exact .inl ⟨.ok v, s', t', rfl, rfl, still, fun e same => by cases same⟩
            | more top around => exact ih _ (size_readToken_lt left) top around s' t' still rfl
      · rw [right]
        exact .inr ⟨past_readOpen top around past, e, t', rfl, failed⟩
  past s past := past_readOpen top around (readToken.past s past)

theorem read (twin : Twin σ τ) : Alike twin read read := by
  rw [read_eq, read_eq]
  apply readTag.bind
  intro tag
  cases tag with
  | none => exact .fail .empty
  | some tag =>
    simp only
    split
    · exact readOpen _ _
    · split
      · exact readOpen _ _
      · exact .fail _

end Alike
end
end Codec
end FramedRpc
