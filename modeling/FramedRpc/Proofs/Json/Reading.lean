import FramedRpc.Proofs.Json.Numeral
import FramedRpc.Proofs.Json.Quoted

namespace FramedRpc.Json

mutual

inductive Means : Term → Tree → Prop where
  | null : Means .null .null
  | bool (b : Bool) : Means (.bool b) (.bool b)
  | number {w : Term} {n : Number} (counts : Counts w n) : Means w (.number n)
  | string (s : String) : Means (.string s) (.string s)
  | list {items : List Term} {ts : List Tree} (each : MeansItems items ts) : Means (.list items) (.list ts)
  | object {members : List (String × Term)} {ts : List (String × Tree)} (each : MeansMembers members ts) :
    Means (.object members) (.ofMembers ts)

inductive MeansItems : List Term → List Tree → Prop where
  | nil : MeansItems [] []
  | cons {w : Term} {t : Tree} {items : List Term} {ts : List Tree} (item : Means w t)
    (others : MeansItems items ts) : MeansItems (w :: items) (t :: ts)

inductive MeansMembers : List (String × Term) → List (String × Tree) → Prop where
  | nil : MeansMembers [] []
  | cons {s : String} {w : Term} {t : Tree} {members : List (String × Term)} {ts : List (String × Tree)}
    (item : Means w t) (others : MeansMembers members ts) : MeansMembers ((s, w) :: members) ((s, t) :: ts)

end

theorem Blanks.trans {cs middle rest : List Char} (first : Blanks cs middle) (later : Blanks middle rest) :
    Blanks cs rest := by
  induction first with
  | none => exact later
  | more space _ ih => exact .more space (ih later)

theorem Blanks.of_skip {cs rest : List Char} (skipped : Json.skip cs = rest) : Blanks cs rest := by
  subst skipped
  induction cs with
  | nil => exact .none []
  | cons c cs ih =>
    unfold Json.skip
    rw [List.dropWhile_cons]
    split
    next space => exact .more space ih
    next => exact .none _

def Sound (element : List Char → Except Fault (Tree × List Char)) : Prop :=
  ∀ cs t rest, element cs = .ok (t, rest) → ∃ w start, Blanks cs start ∧ Spells w start rest ∧ Means w t

theorem word_sound {v t : Tree} {expected cs rest : List Char} (read : word v expected cs = .ok (t, rest)) :
    t = v ∧ cs = expected ++ rest := by
  induction expected generalizing cs with
  | nil =>
    cases read
    exact ⟨rfl, rfl⟩
  | cons e expected ih =>
    cases cs with
    | nil => cases read
    | cons c cs =>
      rw [word] at read
      split at read
      next same =>
        obtain ⟨rfl, rfl⟩ := ih read
        exact ⟨rfl, by rw [same]; rfl⟩
      next => cases read

theorem colon_sound {cs rest : List Char} {u : Unit} (read : colon cs = .ok (u, rest)) : Blanks cs (':' :: rest) := by
  unfold colon at read
  split at read
  · cases read
  next skipped =>
    cases read
    exact .of_skip skipped
  · cases read

section
variable {element : List Char → Except Fault (Tree × List Char)} {first : Bool} {steps : Nat} {cs rest : List Char}

theorem items_sound (sound : Sound element) {ts : List Tree} (read : items element first steps cs = .ok (ts, rest)) :
    ∃ ws, Items first ws cs rest ∧ MeansItems ws ts := by
  induction steps generalizing first cs ts with
  | zero => cases read
  | succ steps ih =>
    have goesOn {behind : List Char} (before : ∀ start, Blanks behind start → Gap first cs start)
        (read : (element behind >>= fun one => items element false steps one.2 >>= fun others =>
          pure (one.1 :: others.1, others.2)) = .ok (ts, rest)) : ∃ ws, Items first ws cs rest ∧ MeansItems ws ts := by
      obtain ⟨⟨t, after⟩, one, more⟩ := bind_ok read
      obtain ⟨⟨others, left⟩, all, finished⟩ := bind_ok more
      cases finished
      obtain ⟨w, start, gap, spells, means⟩ := sound _ _ _ one
      obtain ⟨ws, inside, each⟩ := ih all
      exact ⟨w :: ws, .item (before start gap) spells inside, .cons means each⟩
    rw [items] at read
    dsimp only at read
    split at read
    · cases read
    next skipped =>
      cases read
      exact ⟨[], .close (.of_skip skipped), .nil⟩
    next c behind other skipped =>
      have blanks := Blanks.of_skip skipped
      split at read
      next isFirst =>
        subst isFirst
        exact goesOn (fun start gap => .first (blanks.trans gap)) read
      next notFirst =>
        cases Bool.eq_false_iff.2 notFirst
        split at read
        next comma =>
          subst comma
          split at read
          · cases read
          · cases read
          · exact goesOn (fun start gap => .comma blanks ((Blanks.of_skip rfl).trans gap)) read
        next => cases read

theorem members_sound (sound : Sound element) {ts : List (String × Tree)}
    (read : members element first steps cs = .ok (ts, rest)) :
    ∃ ws, Members first ws cs rest ∧ MeansMembers ws ts := by
  induction steps generalizing first cs ts with
  | zero => cases read
  | succ steps ih =>
    have goesOn {behind : List Char} (gap : Gap first cs ('"' :: behind))
        (read : (string behind >>= fun name => colon name.2 >>= fun between => element between.2 >>= fun one =>
          members element false steps one.2 >>= fun others => pure ((name.1, one.1) :: others.1, others.2)) =
            .ok (ts, rest)) : ∃ ws, Members first ws cs rest ∧ MeansMembers ws ts := by
      obtain ⟨⟨s, middle⟩, name, read⟩ := bind_ok read
      obtain ⟨⟨_, next⟩, between, read⟩ := bind_ok read
      obtain ⟨⟨t, after⟩, one, read⟩ := bind_ok read
      obtain ⟨⟨others, left⟩, all, finished⟩ := bind_ok read
      cases finished
      obtain ⟨written, rfl, quoted⟩ := string_sound name
      obtain ⟨w, start, before, spells, means⟩ := sound _ _ _ one
      obtain ⟨ws, inside, each⟩ := ih all
      exact ⟨(s, w) :: ws, .member gap quoted (colon_sound between) before spells inside, .cons means each⟩
    rw [members] at read
    dsimp only at read
    split at read
    · cases read
    next skipped =>
      cases read
      exact ⟨[], .close (.of_skip skipped), .nil⟩
    next c behind other skipped =>
      have blanks := Blanks.of_skip skipped
      split at read
      next isFirst =>
        subst isFirst
        split at read
        next quote =>
          subst quote
          exact goesOn (.first blanks) read
        next => cases read
      next notFirst =>
        cases Bool.eq_false_iff.2 notFirst
        split at read
        next comma =>
          subst comma
          split at read
          · cases read
          next quote => exact goesOn (.comma blanks (.of_skip quote)) read
          · cases read
          · cases read
        next => cases read

end

theorem value_sound_of {depth : Nat} (inside : ∀ d, depth = d + 1 → Sound (value d)) : Sound (value depth) := by
  intro cs t rest read
  unfold value at read
  split at read
  · cases read
  next skipped =>
    obtain ⟨rfl, rfl⟩ := word_sound read
    exact ⟨.null, _, .of_skip skipped, .null, .null⟩
  next skipped =>
    obtain ⟨rfl, rfl⟩ := word_sound read
    exact ⟨.bool true, _, .of_skip skipped, .yes, .bool true⟩
  next skipped =>
    obtain ⟨rfl, rfl⟩ := word_sound read
    exact ⟨.bool false, _, .of_skip skipped, .no, .bool false⟩
  next skipped =>
    obtain ⟨⟨s, left⟩, one, finished⟩ := bind_ok read
    cases finished
    obtain ⟨written, rfl, quoted⟩ := string_sound one
    exact ⟨.string s, _, .of_skip skipped, .string quoted, .string s⟩
  next skipped =>
    split at read
    · cases read
    next d =>
      obtain ⟨⟨ts, left⟩, all, finished⟩ := bind_ok read
      cases finished
      obtain ⟨ws, items, each⟩ := items_sound (inside d rfl) all
      exact ⟨.list ws, _, .of_skip skipped, .list items, .list each⟩
  next skipped =>
    split at read
    · cases read
    next d =>
      obtain ⟨⟨ts, left⟩, all, finished⟩ := bind_ok read
      cases finished
      obtain ⟨ws, members, each⟩ := members_sound (inside d rfl) all
      exact ⟨.object ws, _, .of_skip skipped, .object members, .object each⟩
  next c behind _ _ _ _ _ _ skipped =>
    split at read
    next minus =>
      obtain ⟨⟨n, left⟩, one, finished⟩ := bind_ok read
      cases finished
      obtain ⟨w, written, rfl, numeral, counts⟩ := number_sound one
      subst minus
      exact ⟨w, _, .of_skip skipped, .negative numeral, .number counts⟩
    next =>
      split at read
      next digit =>
        obtain ⟨⟨n, left⟩, one, finished⟩ := bind_ok read
        cases finished
        obtain ⟨w, written, same, numeral, counts⟩ := number_sound one
        exact ⟨w, _, .of_skip (skipped.trans same), .positive numeral, .number counts⟩
      next => cases read

theorem value_sound (depth : Nat) : Sound (value depth) := by
  induction depth with
  | zero => exact value_sound_of nofun
  | succ depth ih =>
    refine value_sound_of ?_
    rintro d ⟨⟩
    exact ih

theorem parse_sound {text : String} {t : Tree} (parsed : parse text = .ok t) : ∃ w : Term, w.Text text ∧ Means w t := by
  unfold parse at parsed
  dsimp only at parsed
  cases taken : read text.toList with
  | error fault =>
    rw [taken] at parsed
    cases parsed
  | ok v =>
    rw [taken] at parsed
    cases parsed
    obtain ⟨⟨v, rest⟩, one, finished⟩ := bind_ok taken
    obtain ⟨w, start, before, spells, means⟩ := value_sound _ _ _ _ one
    dsimp only at finished
    split at finished
    next skipped =>
      cases finished
      exact ⟨w, ⟨start, rest, before, spells, .of_skip skipped⟩, means⟩
    next => cases finished

end FramedRpc.Json
