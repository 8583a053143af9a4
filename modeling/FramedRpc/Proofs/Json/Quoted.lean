import FramedRpc.Proofs.Json.Grammar

namespace FramedRpc.Json

theorem bind_ok {ε α β : Type} {x : Except ε α} {f : α → Except ε β} {b : β} (ran : x >>= f = .ok b) :
    ∃ a, x = .ok a ∧ f a = .ok b := by
  cases x with
  | error e => cases ran
  | ok a => exact ⟨a, rfl, ran⟩

theorem map_ok {ε α β : Type} {x : Except ε α} {f : α → β} {b : β} (ran : x.map f = .ok b) :
    ∃ a, x = .ok a ∧ f a = b := by
  cases x with
  | error e => cases ran
  | ok a =>
    cases ran
    exact ⟨a, rfl, rfl⟩

theorem mapError_ok {ε ζ α : Type} {x : Except ε α} {f : ε → ζ} {a : α} (ran : x.mapError f = .ok a) : x = .ok a := by
  cases x with
  | error e => cases ran
  | ok b =>
    cases ran
    rfl

section
variable {cs rest : List Char} {c : Char}

theorem hexUnit_sound {n : Nat} (read : hexUnit cs = .ok (n, rest)) :
    ∃ digits, cs = digits ++ rest ∧ CodeUnit n digits := by
  unfold hexUnit at read
  split at read
  · cases read
  · dsimp only at read
    split at read
    · split at read
      next first second third last =>
        cases read
        exact ⟨_, rfl, .mk first second third last⟩
      · cases read
    · cases read

theorem lowHalf_sound {high : Nat} (read : lowHalf high cs = .ok (c, rest)) :
    ∃ n digits, cs = '\\' :: 'u' :: (digits ++ rest) ∧ CodeUnit n digits ∧ isLow n = true ∧
      c = Char.ofNat (0x10000 + (high - 0xD800) * 0x400 + (n - 0xDC00)) := by
  unfold lowHalf at read
  split at read
  · cases read
  · cases read
  · obtain ⟨⟨n, left⟩, unit, finished⟩ := bind_ok read
    obtain ⟨digits, rfl, digital⟩ := hexUnit_sound unit
    dsimp only at finished
    split at finished
    next low =>
      simp only [pure, Except.pure, Except.ok.injEq, Prod.mk.injEq] at finished
      obtain ⟨rfl, rfl⟩ := finished
      exact ⟨n, digits, rfl, digital, low, rfl⟩
    next => cases finished
  · cases read
  · cases read

theorem unicodeEscape_sound (read : unicodeEscape cs = .ok (c, rest)) :
    ∃ more, cs = more ++ rest ∧ Spelling c ('\\' :: 'u' :: more) := by
  obtain ⟨⟨n, left⟩, unit, finished⟩ := bind_ok read
  obtain ⟨digits, rfl, digital⟩ := hexUnit_sound unit
  dsimp only at finished
  split at finished
  next => cases finished
  next low =>
    split at finished
    next high =>
      obtain ⟨m, digits', rfl, digital', low', pair⟩ := lowHalf_sound finished
      rw [pair]
      exact ⟨digits ++ '\\' :: 'u' :: digits', by simp, .pair digital high digital' low'⟩
    next high =>
      cases finished
      exact ⟨digits, rfl, .unit digital (Bool.eq_false_iff.2 high) (Bool.eq_false_iff.2 low)⟩

theorem escape_sound (read : escape cs = .ok (c, rest)) : ∃ more, cs = more ++ rest ∧ Spelling c ('\\' :: more) := by
  unfold escape at read
  split at read
  case h_1 => cases read
  case h_10 =>
    obtain ⟨more, rfl, spelling⟩ := unicodeEscape_sound read
    exact ⟨_, rfl, spelling⟩
  case h_11 => cases read
  all_goals
    cases read
    exact ⟨[_], rfl, .letter (by decide)⟩

theorem stringBody_sound {newest cs' : List Char} {steps : Nat} (read : stringBody newest steps cs = .ok (cs', rest)) :
    ∃ told written, cs' = told.reverse ++ newest ∧ cs = written ++ '"' :: rest ∧ Quoted told written := by
  induction steps generalizing newest cs with
  | zero => cases read
  | succ steps ih =>
    cases cs with
    | nil => cases read
    | cons d cs =>
      have goesOn {e : Char} {spelled behind : List Char} (spelling : Spelling e spelled)
          (more : stringBody (e :: newest) steps behind = .ok (cs', rest)) :
          ∃ told written, cs' = told.reverse ++ newest ∧ spelled ++ behind = written ++ '"' :: rest ∧
            Quoted told written := by
        obtain ⟨told, written, rfl, rfl, quoted⟩ := ih more
        exact ⟨e :: told, spelled ++ written, by simp, by simp, .cons spelling quoted⟩
      rw [stringBody] at read
      split at read
      next quote =>
        cases read
        exact ⟨[], [], rfl, by rw [quote]; rfl, .nil⟩
      next quote =>
        split at read
        next backslash =>
          obtain ⟨⟨e, behind⟩, escaped, more⟩ := bind_ok read
          obtain ⟨spelled, rfl, spelling⟩ := escape_sound escaped
          have whole := goesOn spelling more
          rwa [List.cons_append, ← backslash] at whole
        next backslash =>
          split at read
          · cases read
          next visible => exact goesOn (.plain quote backslash (Nat.le_of_not_lt visible)) read

theorem string_sound {s : String} (read : string cs = .ok (s, rest)) :
    ∃ written, cs = written ++ '"' :: rest ∧ Quoted s.toList written := by
  obtain ⟨⟨newest, left⟩, body, finished⟩ := bind_ok read
  cases finished
  obtain ⟨told, written, rfl, rfl, quoted⟩ := stringBody_sound body
  exact ⟨written, rfl, by simpa using quoted⟩

end
end FramedRpc.Json
