import FramedRpc.Proofs.Json.Unambiguity

namespace FramedRpc.Json

def onward (start : Nat) (digits : List Char) : Nat := digits.foldl (fun n c => 10 * n + (c.toNat - 48)) start

def magnitude (digits : List Char) : Nat := onward 0 digits

def signed (negative : Bool) (digits : List Char) : Int :=
  if negative then -(magnitude digits : Int) else magnitude digits

-- What is made of a number that is written.
inductive Counts : Term → Number → Prop where
  | integer {negative : Bool} {digits : List Char} {n : Int64} (same : n.toInt = signed negative digits)
      (signless : negative = true → magnitude digits ≠ 0) : Counts (.integer negative digits) (.integer n)
  | large {negative : Bool} {digits : List Char} {n : UInt64} (same : (n.toNat : Int) = signed negative digits)
      (large : 0x8000000000000000 ≤ n.toNat) : Counts (.integer negative digits) (.large n)
  | zero {digits : List Char} {bits : UInt64} (zero : magnitude digits = 0) :
      Counts (.integer true digits) (.real bits)
  | beyond {negative : Bool} {digits : List Char} {bits : UInt64}
      (beyond : signed negative digits < -0x8000000000000000 ∨ 0x10000000000000000 ≤ signed negative digits) :
      Counts (.integer negative digits) (.real bits)
  | decimal {negative : Bool} {written : List Char} {bits : UInt64} : Counts (.decimal negative written) (.real bits)

theorem le_onward (start : Nat) (digits : List Char) : start ≤ onward start digits := by
  induction digits generalizing start with
  | nil => exact Nat.le_refl _
  | cons c cs ih => exact Nat.le_trans (by omega) (ih (10 * start + (c.toNat - 48)))

theorem digits_split (cs : List Char) :
    ∃ ds rest, cs = ds ++ rest ∧ (∀ c ∈ ds, c.isDigit = true) ∧ NoDigit rest := by
  refine ⟨cs.takeWhile Char.isDigit, cs.dropWhile Char.isDigit, (List.takeWhile_append_dropWhile).symm, ?_, ?_⟩
  · exact List.all_eq_true.1 List.all_takeWhile
  · intro c head
    have other := List.head?_dropWhile_not Char.isDigit cs
    rw [Option.mem_def.1 head] at other
    exact other

section
variable {ds rest : List Char}

theorem digits_run (all : ∀ c ∈ ds, c.isDigit = true) (apart : NoDigit rest) (start : Nat) :
    ∃ run, digits start (ds ++ rest) = (run, rest) ∧ (run.absorbed = 0 ∧ run.dropped = 0 ↔ ds = []) ∧
      (start ≤ maxSignificand → (run.dropped = 0 ↔ onward start ds ≤ maxSignificand)) ∧
        (run.dropped = 0 → run.significand = onward start ds) := by
  induction ds generalizing start with
  | nil =>
    refine ⟨⟨start, 0, 0⟩, ?_, by simp, by simp [onward], fun _ => rfl⟩
    cases rest with
    | nil => rfl
    | cons c cs => simp [digits, apart c rfl]
  | cons c cs ih =>
    have digit := all c (.head _)
    have others : ∀ d ∈ cs, d.isDigit = true := fun d member => all d (.tail _ member)
    rw [List.cons_append, digits, if_pos digit]
    by_cases fits : 10 * start + (c.toNat - 48) ≤ maxSignificand
    · obtain ⟨run, read, -, whole, value⟩ := ih others (10 * start + (c.toNat - 48))
      refine ⟨{ run with absorbed := run.absorbed + 1 }, ?_, by simp, fun _ => whole fits, value⟩
      simp only [if_pos fits, read]
    · obtain ⟨taken, left⟩ := takeWhile_digits others apart
      have beyond := le_onward (10 * start + (c.toNat - 48)) cs
      refine ⟨⟨start, 0, (c :: cs).length⟩, ?_, by simp, fun _ => ?_, by simp⟩
      · simp only [if_neg fits, List.takeWhile_cons, digit, if_true, taken, left]
      · simp only [List.length_cons, Nat.add_one_ne_zero, false_iff, Nat.not_le]
        exact Nat.lt_of_lt_of_le (Nat.lt_of_not_le fits) beyond

theorem exponentDigits_run (all : ∀ c ∈ ds, c.isDigit = true) (apart : NoDigit rest) (start : Nat) :
    (exponentDigits start (ds ++ rest)).2.2.dropWhile Char.isDigit = rest ∧
      ((exponentDigits start (ds ++ rest)).2.1 = false → (exponentDigits start (ds ++ rest)).2.2 = rest) := by
  induction ds generalizing start with
  | nil =>
    cases rest with
    | nil => exact ⟨rfl, fun _ => rfl⟩
    | cons c cs => simp [exponentDigits, apart c rfl]
  | cons c cs ih =>
    have others : ∀ d ∈ cs, d.isDigit = true := fun d member => all d (.tail _ member)
    rw [List.cons_append, exponentDigits, if_pos (all c (.head _))]
    by_cases fits : 10 * start + (c.toNat - 48) ≤ maxExponent
    · simp only [if_pos fits]
      exact ih others _
    · simp only [if_neg fits]
      exact ⟨(takeWhile_digits others apart).2, nofun⟩

end

section
variable {negative : Bool} {significand : Nat} {start : Int} {cs r : List Char} {n : Number}

theorem real_sound {exponent : Int} (read : real negative significand exponent cs = .ok (n, r)) :
    r = cs ∧ ∃ bits, n = .real bits := by
  unfold real real? at read
  cases scaled : scaled? (Binary.double.ofRatio significand 1) exponent with
  | none =>
    rw [scaled] at read
    cases read
  | some bits =>
    rw [scaled] at read
    cases read
    exact ⟨rfl, _, rfl⟩

theorem exponent_sign (cs : List Char) {signs : Bool × List Char}
    (told : (match cs with
      | '+' :: rest => (false, rest)
      | '-' :: rest => (true, rest)
      | _ => (false, cs)) = signs) :
    ∃ sign, (sign = [] ∨ sign = ['+'] ∨ sign = ['-']) ∧ cs = sign ++ signs.2 := by
  subst told
  split
  · exact ⟨['+'], .inr (.inl rfl), rfl⟩
  · exact ⟨['-'], .inr (.inr rfl), rfl⟩
  · exact ⟨[], .inl rfl, rfl⟩

theorem exponentPart_sound {mark : Char} (marked : mark = 'e' ∨ mark = 'E')
    (read : exponentPart negative significand start cs = .ok (n, r)) :
    (∃ exponent, cs = exponent ++ r ∧ Exponent (mark :: exponent)) ∧ ∃ bits, n = .real bits := by
  unfold exponentPart at read
  split at read
  next down behind told =>
    obtain ⟨sign, signed, rfl⟩ := exponent_sign cs told
    clear told
    cases behind with
    | nil => cases read
    | cons c behind =>
      dsimp only at read
      split at read
      next digit =>
        obtain ⟨ds, rest, rfl, all, apart⟩ := digits_split behind
        obtain ⟨dropped, whole⟩ := exponentDigits_run all apart (c.toNat - 48)
        have run : DigitRun (c :: ds) := ⟨nofun, List.forall_mem_cons.2 ⟨digit, all⟩⟩
        have ended : r = rest →
            ∃ exponent, sign ++ c :: (ds ++ rest) = exponent ++ r ∧ Exponent (mark :: exponent) := by
          rintro rfl
          exact ⟨sign ++ (c :: ds), by simp, .some marked signed run⟩
        split at read
        next value left outcome =>
          rw [outcome] at whole
          obtain ⟨rfl, double⟩ := real_sound read
          exact ⟨ended (whole rfl), double⟩
        next value left outcome =>
          rw [outcome] at dropped
          split at read
          · cases read
          · obtain ⟨rfl, double⟩ := real_sound read
            exact ⟨ended dropped, double⟩
      next => cases read

theorem fractionPart_sound (read : fractionPart negative significand start cs = .ok (n, r)) :
    (∃ fraction exponent, '.' :: cs = fraction ++ (exponent ++ r) ∧ Fraction fraction ∧ Exponent exponent ∧
      fraction ≠ []) ∧ ∃ bits, n = .real bits := by
  obtain ⟨ds, rest, rfl, all, apart⟩ := digits_split cs
  obtain ⟨run, told, empty, -⟩ := digits_run all apart significand
  unfold fractionPart at read
  rw [told] at read
  dsimp only at read
  by_cases none : run.absorbed = 0 ∧ run.dropped = 0
  · rw [if_pos none] at read
    split at read <;> cases read
  · rw [if_neg none] at read
    have digits : Fraction ('.' :: ds) := .some ⟨fun none' => none (empty.2 none'), all⟩
    have plain : r = rest → ∃ fraction exponent, '.' :: (ds ++ rest) = fraction ++ (exponent ++ r) ∧
        Fraction fraction ∧ Exponent exponent ∧ fraction ≠ [] := by
      rintro rfl
      exact ⟨'.' :: ds, [], by simp, digits, .none, nofun⟩
    cases rest with
    | nil =>
      obtain ⟨ended, double⟩ := real_sound read
      exact ⟨plain ended, double⟩
    | cons c more =>
      dsimp only at read
      split at read
      next marked =>
        obtain ⟨⟨exponent, rfl, exponential⟩, double⟩ := exponentPart_sound marked read
        exact ⟨⟨'.' :: ds, c :: exponent, by simp, digits, exponential, nofun⟩, double⟩
      next =>
        obtain ⟨ended, double⟩ := real_sound read
        exact ⟨plain ended, double⟩

theorem integer_sound {digits : List Char} (fits : magnitude digits ≤ maxSignificand)
    (read : integer negative (magnitude digits) cs = .ok (n, r)) : r = cs ∧ Counts (.integer negative digits) n := by
  unfold maxSignificand at fits
  unfold integer at read
  cases negative with
  | true =>
    rw [if_pos rfl] at read
    split at read
    next small =>
      cases read
      refine ⟨rfl, .integer ?_ fun _ => by omega⟩
      rw [Int64.toInt_ofInt_of_le (by omega) (by omega)]
      rfl
    next big =>
      obtain ⟨ended, bits, rfl⟩ := real_sound read
      by_cases zero : magnitude digits = 0
      · exact ⟨ended, .zero zero⟩
      · refine ⟨ended, .beyond (.inl ?_)⟩
        show -(magnitude digits : Int) < _
        omega
  | false =>
    rw [if_neg Bool.false_ne_true] at read
    split at read
    next small =>
      cases read
      refine ⟨rfl, .integer ?_ nofun⟩
      rw [Int64.toInt_ofInt_of_le (by omega) (by omega)]
      rfl
    next big =>
      cases read
      have same : (UInt64.ofNat (magnitude digits)).toNat = magnitude digits :=
        UInt64.toNat_ofNat_of_lt' (Nat.lt_of_le_of_lt fits (by decide))
      refine ⟨rfl, .large ?_ ?_⟩
      · rw [same]
        rfl
      · omega

theorem afterWhole_sound {digits : List Char} {run : Digits} (whole : Whole digits)
    (fits : run.dropped = 0 ↔ magnitude digits ≤ maxSignificand)
    (value : run.dropped = 0 → run.significand = magnitude digits) (read : afterWhole negative run cs = .ok (n, r)) :
    ∃ w written, cs = written ++ r ∧ Numeral negative w (digits ++ written) ∧ Counts w n := by
  have direct {mark : Char} {rest : List Char} (marked : mark = 'e' ∨ mark = 'E')
      (read : exponentPart negative run.significand run.dropped rest = .ok (n, r)) :
      ∃ w written, mark :: rest = written ++ r ∧ Numeral negative w (digits ++ written) ∧ Counts w n := by
    obtain ⟨⟨exponent, rfl, exponential⟩, bits, rfl⟩ := exponentPart_sound marked read
    exact ⟨_, mark :: exponent, rfl, .decimal whole .none exponential (.inr nofun), .decimal⟩
  unfold afterWhole at read
  split at read
  · obtain ⟨⟨fraction, exponent, same, fractional, exponential, some⟩, bits, rfl⟩ := fractionPart_sound read
    exact ⟨_, fraction ++ exponent, by rw [same, List.append_assoc],
      .decimal whole fractional exponential (.inl some), .decimal⟩
  · exact direct (.inl rfl) read
  · exact direct (.inr rfl) read
  · by_cases all : run.dropped = 0
    · rw [if_pos all, value all] at read
      obtain ⟨rfl, counts⟩ := integer_sound (fits.1 all) read
      exact ⟨_, [], rfl, by simpa using Numeral.integer whole, counts⟩
    · rw [if_neg all] at read
      obtain ⟨rfl, bits, rfl⟩ := real_sound read
      have beyond := mt fits.2 all
      unfold maxSignificand at beyond
      refine ⟨_, [], rfl, by simpa using Numeral.integer whole, .beyond ?_⟩
      cases negative with
      | true =>
        left
        show -(magnitude digits : Int) < _
        omega
      | false =>
        right
        show _ ≤ (magnitude digits : Int)
        omega

theorem number_sound (read : number negative cs = .ok (n, r)) :
    ∃ w written, cs = written ++ r ∧ Numeral negative w written ∧ Counts w n := by
  have zero : Whole ['0'] := ⟨⟨nofun, List.all_eq_true.1 rfl⟩, fun _ => rfl⟩
  unfold number at read
  split at read
  · cases read
  · split at read
    · split at read
      · cases read
      · obtain ⟨w, written, same, numeral, counts⟩ := afterWhole_sound zero (by decide) (by decide) read
        exact ⟨w, '0' :: written, by rw [same]; rfl, numeral, counts⟩
    · obtain ⟨w, written, same, numeral, counts⟩ := afterWhole_sound zero (by decide) (by decide) read
      exact ⟨w, '0' :: written, by rw [same]; rfl, numeral, counts⟩
  next c cs other =>
    split at read
    next digit =>
      obtain ⟨ds, rest, same, all, apart⟩ := digits_split (c :: cs)
      obtain ⟨run, told, empty, fits, value⟩ := digits_run all apart 0
      rw [same, told] at read
      dsimp only at read
      cases ds with
      | nil =>
        subst same
        exact absurd digit (by rw [apart c rfl]; exact Bool.false_ne_true)
      | cons d ds =>
        cases same
        have whole : Whole (c :: ds) := ⟨⟨nofun, all⟩, by
          rintro ⟨⟩
          exact absurd rfl other⟩
        obtain ⟨w, written, rfl, numeral, counts⟩ := afterWhole_sound whole (fits (by decide)) value read
        exact ⟨w, c :: ds ++ written, by simp, numeral, counts⟩
    next => cases read

end
end FramedRpc.Json
