import FramedRpc.Proofs.Json.Grammar

namespace FramedRpc.Json

def NoDigit (cs : List Char) : Prop := ∀ c ∈ cs.head?, c.isDigit = false

def NoNumber (cs : List Char) : Prop := NoDigit cs ∧ ∀ c ∈ cs.head?, c ≠ '.' ∧ c ≠ 'e' ∧ c ≠ 'E'

theorem takeWhile_digits {digits rest : List Char} (all : ∀ c ∈ digits, c.isDigit = true) (apart : NoDigit rest) :
    (digits ++ rest).takeWhile Char.isDigit = digits ∧ (digits ++ rest).dropWhile Char.isDigit = rest := by
  induction digits with
  | nil =>
    cases rest with
    | nil => exact ⟨rfl, rfl⟩
    | cons c cs => simp [apart c rfl]
  | cons c cs ih =>
    have others := ih fun d member => all d (.tail _ member)
    simp [all c (.head _), others]

section
variable {rest rest' : List Char}

theorem DigitRun.unique {digits digits' : List Char} (run : DigitRun digits) (run' : DigitRun digits')
    (apart : NoDigit rest) (apart' : NoDigit rest') (same : digits ++ rest = digits' ++ rest') :
    digits = digits' ∧ rest = rest' := by
  obtain ⟨taken, left⟩ := takeWhile_digits run.2 apart
  obtain ⟨taken', left'⟩ := takeWhile_digits run'.2 apart'
  rw [same] at taken left
  exact ⟨taken.symm.trans taken', left.symm.trans left'⟩

theorem DigitRun.head {digits : List Char} (run : DigitRun digits) : ∃ c cs, digits = c :: cs ∧ c.isDigit = true := by
  cases digits with
  | nil => exact absurd rfl run.1
  | cons c cs => exact ⟨c, cs, rfl, run.2 c (.head _)⟩

theorem Exponent.noDigit {exponent : List Char} (exponential : Exponent exponent) (apart : NoNumber rest) :
    NoDigit (exponent ++ rest) := by
  cases exponential with
  | none => exact apart.1
  | some marked signed run =>
    rintro c ⟨⟩
    rcases marked with rfl | rfl <;> rfl

theorem Fraction.noDigit {fraction exponent : List Char} (fractional : Fraction fraction)
    (exponential : Exponent exponent) (apart : NoNumber rest) : NoDigit (fraction ++ (exponent ++ rest)) := by
  cases fractional with
  | none => exact exponential.noDigit apart
  | some run =>
    rintro c ⟨⟩
    rfl

theorem takeWhile_sign {sign cs : List Char} {c : Char} (signed : sign = [] ∨ sign = ['+'] ∨ sign = ['-'])
    (digit : c.isDigit = true) : (sign ++ c :: cs).takeWhile (fun c => !c.isDigit) = sign := by
  have plus : Char.isDigit '+' = false := rfl
  have minus : Char.isDigit '-' = false := rfl
  rcases signed with rfl | rfl | rfl <;> simp [digit, plus, minus]

theorem Exponent.unique {exponent exponent' : List Char} (exponential : Exponent exponent)
    (exponential' : Exponent exponent') (apart : NoNumber rest) (apart' : NoNumber rest')
    (same : exponent ++ rest = exponent' ++ rest') : exponent = exponent' ∧ rest = rest' := by
  cases exponential with
  | none =>
    cases exponential' with
    | none => exact ⟨rfl, same⟩
    | @some mark sign digits marked signed run =>
      have head : mark ∈ rest.head? := by rw [show rest = _ from same]; rfl
      have other := (apart.2 mark head).2
      rcases marked with rfl | rfl <;> simp at other
  | @some mark sign digits marked signed run =>
    cases exponential' with
    | none =>
      have head : mark ∈ rest'.head? := by rw [show rest' = _ from same.symm]; rfl
      have other := (apart'.2 mark head).2
      rcases marked with rfl | rfl <;> simp at other
    | @some mark' sign' digits' marked' signed' run' =>
      simp only [List.cons_append, List.append_assoc, List.cons.injEq] at same
      obtain ⟨rfl, same⟩ := same
      have signs : sign = sign' := by
        obtain ⟨c, cs, rfl, digit⟩ := run.head
        obtain ⟨c', cs', rfl, digit'⟩ := run'.head
        have told := congrArg (List.takeWhile fun c => !c.isDigit) same
        rw [List.cons_append, List.cons_append, takeWhile_sign signed digit, takeWhile_sign signed' digit'] at told
        exact told
      subst signs
      obtain ⟨equal, left⟩ := run.unique run' apart.1 apart'.1 (List.append_cancel_left same)
      exact ⟨by rw [equal], left⟩

theorem Exponent.ne_point {exponent : List Char} (exponential : Exponent exponent) (apart : NoNumber rest)
    (cs : List Char) : exponent ++ rest ≠ '.' :: cs := by
  intro point
  cases exponential with
  | none =>
    have head : '.' ∈ rest.head? := by rw [show rest = _ from point]; rfl
    exact (apart.2 _ head).1 rfl
  | some marked signed run =>
    cases point
    simp at marked

theorem Fraction.unique {fraction fraction' exponent exponent' : List Char} (fractional : Fraction fraction)
    (fractional' : Fraction fraction') (exponential : Exponent exponent) (exponential' : Exponent exponent')
    (apart : NoNumber rest) (apart' : NoNumber rest')
    (same : fraction ++ (exponent ++ rest) = fraction' ++ (exponent' ++ rest')) :
    fraction = fraction' ∧ exponent ++ rest = exponent' ++ rest' := by
  cases fractional with
  | none =>
    cases fractional' with
    | none => exact ⟨rfl, same⟩
    | some run => exact absurd same (exponential.ne_point apart _)
  | some run =>
    cases fractional' with
    | none => exact absurd same.symm (exponential'.ne_point apart' _)
    | some run' =>
      simp only [List.cons_append, List.cons.injEq, true_and] at same
      obtain ⟨equal, left⟩ := run.unique run' (exponential.noDigit apart) (exponential'.noDigit apart') same
      exact ⟨by rw [equal], left⟩

theorem NoNumber.ne_decimal {fraction exponent : List Char} (apart : NoNumber rest) (fractional : Fraction fraction)
    (exponential : Exponent exponent) (more : fraction ≠ [] ∨ exponent ≠ []) :
    rest ≠ fraction ++ (exponent ++ rest') := by
  rintro rfl
  cases fractional with
  | some run => exact (apart.2 '.' rfl).1 rfl
  | none =>
    cases exponential with
    | none => simp at more
    | @some mark _ _ marked signed run =>
      have other := (apart.2 mark rfl).2
      rcases marked with rfl | rfl <;> simp at other

theorem Numeral.unique {negative : Bool} {w w' : Term} {written written' : List Char}
    (numeral : Numeral negative w written) (numeral' : Numeral negative w' written') (apart : NoNumber rest)
    (apart' : NoNumber rest') (same : written ++ rest = written' ++ rest') : w = w' ∧ rest = rest' := by
  cases numeral with
  | integer whole =>
    cases numeral' with
    | integer whole' =>
      obtain ⟨rfl, left⟩ := whole.1.unique whole'.1 apart.1 apart'.1 same
      exact ⟨rfl, left⟩
    | decimal whole' fractional exponential more =>
      rw [List.append_assoc, List.append_assoc] at same
      have next := fractional.noDigit exponential apart'
      exact absurd (whole.1.unique whole'.1 apart.1 next same).2 (apart.ne_decimal fractional exponential more)
  | decimal whole fractional exponential more =>
    have next := fractional.noDigit exponential apart
    rw [List.append_assoc, List.append_assoc] at same
    cases numeral' with
    | integer whole' =>
      exact absurd (whole.1.unique whole'.1 next apart'.1 same).2.symm (apart'.ne_decimal fractional exponential more)
    | decimal whole' fractional' exponential' more' =>
      rw [List.append_assoc, List.append_assoc] at same
      have next' := fractional'.noDigit exponential' apart'
      obtain ⟨rfl, behind⟩ := whole.1.unique whole'.1 next next' same
      obtain ⟨rfl, last⟩ := fractional.unique fractional' exponential exponential' apart apart' behind
      obtain ⟨rfl, left⟩ := exponential.unique exponential' apart apart' last
      exact ⟨rfl, left⟩

end

section
variable {c c' : Char} {spelled spelled' x x' : List Char}

theorem CodeUnit.unique {m n : Nat} {digits digits' : List Char} (unit : CodeUnit m digits)
    (unit' : CodeUnit n digits') (same : digits ++ x = digits' ++ x') : m = n ∧ digits = digits' ∧ x = x' := by
  obtain ⟨first, second, third, last⟩ := unit
  obtain ⟨first', second', third', last'⟩ := unit'
  simp only [List.cons_append, List.nil_append, List.cons.injEq] at same
  obtain ⟨rfl, rfl, rfl, rfl, rfl⟩ := same
  rw [first] at first'
  rw [second] at second'
  rw [third] at third'
  rw [last] at last'
  cases first'
  cases second'
  cases third'
  cases last'
  exact ⟨rfl, rfl, rfl⟩

theorem letters_unique {l : Char} (known : (l, c) ∈ letters) (known' : (l, c') ∈ letters) : c = c' := by
  have each : ∀ p ∈ letters, ∀ q ∈ letters, p.1 = q.1 → p.2 = q.2 := by decide
  exact each _ known _ known' rfl

theorem not_mem_letters (c : Char) : ('u', c) ∉ letters := by
  have each : ∀ p ∈ letters, p.1 ≠ 'u' := by decide
  exact fun known => each _ known rfl

theorem Spelling.unique (spelling : Spelling c spelled) (spelling' : Spelling c' spelled')
    (same : spelled ++ x = spelled' ++ x') : c = c' ∧ x = x' := by
  cases spelling with
  | plain quote backslash visible =>
    cases spelling' with
    | plain => simpa using same
    | letter | unit | pair =>
      cases same
      exact absurd rfl backslash
  | letter known =>
    cases spelling' with
    | plain quote backslash visible =>
      cases same
      exact absurd rfl backslash
    | letter known' =>
      cases same
      exact ⟨letters_unique known known', rfl⟩
    | unit | pair =>
      cases same
      exact absurd known (not_mem_letters _)
  | unit unit high low =>
    cases spelling' with
    | plain quote backslash visible =>
      cases same
      exact absurd rfl backslash
    | letter known' =>
      cases same
      exact absurd known' (not_mem_letters _)
    | unit unit' high' low' =>
      simp only [List.cons_append, List.cons.injEq, true_and] at same
      obtain ⟨rfl, -, left⟩ := unit.unique unit' same
      exact ⟨rfl, left⟩
    | pair first isHigh second isLow =>
      simp only [List.cons_append, List.append_assoc, List.cons.injEq, true_and] at same
      obtain ⟨rfl, -⟩ := unit.unique first same
      rw [isHigh] at high
      cases high
  | pair first isHigh second isLow =>
    cases spelling' with
    | plain quote backslash visible =>
      cases same
      exact absurd rfl backslash
    | letter known' =>
      cases same
      exact absurd known' (not_mem_letters _)
    | unit unit high low =>
      simp only [List.cons_append, List.append_assoc, List.cons.injEq, true_and] at same
      obtain ⟨rfl, -⟩ := first.unique unit same
      rw [isHigh] at high
      cases high
    | pair first' isHigh' second' isLow' =>
      simp only [List.cons_append, List.append_assoc, List.cons.injEq, true_and] at same
      obtain ⟨rfl, -, behind⟩ := first.unique first' same
      simp only [List.cons.injEq, true_and] at behind
      obtain ⟨rfl, -, left⟩ := second.unique second' behind
      exact ⟨rfl, left⟩

theorem Spelling.head (spelling : Spelling c spelled) : ∃ d ds, spelled = d :: ds ∧ d ≠ '"' := by
  cases spelling with
  | plain quote => exact ⟨_, _, rfl, quote⟩
  | letter | unit | pair => exact ⟨_, _, rfl, by decide⟩

theorem Quoted.unique {cs cs' written written' : List Char} (quoted : Quoted cs written) (quoted' : Quoted cs' written')
    (same : written ++ '"' :: x = written' ++ '"' :: x') : cs = cs' ∧ x = x' := by
  induction quoted generalizing cs' written' with
  | nil =>
    cases quoted' with
    | nil => simpa using same
    | cons first rest =>
      obtain ⟨d, ds, rfl, other⟩ := first.head
      cases same
      exact absurd rfl other
  | cons first rest ih =>
    rw [List.append_assoc] at same
    cases quoted' with
    | nil =>
      obtain ⟨d, ds, rfl, other⟩ := first.head
      cases same
      exact absurd rfl other
    | cons first' rest' =>
      rw [List.append_assoc] at same
      obtain ⟨rfl, behind⟩ := first.unique first' same
      obtain ⟨rfl, left⟩ := ih rest' behind
      exact ⟨rfl, left⟩

end

def NoBlank (cs : List Char) : Prop := ∀ c ∈ cs.head?, isSpace c = false

section
variable {cs rest rest' : List Char}

theorem Blanks.skip (blanks : Blanks cs rest) : skip cs = skip rest := by
  induction blanks with
  | none => rfl
  | more space later ih => rw [← ih, Json.skip, List.dropWhile_cons_of_pos space]; rfl

theorem NoBlank.skip (solid : NoBlank cs) : skip cs = cs := by
  cases cs with
  | nil => rfl
  | cons c cs =>
    unfold Json.skip
    rw [List.dropWhile_cons_of_neg]
    rw [solid c rfl]
    exact Bool.false_ne_true

theorem Blanks.unique (blanks : Blanks cs rest) (blanks' : Blanks cs rest') (solid : NoBlank rest)
    (solid' : NoBlank rest') : rest = rest' := by
  rw [← solid.skip, ← solid'.skip, ← blanks.skip, ← blanks'.skip]

theorem NoBlank.cons {c : Char} (dense : isSpace c = false) : NoBlank (c :: cs) := by
  rintro d ⟨⟩
  exact dense

theorem isSpace_iff {c : Char} : isSpace c = true ↔ c = ' ' ∨ c = '\n' ∨ c = '\t' ∨ c = '\r' := by
  simp [isSpace, or_assoc]

theorem Blanks.noNumber (blanks : Blanks cs rest) (apart : NoNumber rest) : NoNumber cs := by
  cases blanks with
  | none => exact apart
  | @more c cs rest space later =>
    have four := isSpace_iff.1 space
    constructor
    · rintro d ⟨⟩
      rcases four with rfl | rfl | rfl | rfl <;> rfl
    · rintro d ⟨⟩
      rcases four with rfl | rfl | rfl | rfl <;> decide

theorem NoNumber.cons {c : Char} (mark : c = ',' ∨ c = ']' ∨ c = '\x7d') : NoNumber (c :: cs) := by
  constructor
  · rintro d ⟨⟩
    rcases mark with rfl | rfl | rfl <;> rfl
  · rintro d ⟨⟩
    rcases mark with rfl | rfl | rfl <;> decide

end

def Shape (w : Term) (rest : List Char) (c : Char) (cs : List Char) : Prop :=
  match c with
  | 'n' => w = .null ∧ cs = 'u' :: 'l' :: 'l' :: rest
  | 't' => w = .bool true ∧ cs = 'r' :: 'u' :: 'e' :: rest
  | 'f' => w = .bool false ∧ cs = 'a' :: 'l' :: 's' :: 'e' :: rest
  | '"' => ∃ s written, w = .string s ∧ Quoted s.toList written ∧ cs = written ++ '"' :: rest
  | '[' => ∃ items, w = .list items ∧ Items true items cs rest
  | '\x7b' => ∃ members, w = .object members ∧ Members true members cs rest
  | '-' => ∃ written, Numeral true w written ∧ cs = written ++ rest
  | c => c.isDigit = true ∧ ∃ written, Numeral false w written ∧ c :: cs = written ++ rest

theorem Numeral.head {negative : Bool} {w : Term} {written : List Char} (numeral : Numeral negative w written) :
    ∃ c cs, written = c :: cs ∧ c.isDigit = true := by
  cases numeral with
  | integer whole => exact whole.1.head
  | decimal whole fractional exponential more =>
    obtain ⟨c, cs, rfl, digit⟩ := whole.1.head
    exact ⟨c, _, rfl, digit⟩

theorem Spells.shape {w : Term} {start rest : List Char} (spells : Spells w start rest) :
    ∃ c cs, start = c :: cs ∧ Shape w rest c cs := by
  cases spells with
  | null | yes | no => exact ⟨_, _, rfl, rfl, rfl⟩
  | @positive _ written _ numeral =>
    obtain ⟨c, cs, rfl, digit⟩ := numeral.head
    refine ⟨c, cs ++ rest, rfl, ?_⟩
    unfold Shape
    split <;> first | exact ⟨digit, _, numeral, rfl⟩ | cases digit
  | negative numeral => exact ⟨_, _, rfl, _, numeral, rfl⟩
  | string quoted => exact ⟨_, _, rfl, _, _, rfl, quoted, rfl⟩
  | list inside => exact ⟨_, _, rfl, _, rfl, inside⟩
  | object inside => exact ⟨_, _, rfl, _, rfl, inside⟩

theorem Shape.solid {w : Term} {rest cs : List Char} {c : Char} (shape : Shape w rest c cs) :
    isSpace c = false ∧ c ≠ ']' := by
  unfold Shape at shape
  split at shape
  iterate 7 exact ⟨rfl, by decide⟩
  obtain ⟨digit, -⟩ := shape
  constructor
  · rw [Bool.eq_false_iff]
    intro space
    rcases isSpace_iff.1 space with rfl | rfl | rfl | rfl <;> cases digit
  · rintro rfl
    cases digit

theorem Shape.positive {w : Term} {rest cs : List Char} {c : Char} (shape : Shape w rest c cs)
    (digit : c.isDigit = true) : ∃ written, Numeral false w written ∧ c :: cs = written ++ rest := by
  unfold Shape at shape
  split at shape
  iterate 7 cases digit
  exact shape.2

theorem Spells.solid {w : Term} {start rest : List Char} (spells : Spells w start rest) :
    NoBlank start ∧ start.head? ≠ some ']' := by
  obtain ⟨c, cs, rfl, shape⟩ := spells.shape
  exact ⟨.cons shape.solid.1, by simpa using shape.solid.2⟩

section
variable {first : Bool} {cs start start' rest : List Char}

theorem Gap.unique (gap : Gap first cs start) (gap' : Gap first cs start') (solid : NoBlank start)
    (solid' : NoBlank start') : start = start' := by
  cases gap with
  | first blanks =>
    cases gap' with
    | first blanks' => exact blanks.unique blanks' solid solid'
  | comma before after =>
    cases gap' with
    | comma before' after' =>
      have same := before.unique before' (.cons rfl) (.cons rfl)
      cases same
      exact after.unique after' solid solid'

theorem Gap.not_close {c : Char} (gap : Gap first cs start) (close : Blanks cs (c :: rest)) (dense : isSpace c = false)
    (other : c ≠ ',') (solid : NoBlank start) : start.head? = some c := by
  cases gap with
  | first blanks => rw [blanks.unique close solid (.cons dense), List.head?_cons]
  | comma before after =>
    have same := before.unique close (.cons rfl) (.cons dense)
    cases same
    exact absurd rfl other

theorem Gap.noNumber (gap : Gap false cs start) : NoNumber cs := by
  cases gap with
  | comma before after => exact before.noNumber (.cons (.inl rfl))

theorem Items.noNumber {items : List Term} (inside : Items false items cs rest) : NoNumber cs := by
  cases inside with
  | close gap => exact gap.noNumber (.cons (.inr (.inl rfl)))
  | item gap item later => exact gap.noNumber

theorem Members.noNumber {members : List (String × Term)} (inside : Members false members cs rest) : NoNumber cs := by
  cases inside with
  | close gap => exact gap.noNumber (.cons (.inr (.inr rfl)))
  | member gap name colon blanks item later => exact gap.noNumber

end

mutual

theorem Spells.unique {w w' : Term} {start rest rest' : List Char} (spells : Spells w start rest)
    (spells' : Spells w' start rest') (apart : NoNumber rest) (apart' : NoNumber rest') : w = w' ∧ rest = rest' := by
  obtain ⟨c, cs, same, shape⟩ := spells'.shape
  cases spells with
  | null | yes | no =>
    cases same
    obtain ⟨rfl, equal⟩ := shape
    exact ⟨rfl, by simpa using equal⟩
  | positive numeral =>
    obtain ⟨d, ds, rfl, digit⟩ := numeral.head
    cases same
    obtain ⟨written', numeral', equal⟩ := shape.positive digit
    exact numeral.unique numeral' apart apart' equal
  | negative numeral =>
    cases same
    obtain ⟨written', numeral', equal⟩ := shape
    exact numeral.unique numeral' apart apart' equal
  | string quoted =>
    cases same
    obtain ⟨s', written', rfl, quoted', equal⟩ := shape
    obtain ⟨chars, left⟩ := quoted.unique quoted' equal
    exact ⟨by rw [String.toList_inj.1 chars], left⟩
  | list inside =>
    cases same
    obtain ⟨items', rfl, inside'⟩ := shape
    obtain ⟨rfl, left⟩ := inside.unique inside'
    exact ⟨rfl, left⟩
  | object inside =>
    cases same
    obtain ⟨members', rfl, inside'⟩ := shape
    obtain ⟨rfl, left⟩ := inside.unique inside'
    exact ⟨rfl, left⟩

theorem Items.unique {first : Bool} {items items' : List Term} {cs rest rest' : List Char}
    (inside : Items first items cs rest) (inside' : Items first items' cs rest') : items = items' ∧ rest = rest' := by
  cases inside with
  | close gap =>
    cases inside' with
    | close gap' => simpa using gap.unique gap' (.cons rfl) (.cons rfl)
    | item gap' item' later' => exact absurd (gap'.not_close gap rfl (by decide) item'.solid.1) item'.solid.2
  | item gap item later =>
    cases inside' with
    | close gap' => exact absurd (gap.not_close gap' rfl (by decide) item.solid.1) item.solid.2
    | item gap' item' later' =>
      obtain rfl := gap.unique gap' item.solid.1 item'.solid.1
      obtain ⟨rfl, rfl⟩ := item.unique item' later.noNumber later'.noNumber
      obtain ⟨rfl, left⟩ := later.unique later'
      exact ⟨rfl, left⟩

theorem Members.unique {first : Bool} {members members' : List (String × Term)} {cs rest rest' : List Char}
    (inside : Members first members cs rest) (inside' : Members first members' cs rest') :
    members = members' ∧ rest = rest' := by
  cases inside with
  | close gap =>
    cases inside' with
    | close gap' => simpa using gap.unique gap' (.cons rfl) (.cons rfl)
    | member gap' name' colon' blanks' item' later' =>
      exact absurd (gap'.not_close gap rfl (by decide) (.cons rfl)) (by simp)
  | member gap name colon blanks item later =>
    cases inside' with
    | close gap' => exact absurd (gap.not_close gap' rfl (by decide) (.cons rfl)) (by simp)
    | member gap' name' colon' blanks' item' later' =>
      obtain ⟨chars, rfl⟩ := name.unique name' (by simpa using gap.unique gap' (.cons rfl) (.cons rfl))
      obtain rfl := String.toList_inj.1 chars
      cases colon.unique colon' (.cons rfl) (.cons rfl)
      obtain rfl := blanks.unique blanks' item.solid.1 item'.solid.1
      obtain ⟨rfl, rfl⟩ := item.unique item' later.noNumber later'.noNumber
      obtain ⟨rfl, left⟩ := later.unique later'
      exact ⟨rfl, left⟩

end

theorem Term.Text.unique {w w' : Term} {text : String} (said : w.Text text) (said' : w'.Text text) : w = w' := by
  obtain ⟨start, rest, before, spells, after⟩ := said
  obtain ⟨start', rest', before', spells', after'⟩ := said'
  obtain rfl := before.unique before' spells.solid.1 spells'.solid.1
  have done : NoNumber [] := ⟨nofun, nofun⟩
  exact (spells.unique spells' (after.noNumber done) (after'.noNumber done)).1

end FramedRpc.Json
