import FramedRpc.Proofs.Cli.Agreement
import FramedRpc.Proofs.Json.Conversion
import FramedRpc.Proofs.Json.Path

namespace FramedRpc

open Json

-- A value that is just this integer, in as few bits as it needs.
inductive Value.Holds (n : Int) : Value → Prop where
  | int {m : Int32} (same : m.toInt = n) : Holds n (.int m)
  | long {m : Int64} (same : m.toInt = n) (wide : ¬Json.Narrow m) : Holds n (.long m)

theorem Json.toValue_holds (n : Int64) : ∃ u : Value, (Number.integer n).toValue = .ok u ∧ u.Holds n.toInt := by
  by_cases narrow : Narrow n
  · refine ⟨_, toValue_narrow narrow, .int ?_⟩
    rw [← Int32.toInt_toInt64, toInt64_toInt32 narrow]
  · exact ⟨_, toValue_wide narrow, .long rfl narrow⟩

namespace Cli

variable {text : String} {v : Value} {w : Term} {path : List Step} {negative : Bool} {digits : List Char}

theorem parseArguments_tree (parsed : parseArguments text = .ok v) :
    ∃ t, Json.parse text = .ok t ∧ Value.ofJson t = .ok v := by
  obtain ⟨t, read, parsed⟩ := Json.bind_ok parsed
  obtain ⟨u, converted, finished⟩ := Json.bind_ok parsed
  split at finished
  · cases finished
    exact ⟨t, Json.mapError_ok read, Json.mapError_ok converted⟩
  · cases finished

theorem parseArguments_number (said : w.Text text) (there : w.at? path = some (.integer negative digits))
    (signless : negative = true → magnitude digits ≠ 0) (parsed : parseArguments text = .ok v) :
    (∃ u, v.at? path = some u ∧ u.Holds (signed negative digits) ∧
      -0x8000000000000000 ≤ signed negative digits ∧ signed negative digits < 0x8000000000000000) ∨
    (∃ bits, v.at? path = some (.double bits) ∧
      (signed negative digits < -0x8000000000000000 ∨ 0x10000000000000000 ≤ signed negative digits)) := by
  obtain ⟨t, read, converted⟩ := parseArguments_tree parsed
  obtain ⟨w', said', means⟩ := parse_sound read
  obtain rfl := said.unique said'
  obtain ⟨t', u, meant, made, reached⟩ := means.at converted there
  cases meant with
  | number counts =>
    cases counts with
    | @integer _ _ n same =>
      obtain ⟨_, inner, holds⟩ := toValue_holds n
      cases made.symm.trans inner
      rw [← same]
      exact .inl ⟨u, reached, holds, n.le_toInt, n.toInt_lt⟩
    | large => cases made
    | zero zero => exact absurd zero (signless rfl)
    | beyond beyond =>
      cases made
      exact .inr ⟨_, reached, beyond⟩

theorem text_single (whole : Whole digits) (typed : text.toList = '[' :: (digits ++ [']'])) :
    (Term.list [.integer false digits]).Text text := by
  have items : Items true [.integer false digits] (digits ++ [']']) [] :=
    .item (.first (.none _)) (.positive (.integer whole)) (.close (.none _))
  exact ⟨_, [], typed ▸ .none _, .list items, .none _⟩

-- Whatever is accepted says one thing. A whole number in it, other than a zero with a sign, is kept if it fits in 64
-- bits with a sign, and the content is refused if it fits only without one; any other becomes a double.
theorem parseArguments_integers (text : String) :
    (∀ v, parseArguments text = .ok v → ∃! w : Term, w.Text text) ∧
      ∀ w : Term, w.Text text → ∀ path negative digits, w.at? path = some (.integer negative digits) →
        (negative = true → magnitude digits ≠ 0) →
        let n := signed negative digits
        (-0x8000000000000000 ≤ n → n < 0x8000000000000000 → ∀ v, parseArguments text = .ok v →
          ∃ u, v.at? path = some u ∧ u.Holds n) ∧
        (0x8000000000000000 ≤ n → n < 0x10000000000000000 → ∃ f, parseArguments text = .error f ∧ f.code = .usage) ∧
        (n < -0x8000000000000000 ∨ 0x10000000000000000 ≤ n → ∀ v, parseArguments text = .ok v →
          ∃ bits, v.at? path = some (.double bits)) := by
  constructor
  · intro v parsed
    obtain ⟨t, read, -⟩ := parseArguments_tree parsed
    obtain ⟨w, said, -⟩ := parse_sound read
    exact ⟨w, said, fun _ other => other.unique said⟩
  · intro w said path negative digits there signless n
    refine ⟨?_, ?_, ?_⟩
    · intro low high v parsed
      rcases parseArguments_number said there signless parsed with ⟨u, reached, holds, -⟩ | ⟨-, -, beyond⟩
      · exact ⟨u, reached, holds⟩
      · omega
    · intro low high
      cases parsed : parseArguments text with
      | error f => exact ⟨f, rfl, parseArguments_failure parsed⟩
      | ok v =>
        rcases parseArguments_number said there signless parsed with ⟨-, -, -, -, below⟩ | ⟨-, -, beyond⟩
        · omega
        · omega
    · intro outside v parsed
      rcases parseArguments_number said there signless parsed with ⟨-, -, -, above, below⟩ | ⟨bits, reached, -⟩
      · omega
      · exact ⟨bits, reached⟩

-- An integer of 34 bits inside an object, and one that is just beyond 64 bits with a sign.
theorem parseArguments_integers_nested :
    let text := "\x7b\"a\": [-7, 10000000000]\x7d"
    let digits := ['1', '0', '0', '0', '0', '0', '0', '0', '0', '0', '0']
    let w : Term := .object [("a", .list [.integer true ['7'], .integer false digits])]
    w.Text text ∧
      (∃ v u, parseArguments text = .ok v ∧ v.at? [.member "a", .item 1] = some u ∧ u.Holds 10000000000) ∧
      ∃ f, parseArguments "[9223372036854775808]" = .error f ∧ f.code = .usage := by
  intro text digits w
  have seven : Whole ['7'] := ⟨⟨nofun, List.all_eq_true.1 rfl⟩, by decide⟩
  have whole : Whole digits := ⟨⟨nofun, List.all_eq_true.1 rfl⟩, by decide⟩
  have name : Quoted "a".toList ['a'] := .cons (.plain (by decide) (by decide) (by decide)) .nil
  have items : Items true [.integer true ['7'], .integer false digits]
      ('-' :: '7' :: ',' :: ' ' :: (digits ++ [']', '\x7d'])) ['\x7d'] :=
    .item (.first (.none _)) (.negative (.integer seven))
      (.item (.comma (.none _) (.more rfl (.none _))) (.positive (.integer whole)) (.close (.none _)))
  have members : Members true [("a", .list [.integer true ['7'], .integer false digits])]
      ('"' :: (['a'] ++ '"' :: ':' :: ' ' :: '[' :: '-' :: '7' :: ',' :: ' ' :: (digits ++ [']', '\x7d']))) [] :=
    .member (.first (.none _)) name (.none _) (.more rfl (.none _)) (.list items) (.close (.none _))
  have typed : text.toList = '\x7b' :: '"' ::
      (['a'] ++ '"' :: ':' :: ' ' :: '[' :: '-' :: '7' :: ',' :: ' ' :: (digits ++ [']', '\x7d'])) := by decide +kernel
  have said : w.Text text := ⟨_, [], typed ▸ .none _, .object members, .none _⟩
  have parsed : parseArguments text = .ok (.map [(.string "a", .list [.int (-7), .long 10000000000])]) := by
    decide +kernel
  have large : Whole "9223372036854775808".toList := ⟨⟨by decide, List.all_eq_true.1 (by decide)⟩, by decide⟩
  obtain ⟨u, reached, holds⟩ := ((parseArguments_integers text).2 w said [.member "a", .item 1] false digits rfl
    nofun).1 (by decide) (by decide) _ parsed
  refine ⟨said, ⟨_, u, parsed, reached, holds⟩, ?_⟩
  exact ((parseArguments_integers _).2 _ (text_single large (by decide +kernel)) [.item 0] false _ rfl nofun).2.1
    (by decide +kernel) (by decide +kernel)

-- An integer that is just too large for 64 bits without a sign is not refused. It becomes a double.
theorem parseArguments_beyond :
    let digits := ['1', '8', '4', '4', '6', '7', '4', '4', '0', '7', '3', '7', '0', '9', '5', '5', '1', '6', '1', '6']
    let w : Term := .list [.integer false digits]
    w.Text "[18446744073709551616]" ∧ w.at? [.item 0] = some (.integer false digits) ∧
      signed false digits = 0x10000000000000000 ∧
      parseArguments "[18446744073709551616]" = .ok (.list [.double 0x43F0000000000000]) := by
  intro digits w
  have whole : Whole digits := ⟨⟨nofun, List.all_eq_true.1 rfl⟩, by decide⟩
  have typed : "[18446744073709551616]".toList = '[' :: (digits ++ [']']) := by decide +kernel
  have number : number false (digits ++ [']']) = .ok (.real 0x43F0000000000000, [']']) := by
    have scaled : scaled? (Binary.double.ofRatio 1844674407370955161 1) 1 = some 0x43F0000000000000 := by
      rw [scaled?]
      decide +kernel
    show real false 1844674407370955161 1 [']'] = _
    rw [real, real?, scaled]
    decide +kernel
  have element : value 126 (digits ++ [']']) = .ok (.number (.real 0x43F0000000000000), [']']) := by
    unfold value
    show (Json.number false (digits ++ [']'])).bind _ = _
    rw [number]
    rfl
  have list : value maxDepth ('[' :: (digits ++ [']'])) = .ok (.list [.number (.real 0x43F0000000000000)], []) := by
    unfold value
    show (items (value 126) true _ _).bind _ = _
    unfold items
    show ((Except.bind (value 126 (digits ++ [']'])) _).bind _) = _
    rw [element]
    rfl
  have parsed : parse "[18446744073709551616]" = .ok (.list [.number (.real 0x43F0000000000000)]) := by
    unfold parse Json.read
    simp only [typed, list]
    rfl
  refine ⟨text_single whole typed, rfl, by decide, ?_⟩
  unfold parseArguments
  rw [parsed]
  rfl

end Cli
end FramedRpc
