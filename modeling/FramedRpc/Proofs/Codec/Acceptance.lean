import FramedRpc.Proofs.Codec.Reading

namespace FramedRpc
namespace Codec

variable {s rest : Bytes}

theorem readTagged_cases {motive : UInt8 → Reading Bytes Token → Prop}
    (integer : ∀ tag kind, IntegerKind.ofTag? (tag &&& 0x0F) = some kind →
      motive tag (Token.scalar <$> readInteger kind tag))
    (close : motive 0 (pure .close)) (openMap : motive 1 (pure .openMap)) (openList : motive 2 (pure .openList))
    (float : motive 3 ((fun n => .scalar (.float (UInt32.ofNat n))) <$> readNumber "float" 4))
    (double : motive 4 ((fun n => .scalar (.double (UInt64.ofNat n))) <$> readNumber "double" 8))
    (yes : motive 8 (pure (.scalar (.bool true)))) (no : motive 9 (pure (.scalar (.bool false))))
    (null : motive 10 (pure (.scalar .null)))
    (text : ∀ tag width, (tag, width) ∈ [(12, 1), (13, 3)] → motive tag (Token.scalar <$> readText width))
    (binary : ∀ tag width, (tag, width) ∈ [(14, 1), (15, 3)] → motive tag (Token.scalar <$> readBinary width))
    (other : ∀ tag why, motive tag (fail why)) (tag : UInt8) : motive tag (readTagged tag) := by
  have exactly : ∀ {c : UInt8} {r : Reading Bytes Token}, motive c r → tag.toNat = c.toNat → motive tag r :=
    fun holds number => UInt8.toNat_inj.mp number ▸ holds
  unfold readTagged
  split
  · rename_i kind known
    exact integer tag kind known
  · split <;> rename_i number
    · exact exactly close number
    · exact exactly openMap number
    · exact exactly openList number
    · exact exactly float number
    · exact exactly double number
    · exact exactly yes number
    · exact exactly no number
    · exact exactly null number
    · exact exactly (text 12 1 (by decide)) number
    · exact exactly (text 13 3 (by decide)) number
    · exact exactly (binary 14 1 (by decide)) number
    · exact exactly (binary 15 3 (by decide)) number
    · exact other tag _

theorem readTagged_sound {tag : UInt8} {t : Token} :
    readTagged tag s = (.ok t, rest) → ∃ body, TokenForm t (tag :: body) ∧ s = body ++ rest := by
  apply readTagged_cases (motive := fun tag reading =>
    reading s = (.ok t, rest) → ∃ body, TokenForm t (tag :: body) ∧ s = body ++ rest)
  case integer =>
    intro tag kind known read
    obtain ⟨n, number, rfl⟩ := map_eq_ok.mp read
    obtain ⟨body, width, accepted, split⟩ := readInteger_eq_ok.mp number
    obtain ⟨small, fits, rfl⟩ := integerOf_eq_ok.mp accepted
    have form := ScalarForm.integer width small fits
    rw [integerTag_ofTag known] at form
    exact ⟨body, .scalar form, split⟩
  case float =>
    intro read
    obtain ⟨n, number, rfl⟩ := map_eq_ok.mp read
    obtain ⟨body, size, rfl, split⟩ := readNumber_eq_ok.mp number
    exact ⟨body, .scalar (.float size), split⟩
  case double =>
    intro read
    obtain ⟨n, number, rfl⟩ := map_eq_ok.mp read
    obtain ⟨body, size, rfl, split⟩ := readNumber_eq_ok.mp number
    exact ⟨body, .scalar (.double size), split⟩
  case text =>
    intro tag width form read
    obtain ⟨n, found, rfl⟩ := map_eq_ok.mp read
    obtain ⟨size, text, rfl, length, rfl, split⟩ := readText_eq_ok.mp found
    exact ⟨_, .scalar (.text form length), split⟩
  case binary =>
    intro tag width form read
    obtain ⟨n, found, rfl⟩ := map_eq_ok.mp read
    obtain ⟨size, bytes, rfl, length, rfl, split⟩ := readBinary_eq_ok.mp found
    exact ⟨_, .scalar (.binary form length), split⟩
  case other =>
    intro tag why read
    cases read
  all_goals
    intro read
    obtain ⟨rfl, rfl⟩ := pure_eq_ok.mp read
    refine ⟨[], ?_, rfl⟩
  case close => exact .close
  case openMap => exact .openMap
  case openList => exact .openList
  case yes => exact .scalar .yes
  case no => exact .scalar .no
  case null => exact .scalar .null

theorem readTag_cases (s : Bytes) :
    s = [] ∧ readTag s = (.ok none, []) ∨ ∃ tag rest, s = tag :: rest ∧ readTag s = (.ok (some tag), rest) := by
  cases s with
  | nil => exact .inl ⟨rfl, rfl⟩
  | cons tag rest => exact .inr ⟨tag, rest, rfl, rfl⟩

theorem readToken_some {t : Token} (read : readToken s = (.ok (some t), rest)) :
    ∃ bytes, TokenForm t bytes ∧ s = bytes ++ rest := by
  obtain ⟨next, middle, first, second⟩ := bind_eq_ok.mp read
  rcases readTag_cases s with ⟨rfl, nothing⟩ | ⟨tag, after, rfl, found⟩
  · rw [nothing] at first
    cases first
    cases second
  · rw [found] at first
    cases first
    obtain ⟨_, tagged, ⟨⟩⟩ := map_eq_ok.mp second
    obtain ⟨body, form, rfl⟩ := readTagged_sound tagged
    exact ⟨tag :: body, form, rfl⟩

theorem readToken_none (read : readToken s = (.ok none, rest)) : s = [] ∧ rest = [] := by
  obtain ⟨next, middle, first, second⟩ := bind_eq_ok.mp read
  rcases readTag_cases s with ⟨rfl, nothing⟩ | ⟨tag, after, rfl, found⟩
  · rw [nothing] at first
    cases first
    cases second
    exact ⟨rfl, rfl⟩
  · rw [found] at first
    cases first
    obtain ⟨_, -, ⟨⟩⟩ := map_eq_ok.mp second

-- The bytes of a container so far, inside of `depth` others.
inductive OpenForm : Nat → Open → Bytes → Prop where
  | list {depth : Nat} {items : List Value} {body : Bytes} (inner : Items (depth + 1) items body) :
    OpenForm depth (.list items.reverse) (2 :: body)
  | map {depth : Nat} {entries : List (Value × Value)} {body : Bytes} (inner : Entries (depth + 1) entries body) :
    OpenForm depth (.map entries.reverse) (1 :: body)
  | entry {depth : Nat} {entries : List (Value × Value)} {k : Value} {body first : Bytes}
    (before : Entries (depth + 1) entries body) (key : Item (depth + 1) k first) :
    OpenForm depth (.entry entries.reverse k) (1 :: (body ++ first))

-- The bytes of containers that are open inside one another, innermost first.
inductive Stack : List Open → Bytes → Prop where
  | nil : Stack [] []
  | cons {top : Open} {around : List Open} {before bytes : Bytes} (room : around.length < maxDepth)
    (outer : Stack around before) (inner : OpenForm around.length top bytes) :
    Stack (top :: around) (before ++ bytes)

namespace OpenForm

variable {depth : Nat} {top : Open} {v w : Value} {bytes more : Bytes}

theorem add (form : OpenForm depth top bytes) (item : Item (depth + 1) v more) :
    OpenForm depth (top.add v) (bytes ++ more) := by
  cases form with
  | list inner =>
    have longer := OpenForm.list (inner.concat item)
    rwa [List.reverse_concat] at longer
  | map inner => exact .entry inner item
  | entry before key =>
    have longer := OpenForm.map (before.concat key item)
    rw [List.reverse_concat] at longer
    simp only [List.cons_append, List.append_assoc]
    exact longer

theorem close (form : OpenForm depth top bytes) (room : depth < maxDepth) (closed : top.close = .ok v) :
    v.isContainer = true ∧ Item depth v (bytes ++ [0]) ∧ Unclosed depth v bytes 1 := by
  cases form with
  | list inner =>
    cases closed
    rw [List.reverse_reverse]
    exact ⟨rfl, .list room inner, .list room inner⟩
  | map inner =>
    cases closed
    rw [List.reverse_reverse]
    exact ⟨rfl, .map room inner, .map room inner⟩
  | entry before key => cases closed

theorem close_last {missing : Nat} (form : OpenForm depth top bytes) (room : depth < maxDepth)
    (last : Unclosed (depth + 1) v more missing) (closed : (top.add v).close = .ok w) :
    Unclosed depth w (bytes ++ more) (missing + 1) := by
  cases form with
  | list inner =>
    cases closed
    rw [List.reverse_cons, List.reverse_reverse]
    exact .item room inner last
  | map inner => cases closed
  | entry before key =>
    cases closed
    rw [List.reverse_cons, List.reverse_reverse]
    simp only [List.cons_append, List.append_assoc]
    exact .value room before key last

end OpenForm

def ProgressForm (bytes : Bytes) : Progress → Prop
  | .more top around => Stack (top :: around) bytes
  | .done v => v.isContainer = true ∧ Item 0 v bytes

theorem deliver_form {around : List Open} {v : Value} {before bytes : Bytes} (outer : Stack around before)
    (container : v.isContainer = true) (item : Item around.length v bytes) :
    ProgressForm (before ++ bytes) (Progress.deliver v around) := by
  cases outer with
  | nil => exact ⟨container, item⟩
  | cons room outer inner =>
    rw [List.append_assoc]
    exact .cons room outer (inner.add item)

theorem enter_form {new top : Open} {around : List Open} {next : Progress} {before bytes : Bytes}
    (stack : Stack (top :: around) before) (fresh : OpenForm (around.length + 1) new bytes)
    (entered : Progress.enter new top around = .ok next) : ProgressForm (before ++ bytes) next := by
  unfold Progress.enter at entered
  split at entered
  · cases entered
  · rename_i shallow
    cases entered
    exact .cons (Nat.lt_of_not_le shallow) stack fresh

theorem step_form {top : Open} {around : List Open} {t : Token} {next : Progress} {before bytes : Bytes}
    (stack : Stack (top :: around) before) (form : TokenForm t bytes)
    (stepped : Progress.step top around t = .ok next) : ProgressForm (before ++ bytes) next := by
  cases form with
  | openMap => exact enter_form stack (.map .nil) stepped
  | openList => exact enter_form stack (.list .nil) stepped
  | scalar form =>
    cases stepped
    cases stack with
    | cons room outer inner =>
      rw [List.append_assoc]
      exact .cons room outer (inner.add (.scalar form))
  | close =>
    cases stack with
    | cons room outer inner =>
      cases closed : top.close with
      | error why =>
        rw [Progress.step, closed] at stepped
        cases stepped
      | ok v =>
        rw [Progress.step, closed] at stepped
        cases stepped
        obtain ⟨container, item, -⟩ := inner.close room closed
        rw [List.append_assoc]
        exact deliver_form outer container item

theorem close_of_finish {top : Open} {around : List Open} {w : Value}
    (finished : Progress.finish top around = .ok w) : ∃ v, top.close = .ok v ∧ finishWith v around = .ok w := by
  cases closed : top.close with
  | ok v =>
    rw [finish_of_close closed] at finished
    exact ⟨v, rfl, finished⟩
  | error why =>
    cases around with
    | nil => cases closed.symm.trans finished
    | cons next around =>
      rw [Progress.finish, closed] at finished
      cases finished

-- From the inside out: a container that is cut off goes into the one around it, which ends with it.
theorem finish_around {around : List Open} {before bytes : Bytes} {v w : Value} {missing : Nat}
    (outer : Stack around before) (cut : Unclosed around.length v bytes missing)
    (finished : finishWith v around = .ok w) : ∃ all, Unclosed 0 w (before ++ bytes) all := by
  induction around generalizing before bytes v missing with
  | nil =>
    cases outer
    cases finished
    exact ⟨missing, cut⟩
  | cons next around ih =>
    cases outer with
    | cons room outer inner =>
      obtain ⟨inside, closed, after⟩ := close_of_finish finished
      rw [List.append_assoc]
      exact ih outer (inner.close_last room cut closed) after

theorem finish_form {top : Open} {around : List Open} {before : Bytes} {w : Value}
    (stack : Stack (top :: around) before) (finished : Progress.finish top around = .ok w) :
    ∃ missing, Unclosed 0 w before missing := by
  cases stack with
  | cons room outer inner =>
    obtain ⟨v, closed, after⟩ := close_of_finish finished
    exact finish_around outer (inner.close room closed).2.2 after

theorem readOpen_sound {top : Open} {around : List Open} {before : Bytes} {v : Value}
    (stack : Stack (top :: around) before) (read : readOpen top around s = (.ok v, rest)) :
    ∃ taken, s = taken ++ rest ∧ (v.isContainer = true ∧ Item 0 v (before ++ taken) ∨
      rest = [] ∧ ∃ missing, Unclosed 0 v (before ++ taken) missing) := by
  fun_induction readOpen top around s generalizing before with
  | case1 top around s e after token => cases read
  | case2 top around s after token =>
    obtain ⟨rfl, rfl⟩ := readToken_none token
    cases finished : Progress.finish top around with
    | error why =>
      rw [finished] at read
      cases read
    | ok w =>
      rw [finished] at read
      cases read
      refine ⟨[], rfl, .inr ⟨rfl, ?_⟩⟩
      rw [List.append_nil]
      exact finish_form stack finished
  | case3 top around s t after token why stepped => cases read
  | case4 top around s t after token w stepped =>
    cases read
    obtain ⟨bytes, form, rfl⟩ := readToken_some token
    exact ⟨bytes, rfl, .inl (step_form stack form stepped)⟩
  | case5 top around s t after token top' around' stepped ih =>
    obtain ⟨bytes, form, rfl⟩ := readToken_some token
    obtain ⟨taken, rfl, found⟩ := ih (step_form stack form stepped) read
    refine ⟨bytes ++ taken, (List.append_assoc ..).symm, ?_⟩
    rw [← List.append_assoc]
    exact found

theorem Stack.single {new : Open} {tag : UInt8} (opens : Opens tag new) : Stack [new] [tag] := by
  cases opens with
  | list => exact .cons (by decide) .nil (.list .nil)
  | map => exact .cons (by decide) .nil (.map .nil)

theorem read_sound {v : Value} (taken : read s = (.ok v, rest)) :
    ∃ bytes, s = bytes ++ rest ∧ (v.isContainer = true ∧ Item 0 v bytes ∨
      rest = [] ∧ ∃ missing, Unclosed 0 v bytes missing) := by
  have body : ∀ {tag new after}, Opens tag new → s = tag :: after → ∃ bytes, s = bytes ++ rest ∧
      (v.isContainer = true ∧ Item 0 v bytes ∨ rest = [] ∧ ∃ missing, Unclosed 0 v bytes missing) := by
    rintro tag new after opens rfl
    rw [opens.read] at taken
    obtain ⟨bytes, rfl, found⟩ := readOpen_sound (.single opens) taken
    exact ⟨tag :: bytes, rfl, found⟩
  rcases readTag_cases s with ⟨rfl, nothing⟩ | ⟨tag, after, rfl, found⟩
  · cases taken
  · by_cases map : tag = 1
    · subst map
      exact body .map rfl
    · by_cases list : tag = 2
      · subst list
        exact body .list rfl
      · unfold Codec.read at taken
        rw [found] at taken
        simp only [if_neg map, if_neg list] at taken
        cases taken

end Codec

open Codec

-- A byte string is read as a value exactly if it is a written form of it, but for the ends of the containers that are
-- open where it stops.
theorem Value.decode_exact {bytes : Bytes} {v : Value} :
    decode bytes = .ok v ↔ v.isContainer = true ∧ ∃ missing, Item 0 v (bytes ++ List.replicate missing 0) ∧
      (missing = 0 ∨ Unclosed 0 v bytes missing) := by
  constructor
  · intro decoded
    unfold decode at decoded
    split at decoded
    · cases decoded
    · rename_i w read
      cases decoded
      obtain ⟨taken, rfl, ⟨container, item⟩ | ⟨-, missing, cut⟩⟩ := read_sound read
      · refine ⟨container, 0, ?_, .inl rfl⟩
        rw [List.append_nil, List.replicate_zero, List.append_nil]
        exact item
      · rw [List.append_nil]
        exact ⟨cut.isContainer, missing, cut.closed, .inr cut⟩
    · cases decoded
  · rintro ⟨container, missing, item, rfl | cut⟩
    · have read := item.read container []
      rw [List.append_nil, List.replicate_zero, List.append_nil] at read
      unfold decode
      rw [read]
    · unfold decode
      rw [cut.read]

-- Five in two bytes, a short text with a long length, and two containers open at the end.
example : Value.decode [2, 0x17, 0, 5, 13, 0, 0, 1, 97, 1] = .ok (.list [.long 5, .string "a", .map []]) := by
  cbv

end FramedRpc
