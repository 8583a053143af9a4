import Mathlib.Data.Option.Basic
import FramedRpc.Json.Value
import FramedRpc.Proofs.Json.Members
import FramedRpc.Proofs.Json.Reading

namespace FramedRpc

inductive Json.Step where
  | item (index : Nat)
  | member (name : String)

open Json (Step Term Tree Means MeansItems MeansMembers)

def Json.Term.child? : Term → Step → Option Term
  | .list items, .item index => items[index]?
  | .object members, .member name => (members.reverse.find? (·.1 = name)).map (·.2)
  | _, _ => none

def Json.Term.at? : Term → List Step → Option Term
  | w, [] => some w
  | w, step :: path => (w.child? step).bind (·.at? path)

def Value.child? (v : Value) : Step → Option Value
  | .item index => v.items?.bind (·[index]?)
  | .member name => v.get? name

def Value.at? : Value → List Step → Option Value
  | v, [] => some v
  | v, step :: path => (v.child? step).bind (·.at? path)

namespace Json

theorem MeansItems.item {items : List Term} {ts : List Tree} (each : MeansItems items ts) {index : Nat} {w : Term}
    (there : items[index]? = some w) : ∃ t, ts[index]? = some t ∧ Means w t := by
  induction items generalizing ts index with
  | nil => cases there
  | cons first rest ih =>
    cases each with
    | cons means others =>
      cases index with
      | zero =>
        cases there
        exact ⟨_, rfl, means⟩
      | succ index => exact ih others there

theorem MeansMembers.last {members : List (String × Term)} {ts : List (String × Tree)} (each : MeansMembers members ts)
    (name : String) : Option.Rel (fun m t => Means m.2 t.2) (members.reverse.find? (·.1 = name))
      (ts.reverse.find? (·.1 = name)) := by
  induction members generalizing ts with
  | nil =>
    cases each
    exact .none
  | cons first rest ih =>
    cases each with
    | @cons s w t _ ts means others =>
      have later := ih others
      rw [List.reverse_cons, List.reverse_cons, List.find?_append, List.find?_append]
      generalize rest.reverse.find? (·.1 = name) = a at later
      generalize ts.reverse.find? (·.1 = name) = b at later
      cases later with
      | some related => exact .some related
      | none =>
        by_cases same : s = name
        · simpa [same] using Option.Rel.some means
        · simp [same]

end Json

namespace Value

theorem ofJsonItems_item {ts : List Tree} {vs : List Value} (made : ofJsonItems ts = .ok vs) {index : Nat} {t : Tree}
    (there : ts[index]? = some t) : ∃ v, vs[index]? = some v ∧ ofJson t = .ok v := by
  induction ts generalizing vs index with
  | nil => cases there
  | cons first rest ih =>
    rw [ofJsonItems] at made
    split at made
    · cases made
    next v one =>
      obtain ⟨more, others, rfl⟩ := Json.map_ok made
      cases index with
      | zero =>
        cases there
        exact ⟨v, rfl, one⟩
      | succ index => exact ih others there

theorem ofJsonMembers_member {ts : List (String × Tree)} {entries : List (Value × Value)}
    (made : ofJsonMembers ts = .ok entries) {name : String} {m : String × Tree}
    (there : ts.find? (·.1 = name) = some m) : ∃ v, (Value.map entries).get? name = some v ∧ ofJson m.2 = .ok v := by
  induction ts generalizing entries with
  | nil => cases there
  | cons first rest ih =>
    rw [ofJsonMembers] at made
    split at made
    · cases made
    next v one =>
      obtain ⟨more, others, rfl⟩ := Json.map_ok made
      by_cases same : first.1 = name
      · simp only [same, List.find?_cons, decide_true, Option.some.injEq] at there
        subst there
        exact ⟨v, by simp [get?, asText?, same], one⟩
      · simp only [same, List.find?_cons, decide_false] at there
        obtain ⟨u, found, inner⟩ := ih others there
        refine ⟨u, ?_, inner⟩
        rw [← found]
        simp [get?, asText?, same]

end Value

variable {w : Term} {t : Tree} {v : Value}

theorem Json.Means.child (means : Means w t) (made : Value.ofJson t = .ok v) {step : Step} {inner : Term}
    (there : w.child? step = some inner) :
    ∃ t' u, Means inner t' ∧ Value.ofJson t' = .ok u ∧ v.child? step = some u := by
  cases means with
  | list each =>
    obtain ⟨vs, items, rfl⟩ := map_ok made
    cases step with
    | item index =>
      obtain ⟨t', placed, meant⟩ := each.item there
      obtain ⟨u, held, inside⟩ := Value.ofJsonItems_item items placed
      exact ⟨t', u, meant, inside, held⟩
    | member name => cases there
  | @object _ ts each =>
    obtain ⟨entries, members, rfl⟩ := map_ok made
    cases step with
    | item index => cases there
    | member name =>
      obtain ⟨m, named, rfl⟩ := Option.map_eq_some_iff.1 there
      have related := each.last name
      have kept := Tree.find?_foldl_insert name [] ts
      rw [named] at related
      generalize ts.reverse.find? (·.1 = name) = found at related kept
      cases related with
      | @some _ t' meant =>
        obtain ⟨u, held, inside⟩ := Value.ofJsonMembers_member members (kept.trans Option.some_or)
        exact ⟨t'.2, u, meant, inside, held⟩
  | number counts => cases counts <;> cases step <;> cases there
  | _ => cases step <;> cases there

theorem Json.Means.at (means : Means w t) (made : Value.ofJson t = .ok v) {path : List Step} {inner : Term}
    (there : w.at? path = some inner) :
    ∃ t' u, Means inner t' ∧ Value.ofJson t' = .ok u ∧ v.at? path = some u := by
  induction path generalizing w t v with
  | nil =>
    cases there
    exact ⟨t, v, means, made, rfl⟩
  | cons step path ih =>
    obtain ⟨middle, first, later⟩ := Option.bind_eq_some_iff.1 there
    obtain ⟨t', u, meant, inside, reached⟩ := means.child made first
    obtain ⟨last, value, meaning, held, behind⟩ := ih meant inside later
    exact ⟨last, value, meaning, held, by rw [Value.at?, reached]; exact behind⟩

end FramedRpc
