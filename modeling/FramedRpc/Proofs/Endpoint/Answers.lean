import Mathlib
import FramedRpc.Proofs.Endpoint.Exchange

namespace FramedRpc
namespace Exchange

variable {config : EndpointConfig} {tables : Side → HandlerTable} {s : Exchange}

-- What becomes of the calls of a side when the other side answers from a table.
structure Correlated (table : HandlerTable) (limit : Nat) (s : Exchange) (side : Side) : Prop where
  -- A call whose content fits and whose deadline the clock can tell is begun.
  begins : ∀ typeId content (o : CallOptions), o.expectsResponse = true → o.conflict? = none →
    typeId ≤ Frame.maxTypeId → content.fits limit = true →
    (∀ after, o.expiryUnder (s.party side).endpoint.config = some after → Instant.after? s.now after ≠ none) →
    (s.party side).attempts < Frame.maxRequestId →
      ((s.after (.call side typeId content o)).party side).issued = (s.party side).issued ++ [(typeId, content)]
  recorded : (s.party side).correlator.calls.length = (s.party side).issued.length
  distinct : (s.party side).correlator.ids.Nodup
  -- Responses come in the order of the calls, and no call has two.
  responses : (s.party side).met.filter (·.isResponse) <+:
    (s.party side).requests.filterMap (·.reply? table limit)
  once : (((s.party side).met.filter (·.isResponse)).map (·.requestId)).Nodup
  -- A call is resolved by the response with its id, and that is the answer to it.
  value : ∀ ticket call typeId content, (s.party side).Begun ticket call typeId content →
    ∀ v, call.slot = .resolved v → table.answer? limit typeId content = some v ∧
      Packet.response typeId call.requestId v ∈ (s.party side).met
  pending : ∀ ticket call typeId content, (s.party side).Begun ticket call typeId content →
    ((call.requestId, ticket) ∈ (s.party side).correlator.pending ↔ call.slot = .waiting)
  entries : ∀ entry ∈ (s.party side).correlator.pending, ∃ call typeId content,
    (s.party side).Begun entry.2 call typeId content ∧ call.requestId = entry.1
  -- Once nothing is on its way, the calls that wait are those that the other side does not answer.
  settled : s.Quiet → ∀ ticket call typeId content, (s.party side).Begun ticket call typeId content →
    call.GivenUp s.now ∨
      match table.answer? limit typeId content with
      | some v => call.slot = .resolved v
      | none => call.slot = .waiting
  -- Then every request has been delivered once, and answered once if it is owed an answer, in the order of the calls.
  delivered : s.Quiet → (s.party side.other).met.filter (!·.isResponse) = (s.party side).requests
  answered : s.Quiet → (s.party side).met.filter (·.isResponse) =
    (s.party side).requests.filterMap (·.reply? table limit)
  kept : ∀ move, (s.party side).correlator.Continues ((s.after move).party side).correlator

namespace Sound

variable (sound : Sound config tables s) {side : Side}
include sound

theorem answer_of_response {packet : Packet} (member : packet ∈ (s.party side).met)
    (response : packet.isResponse = true) {ticket : Nat} {call : PendingCall} {typeId : Nat} {content : Value}
    (begun : (s.party side).Begun ticket call typeId content) (own : packet.requestId = call.requestId) :
    (tables side.other).answer? config.frame.limit typeId content = some packet.content ∧
      packet = .response typeId call.requestId packet.content := by
  obtain ⟨sent, accounts⟩ := sound.accounts side
  obtain ⟨used, -, orderly⟩ := accounts.orderly
  have found := (sound.responses_isPrefix side).subset (List.mem_filter.mpr ⟨member, response⟩)
  obtain ⟨request, asked, owed⟩ := List.mem_filterMap.mp found
  obtain ⟨-, -, v, answered, rfl⟩ := Packet.reply?_eq_some.mp owed
  obtain ⟨other, id, issue⟩ := Party.exists_of_mem_requests asked
  have same : other = ticket := by
    have here := Correlator.ids_getElem? begun.1
    rw [← own] at here
    have short : other < (s.party side).correlator.ids.length := (List.getElem?_eq_some_iff.mp id).1
    exact (List.getElem?_inj short orderly.distinct).mp (id.trans here.symm)
  subst same
  cases begun.2.symm.trans issue
  rw [← own]
  exact ⟨answered, rfl⟩

theorem value {ticket : Nat} {call : PendingCall} {typeId : Nat} {content : Value}
    (begun : (s.party side).Begun ticket call typeId content) {v : Value} (resolved : call.slot = .resolved v) :
    (tables side.other).answer? config.frame.limit typeId content = some v ∧
      Packet.response typeId call.requestId v ∈ (s.party side).met := by
  obtain ⟨sent, accounts⟩ := sound.accounts side
  have follows := accounts.follows ticket call begun.1
  unfold PendingCall.Follows at follows
  rw [resolved] at follows
  obtain ⟨packet, member, response, own, rfl⟩ := follows
  obtain ⟨answered, shape⟩ := sound.answer_of_response member response begun own
  rw [← shape]
  exact ⟨answered, member⟩

theorem settled (quiet : s.Quiet) {ticket : Nat} {call : PendingCall} {typeId : Nat} {content : Value}
    (begun : (s.party side).Begun ticket call typeId content) :
    call.GivenUp s.now ∨
      match (tables side.other).answer? config.frame.limit typeId content with
      | some v => call.slot = .resolved v
      | none => call.slot = .waiting := by
  obtain ⟨sent, accounts⟩ := sound.accounts side
  obtain ⟨used, -, orderly⟩ := accounts.orderly
  have follows := accounts.follows ticket call begun.1
  unfold PendingCall.Follows at follows
  cases slot : call.slot with
  | waiting =>
    rw [slot] at follows
    right
    cases answered : (tables side.other).answer? config.frame.limit typeId content with
    | none => rfl
    | some v =>
      -- The answer has come in, and a call that waits has met no response.
      have id := (orderly.range _ (List.mem_of_getElem? (Correlator.ids_getElem? begun.1))).1
      have owed : (Packet.request typeId call.requestId content).reply? (tables side.other) config.frame.limit =
          some (.response typeId call.requestId v) :=
        Packet.reply?_eq_some.mpr ⟨rfl, Nat.ne_of_gt id, v, answered, rfl⟩
      have sentBack := List.mem_filterMap.mpr ⟨_, begun.request, owed⟩
      rw [← (sound.quiet quiet side).2] at sentBack
      exact absurd rfl (follows _ (List.mem_filter.mp sentBack).1 rfl)
  | resolved v =>
    right
    rw [(sound.value begun slot).1]
  | expired =>
    rw [slot] at follows
    exact .inl ⟨slot, follows⟩
  | taken =>
    rw [slot] at follows
    exact follows.elim
  | interrupted =>
    rw [slot] at follows
    exact follows.elim

theorem once : (((s.party side).met.filter (·.isResponse)).map (·.requestId)).Nodup := by
  obtain ⟨sent, accounts⟩ := sound.accounts side
  obtain ⟨used, -, orderly⟩ := accounts.orderly
  have owed := Packet.replies_sublist (tables side.other) config.frame.limit (s.party side).requests
  rw [accounts.ids_requests] at owed
  exact (orderly.distinct.sublist owed).sublist ((sound.responses_isPrefix side).map _).sublist

theorem begins (small : config.frame.limit ≤ Frame.maxContentLength) {typeId : Nat} {content : Value} {o : CallOptions}
    (expects : o.expectsResponse = true) (coherent : o.conflict? = none) (type : typeId ≤ Frame.maxTypeId)
    (fits : content.fits config.frame.limit = true)
    (inTime : ∀ after, o.expiryUnder (s.party side).endpoint.config = some after →
      Instant.after? s.now after ≠ none)
    (room : (s.party side).attempts < Frame.maxRequestId) :
    ((s.after (.call side typeId content o)).party side).issued = (s.party side).issued ++ [(typeId, content)] := by
  obtain ⟨sent, accounts⟩ := sound.accounts side
  obtain ⟨frames, wired, -⟩ := accounts.wire
  obtain ⟨used, given, orderly⟩ := accounts.orderly
  unfold Exchange.after
  rw [party_put]
  unfold Party.call
  rcases Endpoint.call_wire wired (accounts.limited ▸ small) orderly (Nat.lt_of_le_of_lt given room) expects typeId
      content s.now with ⟨why, refused, -⟩ | ⟨⟨after, limited, late⟩, -⟩ | ⟨frame, -, -, -, begun⟩
  · rw [← accounts.limited] at fits
    obtain ⟨body, encoded⟩ := Value.fits_exact.mp fits
    have prepared := Endpoint.prepare_eq_ok.mpr ⟨coherent, type, Endpoint.encodeContent_eq_ok.mpr encoded⟩
    rw [prepared] at refused
    cases refused
  · exact absurd late (inTime after limited)
  · rw [begun]

end Sound

-- In every state of every run with no more calls than there are ids.
theorem Reached.calls_correlated (reached : Reached config tables s) (silent : ∀ side, (tables side).Silent)
    (small : config.frame.limit ≤ Frame.maxContentLength)
    (few : ∀ side, (s.party side).attempts ≤ Frame.maxRequestId) (side : Side) :
    Correlated (tables side.other) config.frame.limit s side := by
  have sound := reached.sound silent small few
  obtain ⟨sent, accounts⟩ := sound.accounts side
  obtain ⟨used, -, orderly⟩ := accounts.orderly
  have recorded : (s.party side).correlator.calls.length = (s.party side).issued.length := by
    have same := accounts.recorded
    unfold Correlator.ids at same
    rw [List.length_map] at same
    exact same
  refine
    { begins := fun typeId content o => sound.begins small
      recorded
      distinct := orderly.distinct
      responses := sound.responses_isPrefix side
      once := sound.once
      value := fun ticket call typeId content begun v resolved => sound.value begun resolved
      pending := ?pending
      entries := ?entries
      settled := fun quiet ticket call typeId content begun => sound.settled quiet begun
      delivered := fun quiet => (sound.quiet quiet side).1
      answered := fun quiet => (sound.quiet quiet side).2
      kept := fun move => s.continues_after move side }
  case pending =>
    intro ticket call typeId content begun
    constructor
    · intro member
      obtain ⟨found, there, -, waiting⟩ := orderly.entries _ member
      cases begun.1.symm.trans there
      exact waiting
    · exact accounts.tracked ticket call begun.1
  case entries =>
    intro entry member
    obtain ⟨call, there, own, -⟩ := orderly.entries entry member
    have short : entry.2 < (s.party side).issued.length :=
      recorded ▸ (List.getElem?_eq_some_iff.mp there).1
    exact ⟨call, _, _, ⟨there, List.getElem?_eq_getElem short⟩, own⟩

-- The stream to the right is cut within the frame of the request, whose handler breaks down; nobody answers the
-- other one.
theorem calls_correlated_across_cut :
    let tables : Side → HandlerTable := fun _ => .ofList [(1, ⟨fun _ => .fail "down", false⟩), (2, ⟨.echo, true⟩)]
    let moves : List Move := [.call .left 1 .null .blockingCall, .call .right 2 .null .nonBlockingCall,
      .feed .right 5, .feed .left 13, .feed .right 8, .feed .left 13]
    let s := moves.foldl after (start .standard tables)
    Reached .standard tables s ∧ s.Quiet ∧
      s.left.correlator.calls.map (·.slot) = [.resolved .null] ∧
      s.right.correlator.calls.map (·.slot) = [.waiting] ∧
      ∀ side, Correlated (tables side.other) EndpointConfig.standard.frame.limit s side := by
  intro tables moves s
  have run : (start .standard tables).Run moves :=
    ⟨rfl, rfl, ⟨by decide, by cbv⟩, ⟨by decide, by cbv⟩, ⟨by decide, by cbv⟩, ⟨by decide, by cbv⟩, trivial⟩
  have reached : Reached .standard tables s := Reached.start.run run
  have silent : ∀ side, (tables side).Silent := by
    intro side
    apply HandlerTable.silent_of_slots
    intro handler member
    have slots : (tables side).slots = [none, some ⟨fun _ => .fail "down", false⟩, some ⟨.echo, true⟩] := rfl
    rw [slots] at member
    simp only [List.mem_cons, reduceCtorEq, Option.some.injEq, List.not_mem_nil, or_false, false_or] at member
    rcases member with rfl | rfl
    · exact fun _ => rfl
    · exact fun _ => rfl
  refine ⟨reached, ?_, ?_, ?_, reached.calls_correlated silent (by decide) ?_⟩
  · intro side
    cases side
    · cbv
    · cbv
  · cbv
  · cbv
  · intro side
    cases side
    · cbv
    · cbv

-- A call that is due at once is given up when the next one begins, and so it waits no more although the other side
-- has no handler for it.
theorem given_up_not_pending :
    let tables : Side → HandlerTable := fun _ => .empty
    let atOnce : CallOptions := ⟨false, true, false, some 0⟩
    let moves : List Move := [.call .left 5 .null atOnce, .call .left 5 .null .nonBlockingCall, .feed .right 26]
    let s := moves.foldl after (start .standard tables)
    Reached .standard tables s ∧ (∀ side, (tables side).Silent) ∧
      (∀ side, (s.party side).attempts ≤ Frame.maxRequestId) ∧ s.Quiet ∧
      s.left.Begun 0 ⟨1, some 0, some 0, .expired⟩ 5 .null ∧
      (tables .right).answer? EndpointConfig.standard.frame.limit 5 .null = none ∧
      (1, 0) ∉ s.left.correlator.pending := by
  intro tables atOnce moves s
  have run : (start .standard tables).Run moves := ⟨rfl, rfl, ⟨by decide, by cbv⟩, trivial⟩
  have silent : ∀ side, (tables side).Silent :=
    fun _ => HandlerTable.silent_of_slots fun _ member => absurd member List.not_mem_nil
  refine ⟨Reached.start.run run, silent, ?_, ?_, ⟨?_, ?_⟩, rfl, ?_⟩
  · intro side
    cases side
    · cbv
    · cbv
  · intro side
    cases side
    · cbv
    · cbv
  · cbv
  · cbv
  · have waiting : s.left.correlator.pending = [(2, 1)] := by cbv
    rw [waiting]
    decide

end Exchange
end FramedRpc
