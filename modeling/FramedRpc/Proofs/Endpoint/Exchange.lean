import FramedRpc.Proofs.Endpoint.Party
import FramedRpc.Proofs.Frame.Chunks
import FramedRpc.Transport.Pipe

namespace FramedRpc

structure Exchange where
  left : Party
  right : Party
  now : Instant

theorem Side.eq_or_other (side k : Side) : k = side ∨ k = side.other := by
  cases side <;> cases k <;> simp [Side.other]

theorem Side.other_other (side : Side) : side.other.other = side := by
  cases side <;> rfl

namespace Exchange

def party (s : Exchange) : Side → Party
  | .left => s.left
  | .right => s.right

def put (s : Exchange) (side : Side) (p : Party) : Exchange :=
  match side with
  | .left => { s with left := p }
  | .right => { s with right := p }

@[simp] theorem party_put (s : Exchange) (side : Side) (p : Party) : (s.put side p).party side = p := by
  cases side <;> rfl

@[simp] theorem party_put_other (s : Exchange) (side : Side) (p : Party) :
    (s.put side p).party side.other = s.party side.other := by
  cases side <;> rfl

@[simp] theorem now_put (s : Exchange) (side : Side) (p : Party) : (s.put side p).now = s.now := by
  cases side <;> rfl

def start (config : EndpointConfig) (tables : Side → HandlerTable) : Exchange :=
  ⟨.new config (tables .left), .new config (tables .right), 0⟩

def inFlight (s : Exchange) (side : Side) : Bytes := (s.party side.other).written.drop (s.party side).taken

def Quiet (s : Exchange) : Prop := ∀ side, s.inFlight side = []

inductive Move where
  | pass (time : Instant)
  | call (side : Side) (typeId : Nat) (content : Value) (o : CallOptions)
  -- So many of the bytes on their way to a side come in.
  | feed (side : Side) (count : Nat)

def Legal (s : Exchange) : Move → Prop
  | .pass time => s.now ≤ time
  | .call _ _ _ o => o.expectsResponse = true
  | .feed side count => 0 < count ∧ count ≤ (s.inFlight side).length

def after (s : Exchange) : Move → Exchange
  | .pass time => { s with now := time }
  | .call side typeId content o => s.put side ((s.party side).call typeId content o s.now)
  | .feed side count => s.put side ((s.party side).feed ((s.inFlight side).take count))

inductive Reached (config : EndpointConfig) (tables : Side → HandlerTable) : Exchange → Prop where
  | start : Reached config tables (.start config tables)
  | step {s : Exchange} (reached : Reached config tables s) (move : Move) (legal : s.Legal move) :
    Reached config tables (s.after move)

def Run (s : Exchange) : List Move → Prop
  | [] => True
  | move :: moves => s.Legal move ∧ (s.after move).Run moves

theorem Reached.run {config : EndpointConfig} {tables : Side → HandlerTable} {s : Exchange} {moves : List Move}
    (reached : Reached config tables s) (run : s.Run moves) : Reached config tables (moves.foldl after s) := by
  induction moves generalizing s with
  | nil => exact reached
  | cons move moves ih => exact ih (reached.step move run.1) run.2

end Exchange

-- What came in at a side is what a new deframer makes of that part of the stream.
structure Linked (limit : Nat) (reader writer : Party) : Prop where
  within : reader.taken ≤ writer.written.length
  deframed : (Deframer.new limit).feed (writer.written.take reader.taken) =
    (reader.endpoint.deframer, reader.met)

structure Exchange.Sound (config : EndpointConfig) (tables : Side → HandlerTable) (s : Exchange) : Prop where
  accounts : ∀ side, ∃ sent, Accounts (tables side) config.frame.limit s.now (s.party side) sent
  linked : ∀ side, Linked config.frame.limit (s.party side) (s.party side.other)

variable {config : EndpointConfig} {tables : Side → HandlerTable} {s : Exchange} {limit : Nat} {now : Instant}
  {table : HandlerTable} {reader writer : Party} {sent : List Packet}

theorem Accounts.feed_written {p : Party} (accounts : Accounts table limit now p sent) :
    ((Deframer.new limit).feed p.written).2 = sent := by
  obtain ⟨frames, wired, packed⟩ := accounts.wire
  have written : p.written = frames.flatten := by
    unfold Party.written
    rw [wired]
  have fits : ∀ packet ∈ sent, ∀ content, Frame.encodeContent packet.content = .ok content →
      content.length ≤ limit :=
    fun packet member => Value.length_le_of_fits (accounts.admissible packet member).1
  rw [written]
  exact (Deframer.feed_frames rfl packed fits fun packet member => (accounts.admissible packet member).2).1

namespace Linked

theorem new (config : EndpointConfig) (table table' : HandlerTable) :
    Linked config.frame.limit (.new config table) (.new config table') where
  within := Nat.le_refl 0
  deframed := by
    show (Deframer.new config.frame.limit).feed [] = _
    rw [Deframer.feed]
    rfl

theorem met_isPrefix (linked : Linked limit reader writer) (accounts : Accounts table limit now writer sent) :
    reader.met <+: sent := by
  have whole := accounts.feed_written
  rw [← List.take_append_drop reader.taken writer.written, Deframer.feed_append, linked.deframed] at whole
  exact ⟨_, whole⟩

theorem met_eq (linked : Linked limit reader writer) (accounts : Accounts table limit now writer sent)
    (nothing : writer.written.drop reader.taken = []) : reader.met = sent := by
  have whole := accounts.feed_written
  have read := linked.deframed
  rw [← List.append_nil (writer.written.take reader.taken), ← nothing, List.take_append_drop] at read
  rw [read] at whole
  exact whole

theorem writes (linked : Linked limit reader writer) {later : Party} {bytes : Bytes}
    (extends_ : later.written = writer.written ++ bytes) : Linked limit reader later where
  within := by
    rw [extends_, List.length_append]
    exact Nat.le_add_right_of_le linked.within
  deframed := by
    rw [extends_, List.take_append_of_le_length linked.within]
    exact linked.deframed

theorem read (linked : Linked limit reader writer) {bytes : Bytes} (came : bytes <+: writer.written.drop reader.taken) :
    Linked limit { reader.read bytes with met := reader.met ++ (reader.endpoint.deframer.feed bytes).2 } writer := by
  obtain ⟨rest, split⟩ := came
  have within := linked.within
  have length := congrArg List.length split
  rw [List.length_append, List.length_drop] at length
  refine ⟨?_, ?_⟩
  · show reader.taken + bytes.length ≤ writer.written.length
    omega
  · show (Deframer.new limit).feed (writer.written.take (reader.taken + bytes.length)) = _
    rw [List.take_add, ← split, List.take_left, Deframer.feed_append, linked.deframed]
    rfl

end Linked

namespace Exchange

namespace Sound

theorem start (config : EndpointConfig) (tables : Side → HandlerTable) :
    Sound config tables (.start config tables) := by
  constructor
  · intro side
    cases side
    · exact ⟨[], .new config (tables .left) 0⟩
    · exact ⟨[], .new config (tables .right) 0⟩
  · intro side
    cases side
    · exact .new config (tables .left) (tables .right)
    · exact .new config (tables .right) (tables .left)

variable (sound : Sound config tables s)
include sound

theorem linked_other (side : Side) : Linked config.frame.limit (s.party side.other) (s.party side) := by
  have linked := sound.linked side.other
  rw [side.other_other] at linked
  exact linked

theorem responses_isPrefix (side : Side) :
    (s.party side).met.filter (·.isResponse) <+:
      (s.party side).requests.filterMap (·.reply? (tables side.other) config.frame.limit) := by
  obtain ⟨sent, accounts⟩ := sound.accounts side
  obtain ⟨answers, others⟩ := sound.accounts side.other
  have back := ((sound.linked side).met_isPrefix others).filter (·.isResponse)
  have there := ((sound.linked_other side).met_isPrefix accounts).filterMap
    (·.reply? (tables side.other) config.frame.limit)
  rw [others.responses] at back
  rw [Packet.filterMap_reply? _ _ sent, accounts.requests] at there
  exact back.trans there

theorem quiet (quiet : s.Quiet) (side : Side) :
    (s.party side.other).met.filter (!·.isResponse) = (s.party side).requests ∧
      (s.party side).met.filter (·.isResponse) =
        (s.party side).requests.filterMap (·.reply? (tables side.other) config.frame.limit) := by
  obtain ⟨sent, accounts⟩ := sound.accounts side
  obtain ⟨answers, others⟩ := sound.accounts side.other
  have all := (sound.linked side).met_eq others (quiet side)
  have nothing := quiet side.other
  unfold inFlight at nothing
  rw [side.other_other] at nothing
  have received := (sound.linked_other side).met_eq accounts nothing
  refine ⟨?_, ?_⟩
  · rw [received, accounts.requests]
  · rw [all, others.responses, received, Packet.filterMap_reply? _ _ sent, accounts.requests]

theorem pass {time : Instant} (passed : s.now ≤ time) : Sound config tables { s with now := time } where
  accounts := by
    intro side
    obtain ⟨sent, accounts⟩ := sound.accounts side
    cases side
    · exact ⟨sent, accounts.pass passed⟩
    · exact ⟨sent, accounts.pass passed⟩
  linked := by
    intro side
    have linked := sound.linked side
    cases side
    · exact linked
    · exact linked

theorem put {side : Side} {sent more : List Packet} {p : Party}
    (accounts : Accounts (tables side) config.frame.limit s.now (s.party side) sent)
    (after : Accounts (tables side) config.frame.limit s.now p (sent ++ more))
    (linked : Linked config.frame.limit p (s.party side.other)) : Sound config tables (s.put side p) := by
  obtain ⟨bytes, extended⟩ := accounts.written_extends after
  have back := (sound.linked_other side).writes extended
  constructor
  · intro k
    rw [now_put]
    rcases side.eq_or_other k with rfl | rfl
    · rw [party_put]
      exact ⟨_, after⟩
    · rw [party_put_other]
      exact sound.accounts side.other
  · intro k
    rcases side.eq_or_other k with rfl | rfl
    · rw [party_put, party_put_other]
      exact linked
    · rw [side.other_other, party_put, party_put_other]
      exact back

theorem id_of_response {side : Side} {packet : Packet} (member : packet ∈ (s.party side).met)
    (response : packet.isResponse = true) : packet.requestId ∈ (s.party side).correlator.ids := by
  have found := (sound.responses_isPrefix side).subset (List.mem_filter.mpr ⟨member, response⟩)
  obtain ⟨request, asked, owed⟩ := List.mem_filterMap.mp found
  obtain ⟨-, -, v, -, rfl⟩ := Packet.reply?_eq_some.mp owed
  obtain ⟨ticket, id, -⟩ := Party.exists_of_mem_requests asked
  exact List.mem_of_getElem? id

theorem call (small : config.frame.limit ≤ Frame.maxContentLength) (side : Side)
    (room : (s.party side).attempts < Frame.maxRequestId) {o : CallOptions} (expects : o.expectsResponse = true)
    (typeId : Nat) (content : Value) :
    Sound config tables (s.put side ((s.party side).call typeId content o s.now)) := by
  obtain ⟨sent, accounts⟩ := sound.accounts side
  have linked := sound.linked side
  obtain ⟨more, after, deframer⟩ := accounts.call small room (fun _ => sound.id_of_response) expects typeId content
  refine sound.put accounts after ⟨?_, ?_⟩
  · rw [Party.taken_call]
    exact linked.within
  · rw [Party.taken_call, Party.met_call, deframer]
    exact linked.deframed

theorem feed (silent : ∀ side, (tables side).Silent) (small : config.frame.limit ≤ Frame.maxContentLength)
    (side : Side) {bytes : Bytes} (came : bytes <+: s.inFlight side) :
    Sound config tables (s.put side ((s.party side).feed bytes)) := by
  obtain ⟨sent, accounts⟩ := sound.accounts side
  have read := (sound.linked side).read came
  obtain ⟨replies, after, deframer⟩ := accounts.feed (silent side) small bytes
  refine sound.put accounts after ⟨read.within, ?_⟩
  rw [deframer]
  exact read.deframed

theorem after (silent : ∀ side, (tables side).Silent) (small : config.frame.limit ≤ Frame.maxContentLength)
    {move : Move} (legal : s.Legal move) (few : ∀ side, ((s.after move).party side).attempts ≤ Frame.maxRequestId) :
    Sound config tables (s.after move) := by
  cases move with
  | pass time => exact sound.pass legal
  | call side typeId content o =>
    have here := few side
    unfold Exchange.after at here
    rw [party_put, Party.attempts_call] at here
    exact sound.call small side here legal typeId content
  | feed side count => exact sound.feed silent small side (List.take_prefix count (s.inFlight side))

end Sound

theorem attempts_after (s : Exchange) (move : Move) (side : Side) :
    (s.party side).attempts ≤ ((s.after move).party side).attempts := by
  cases move with
  | pass time => cases side <;> exact Nat.le_refl _
  | call k typeId content o =>
    unfold after
    rcases k.eq_or_other side with rfl | rfl
    · rw [party_put, Party.attempts_call]
      exact Nat.le_succ _
    · exact Nat.le_of_eq (congrArg Party.attempts (s.party_put_other k _).symm)
  | feed k count =>
    unfold after
    rcases k.eq_or_other side with rfl | rfl
    · rw [party_put]
      exact Nat.le_refl _
    · exact Nat.le_of_eq (congrArg Party.attempts (s.party_put_other k _).symm)

theorem Reached.sound (reached : Reached config tables s) (silent : ∀ side, (tables side).Silent)
    (small : config.frame.limit ≤ Frame.maxContentLength)
    (few : ∀ side, (s.party side).attempts ≤ Frame.maxRequestId) : Sound config tables s := by
  induction reached with
  | start => exact .start config tables
  | step reached move legal ih =>
    have before := ih fun side => Nat.le_trans (attempts_after _ move side) (few side)
    exact before.after silent small legal few

theorem continues_after (s : Exchange) (move : Move) (side : Side) :
    (s.party side).correlator.Continues ((s.after move).party side).correlator := by
  cases move with
  | pass time => cases side <;> exact .refl _
  | call k typeId content o =>
    unfold after
    rcases k.eq_or_other side with rfl | rfl
    · rw [party_put, Party.correlator_call]
      exact Endpoint.call_continues _ typeId content o s.now
    · rw [party_put_other]
      exact .refl _
  | feed k count =>
    unfold after
    rcases k.eq_or_other side with rfl | rfl
    · rw [party_put]
      exact Endpoint.feed_continues _ _
    · rw [party_put_other]
      exact .refl _

end Exchange
end FramedRpc
