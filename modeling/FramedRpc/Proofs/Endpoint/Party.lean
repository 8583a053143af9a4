import FramedRpc.Proofs.Endpoint.Dispatch

namespace FramedRpc

structure Party where
  endpoint : Endpoint Wire
  attempts : Nat
  -- Type and content of the calls that were begun, by ticket.
  issued : List (Nat × Value)
  -- How many of the bytes that the other side wrote have come in.
  taken : Nat
  met : List Packet

namespace Party

def new (config : EndpointConfig) (table : HandlerTable) : Party :=
  ⟨((Endpoint.new config).bindHandlers table).attach ⟨[]⟩, 0, [], 0, []⟩

abbrev correlator (p : Party) : Correlator := p.endpoint.correlator

def written (p : Party) : Bytes :=
  match p.endpoint.transport with
  | none => []
  | some wire => wire.frames.flatten

def requests (p : Party) : List Packet :=
  List.zipWith (fun id issue => .request issue.1 id issue.2) p.correlator.ids p.issued

def Begun (p : Party) (ticket : Nat) (call : PendingCall) (typeId : Nat) (content : Value) : Prop :=
  p.correlator.calls[ticket]? = some call ∧ p.issued[ticket]? = some (typeId, content)

def call (p : Party) (typeId : Nat) (content : Value) (o : CallOptions) (now : Instant) : Party :=
  match p.endpoint.call typeId content o now with
  | (.ok _, endpoint) => { p with endpoint, attempts := p.attempts + 1, issued := p.issued ++ [(typeId, content)] }
  | (.error _, endpoint) => { p with endpoint, attempts := p.attempts + 1 }

def feed (p : Party) (bytes : Bytes) : Party :=
  { p with
    endpoint := p.endpoint.feed bytes
    taken := p.taken + bytes.length
    met := p.met ++ (p.endpoint.deframer.feed bytes).2 }

def deliver (p : Party) (packet : Packet) : Party :=
  { p with endpoint := p.endpoint.deliver packet, met := p.met ++ [packet] }

def read (p : Party) (bytes : Bytes) : Party :=
  { p with
    endpoint := { p.endpoint with deframer := (p.endpoint.deframer.feed bytes).1 }
    taken := p.taken + bytes.length }

theorem feed_eq (p : Party) (bytes : Bytes) :
    p.feed bytes = (p.endpoint.deframer.feed bytes).2.foldl deliver (p.read bytes) := by
  have delivered : ∀ (packets : List Packet) (p : Party), packets.foldl deliver p =
      { p with endpoint := packets.foldl Endpoint.deliver p.endpoint, met := p.met ++ packets } := by
    intro packets
    induction packets with
    | nil => intro p; rw [List.append_nil]; rfl
    | cons packet others ih =>
      intro p
      rw [List.foldl_cons, ih]
      simp only [deliver, List.foldl_cons, List.append_assoc, List.singleton_append]
  rw [delivered]
  rfl

theorem attempts_call (p : Party) (typeId : Nat) (content : Value) (o : CallOptions) (now : Instant) :
    (p.call typeId content o now).attempts = p.attempts + 1 := by
  unfold call
  split <;> rfl

theorem taken_call (p : Party) (typeId : Nat) (content : Value) (o : CallOptions) (now : Instant) :
    (p.call typeId content o now).taken = p.taken := by
  unfold call
  split <;> rfl

theorem met_call (p : Party) (typeId : Nat) (content : Value) (o : CallOptions) (now : Instant) :
    (p.call typeId content o now).met = p.met := by
  unfold call
  split <;> rfl

theorem correlator_call (p : Party) (typeId : Nat) (content : Value) (o : CallOptions) (now : Instant) :
    (p.call typeId content o now).correlator = (p.endpoint.call typeId content o now).2.correlator := by
  unfold call
  split
  · rename_i begun
    rw [begun]
  · rename_i refused
    rw [refused]

theorem Begun.request {p : Party} {ticket : Nat} {call : PendingCall} {typeId : Nat} {content : Value}
    (begun : p.Begun ticket call typeId content) : .request typeId call.requestId content ∈ p.requests := by
  refine List.mem_of_getElem? (i := ticket) ?_
  unfold requests
  rw [List.getElem?_zipWith, Correlator.ids_getElem? begun.1, begun.2]

theorem exists_of_mem_requests {p : Party} {packet : Packet} (member : packet ∈ p.requests) :
    ∃ ticket : Nat, p.correlator.ids[ticket]? = some packet.requestId ∧
      p.issued[ticket]? = some (packet.typeId, packet.content) := by
  obtain ⟨ticket, there⟩ := List.mem_iff_getElem?.mp member
  unfold requests at there
  rw [List.getElem?_zipWith] at there
  refine ⟨ticket, ?_⟩
  cases id : p.correlator.ids[ticket]? with
  | none =>
    rw [id] at there
    cases there
  | some requestId =>
    cases issue : p.issued[ticket]? with
    | none =>
      rw [id, issue] at there
      cases there
    | some begun =>
      rw [id, issue] at there
      cases there
      exact ⟨rfl, rfl⟩

end Party

-- A call that was due got no answer.
def PendingCall.GivenUp (call : PendingCall) (now : Instant) : Prop :=
  call.slot = .expired ∧ call.isDue now = true

-- The outcome of a call is what the packets and the clock say.
def PendingCall.Follows (call : PendingCall) (now : Instant) (met : List Packet) : Prop :=
  match call.slot with
  | .waiting => ∀ p ∈ met, p.isResponse = true → p.requestId ≠ call.requestId
  | .resolved v => ∃ p ∈ met, p.isResponse = true ∧ p.requestId = call.requestId ∧ p.content = v
  | .expired => call.isDue now = true
  | .taken | .interrupted => False

namespace PendingCall.Follows

variable {call : PendingCall} {now later : Instant} {met : List Packet} {packet : Packet}

theorem pass (follows : call.Follows now met) (passed : now ≤ later) : call.Follows later met := by
  unfold Follows at follows ⊢
  cases slot : call.slot with
  | expired =>
    rw [slot] at follows
    exact isDue_mono follows passed
  | _ =>
    rw [slot] at follows
    exact follows

theorem more (follows : call.Follows now met)
    (other : packet.isResponse = true → call.slot = .waiting → call.requestId ≠ packet.requestId) :
    call.Follows now (met ++ [packet]) := by
  unfold Follows at follows ⊢
  cases slot : call.slot with
  | waiting =>
    rw [slot] at follows
    intro p member response
    rcases List.mem_append.mp member with old | new
    · exact follows p old response
    · cases List.mem_singleton.mp new
      exact Ne.symm (other response slot)
  | resolved v =>
    rw [slot] at follows
    obtain ⟨p, member, found⟩ := follows
    exact ⟨p, List.mem_append_left [packet] member, found⟩
  | _ =>
    rw [slot] at follows
    exact follows

theorem answered (response : packet.isResponse = true) (own : call.requestId = packet.requestId) :
    Follows { call with slot := .resolved packet.content } now (met ++ [packet]) :=
  ⟨packet, List.mem_append_right met (List.mem_singleton_self packet), response, own.symm, rfl⟩

theorem expired (due : call.isDue now = true) : Follows { call with slot := .expired } now met := due

end PendingCall.Follows

-- What a party has sent: the requests of its calls, and the responses that the requests before it are owed.
structure Accounts (table : HandlerTable) (limit : Nat) (now : Instant) (p : Party) (sent : List Packet) : Prop where
  limited : p.endpoint.config.frame.limit = limit
  handlers : p.endpoint.handlers = some table
  wire : ∃ frames, p.endpoint.transport = some ⟨frames⟩ ∧ sent.mapM Packet.encode = .ok frames
  admissible : ∀ packet ∈ sent, packet.Admissible limit
  requests : sent.filter (!·.isResponse) = p.requests
  responses : sent.filter (·.isResponse) = p.met.filterMap (·.reply? table limit)
  orderly : ∃ used ≤ p.attempts, p.correlator.Orderly used
  tracked : p.correlator.Tracked
  recorded : p.correlator.ids.length = p.issued.length
  follows : ∀ (ticket : Nat) (call : PendingCall), p.correlator.calls[ticket]? = some call → call.Follows now p.met

namespace Accounts

variable {table : HandlerTable} {limit : Nat} {now later : Instant} {p : Party} {sent : List Packet}

theorem new (config : EndpointConfig) (table : HandlerTable) (now : Instant) :
    Accounts table config.frame.limit now (.new config table) [] where
  limited := rfl
  handlers := rfl
  wire := ⟨[], rfl, rfl⟩
  admissible := fun _ member => nomatch member
  requests := rfl
  responses := rfl
  orderly := ⟨0, Nat.le_refl 0, Correlator.new_orderly⟩
  tracked := Correlator.new_tracked
  recorded := rfl
  follows := fun _ _ there => nomatch there

theorem read (accounts : Accounts table limit now p sent) (bytes : Bytes) :
    Accounts table limit now (p.read bytes) sent :=
  { accounts with }

theorem pass (accounts : Accounts table limit now p sent) (passed : now ≤ later) :
    Accounts table limit later p sent := by
  refine { accounts with follows := ?_ }
  intro ticket call there
  exact (accounts.follows ticket call there).pass passed

theorem ids_requests (accounts : Accounts table limit now p sent) :
    p.requests.map (·.requestId) = p.correlator.ids := by
  have recorded := accounts.recorded
  unfold Party.requests
  generalize p.correlator.ids = ids at recorded ⊢
  generalize p.issued = issued at recorded ⊢
  induction ids generalizing issued with
  | nil => rfl
  | cons id others ih =>
    cases issued with
    | nil => cases recorded
    | cons begun more => exact congrArg (id :: ·) (ih more (Nat.succ.inj recorded))

theorem written_extends {q : Party} {more : List Packet} (accounts : Accounts table limit now p sent)
    (after : Accounts table limit later q (sent ++ more)) : ∃ bytes, q.written = p.written ++ bytes := by
  obtain ⟨frames, wired, packed⟩ := accounts.wire
  obtain ⟨all, rewired, repacked⟩ := after.wire
  rw [List.mapM_append, packed] at repacked
  cases added : more.mapM Packet.encode with
  | error why =>
    rw [added] at repacked
    cases repacked
  | ok new =>
    rw [added] at repacked
    cases repacked
    unfold Party.written
    rw [wired, rewired]
    exact ⟨new.flatten, List.flatten_append⟩

theorem deliver (accounts : Accounts table limit now p sent) (silent : table.Silent)
    (small : limit ≤ Frame.maxContentLength) {packet : Packet} (type : packet.typeId ≤ Frame.maxTypeId)
    (id : packet.requestId ≤ Frame.maxRequestId) :
    Accounts table limit now (p.deliver packet) (sent ++ (packet.reply? table limit).toList) ∧
      (p.deliver packet).endpoint.deframer = p.endpoint.deframer := by
  obtain ⟨frames, wired, packed⟩ := accounts.wire
  obtain ⟨used, given, orderly⟩ := accounts.orderly
  have within : p.endpoint.config.frame.limit ≤ Frame.maxContentLength := accounts.limited ▸ small
  obtain ⟨new, replied, delivered⟩ := Endpoint.deliver_wire wired within accounts.handlers silent type id
  rw [accounts.limited] at replied
  have correlator : (p.deliver packet).correlator =
      if packet.isResponse then (p.correlator.resolve packet.requestId packet.content).2 else p.correlator :=
    congrArg Endpoint.correlator delivered
  have ids : (p.deliver packet).correlator.ids = p.correlator.ids := by
    rw [correlator]
    split
    · exact p.correlator.ids_resolve packet.requestId packet.content
    · rfl
  obtain ⟨responses, requests⟩ := packet.filter_reply? table limit
  refine ⟨?_, (congrArg Endpoint.deframer delivered).trans rfl⟩
  refine
    { limited := (congrArg (·.config.frame.limit) delivered).trans accounts.limited
      handlers := (congrArg Endpoint.handlers delivered).trans accounts.handlers
      wire := ⟨frames ++ new, congrArg Endpoint.transport delivered, ?wire⟩
      admissible := ?admissible
      requests := ?requests
      responses := ?responses
      orderly := ⟨used, given, ?orderly⟩
      tracked := ?tracked
      recorded := (congrArg List.length ids).trans accounts.recorded
      follows := ?follows }
  case wire =>
    rw [List.mapM_append, packed, replied]
    rfl
  case admissible =>
    intro other member
    rcases List.mem_append.mp member with old | reply
    · exact accounts.admissible other old
    · exact Packet.reply?_admissible (Option.mem_toList.mp reply)
  case requests =>
    rw [List.filter_append, accounts.requests, requests, List.append_nil]
    unfold Party.requests
    rw [ids]
    rfl
  case responses =>
    rw [List.filter_append, accounts.responses, responses]
    simp only [Party.deliver, List.filterMap_append, List.filterMap_cons, List.filterMap_nil]
    cases packet.reply? table limit <;> rfl
  case orderly =>
    rw [correlator]
    split
    · exact orderly.resolve packet.requestId packet.content
    · exact orderly
  case tracked =>
    rw [correlator]
    split
    · exact accounts.tracked.resolve orderly packet.requestId packet.content
    · exact accounts.tracked
  case follows =>
    intro ticket after there
    rw [correlator] at there
    split at there
    · rename_i response
      obtain ⟨call, old, ⟨rfl, other⟩ | ⟨-, own, rfl⟩⟩ := orderly.calls_resolve accounts.tracked there
      · exact (accounts.follows ticket after old).more fun _ => other
      · exact .answered response own
    · rename_i request
      exact (accounts.follows ticket after there).more fun response => absurd response request

theorem deliverAll (silent : table.Silent) (small : limit ≤ Frame.maxContentLength) {packets : List Packet}
    (inRange : ∀ packet ∈ packets, packet.InRange)
    (accounts : Accounts table limit now p sent) :
    ∃ replies, Accounts table limit now (packets.foldl Party.deliver p) (sent ++ replies) ∧
      (packets.foldl Party.deliver p).endpoint.deframer = p.endpoint.deframer := by
  induction packets generalizing p sent with
  | nil => exact ⟨[], (List.append_nil sent).symm ▸ accounts, rfl⟩
  | cons packet others ih =>
    obtain ⟨type, id⟩ := inRange packet List.mem_cons_self
    obtain ⟨first, same⟩ := accounts.deliver silent small type id
    obtain ⟨replies, all, still⟩ := ih (fun other member => inRange other (List.mem_cons_of_mem packet member)) first
    rw [List.append_assoc] at all
    exact ⟨_, all, still.trans same⟩

theorem feed (accounts : Accounts table limit now p sent) (silent : table.Silent)
    (small : limit ≤ Frame.maxContentLength) (bytes : Bytes) :
    ∃ replies, Accounts table limit now (p.feed bytes) (sent ++ replies) ∧
      (p.feed bytes).endpoint.deframer = (p.endpoint.deframer.feed bytes).1 := by
  rw [p.feed_eq bytes]
  exact deliverAll silent small (p.endpoint.deframer.feed_inRange bytes) (accounts.read bytes)

theorem call (accounts : Accounts table limit now p sent) (small : limit ≤ Frame.maxContentLength)
    (room : p.attempts < Frame.maxRequestId)
    (known : ∀ packet ∈ p.met, packet.isResponse = true → packet.requestId ∈ p.correlator.ids)
    {o : CallOptions} (expects : o.expectsResponse = true) (typeId : Nat) (content : Value) :
    ∃ more, Accounts table limit now (p.call typeId content o now) (sent ++ more) ∧
      (p.call typeId content o now).endpoint.deframer = p.endpoint.deframer := by
  obtain ⟨frames, wired, packed⟩ := accounts.wire
  obtain ⟨used, given, orderly⟩ := accounts.orderly
  have within : p.endpoint.config.frame.limit ≤ Frame.maxContentLength := accounts.limited ▸ small
  have free : used < Frame.maxRequestId := Nat.lt_of_le_of_lt given room
  let swept := (p.correlator.sweep now).2.nextRequestId.2
  have ids : swept.ids = p.correlator.ids := p.correlator.ids_sweep now
  have skipped : swept.Orderly (used + 1) := (orderly.sweep now).skip free
  have tracked : swept.Tracked := accounts.tracked.sweep now
  have follows : ∀ (ticket : Nat) (call : PendingCall), swept.calls[ticket]? = some call → call.Follows now p.met := by
    intro ticket after there
    obtain ⟨call, old, rfl | ⟨-, due, rfl⟩⟩ := orderly.calls_sweep there
    · exact accounts.follows ticket after old
    · exact .expired due
  unfold Party.call
  rcases Endpoint.call_wire wired within orderly free expects typeId content now with
    ⟨why, -, refused⟩ | ⟨-, late⟩ | ⟨frame, type, fits, made, begun⟩
  · rw [refused]
    refine ⟨[], ?_, rfl⟩
    rw [List.append_nil]
    exact { accounts with orderly := ⟨used, Nat.le_succ_of_le given, orderly⟩ }
  · rw [late]
    refine ⟨[], ?_, rfl⟩
    rw [List.append_nil]
    refine { accounts with
      requests := accounts.requests.trans ?_
      orderly := ⟨used + 1, Nat.succ_le_succ given, skipped⟩
      tracked
      recorded := (congrArg List.length ids).trans accounts.recorded
      follows }
    unfold Party.requests
    rw [← ids]
  · rw [begun]
    have new : used + 1 ∉ p.correlator.ids := by
      intro member
      have bound := (orderly.range _ member).2
      omega
    rw [accounts.limited] at fits
    refine ⟨[.request typeId (used + 1) content], ?_, rfl⟩
    refine
      { limited := accounts.limited
        handlers := accounts.handlers
        wire := ⟨frames ++ [frame], rfl, ?wire⟩
        admissible := ?admissible
        requests := ?requests
        responses := ?responses
        orderly := ⟨used + 1, Nat.succ_le_succ given, skipped.enter (Nat.succ_pos used) (Nat.le_refl _) ?_ rfl⟩
        tracked := tracked.enter _
        recorded := ?recorded
        follows := ?follows }
    case wire =>
      rw [List.mapM_append, packed, mapM_cons_eq_ok.mpr ⟨frame, [], made, rfl, rfl⟩]
      rfl
    case admissible =>
      intro other member
      rcases List.mem_append.mp member with old | request
      · exact accounts.admissible other old
      · cases List.mem_singleton.mp request
        exact ⟨fits, fun response => Bool.false_ne_true response.1⟩
    case requests =>
      rw [List.filter_append, accounts.requests]
      unfold Party.requests
      rw [Correlator.ids_enter, ids, List.zipWith_append accounts.recorded]
      rfl
    case responses =>
      rw [List.filter_append, accounts.responses]
      exact List.append_nil _
    case recorded =>
      rw [Correlator.ids_enter, List.length_append, List.length_append, ids, accounts.recorded]
      rfl
    case follows =>
      intro ticket after there
      rcases Correlator.calls_enter there with old | ⟨-, rfl⟩
      · exact follows ticket after old
      · intro packet member response same
        have own : packet.requestId = used + 1 := same
        exact new (own ▸ known packet member response)
    · rw [ids]
      exact new

end Accounts
end FramedRpc
