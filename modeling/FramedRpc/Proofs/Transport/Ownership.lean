import FramedRpc.Proofs.Transport.Nodes
import FramedRpc.Transport.SocketHost

namespace FramedRpc.SocketHost

open FileSystem (maxSocketPath socketMode)

inductive Act where
  | bind (path : String)
  | drop (socket : Nat)
  | forget (socket : Nat)
  | writeFile (path : String) (contents : Bytes)
  | makeDirectory (path : String)
  | removeFile (path : String)
  | removeDirectory (path : String)
  deriving DecidableEq

structure Turn where
  inode : Nat
  act : Act
  deriving DecidableEq

-- The inodes of all sockets that listen, those whose handle was given away included.
def live (h : SocketHost) : List Nat := h.waiting.map (·.1)

def allot (h : SocketHost) (inode : Nat) : SocketHost := { h with files := { h.files with nextInode := inode } }

def perform (h : SocketHost) : Act → SocketHost
  | .bind path => (h.bind path).2
  | .drop socket => (h.drop socket).2
  | .forget socket => h.forget socket
  | .writeFile path contents => { h with files := (h.files.writeFile path contents).2 }
  | .makeDirectory path => { h with files := (h.files.makeDirectory path).2 }
  | .removeFile path => { h with files := (h.files.removeFile path).2 }
  | .removeDirectory path => { h with files := (h.files.removeDirectory path).2 }

def after (h : SocketHost) (turn : Turn) : SocketHost := (h.allot turn.inode).perform turn.act

def run (h : SocketHost) (turns : List Turn) : SocketHost := turns.foldl after h

-- No node is made with the inode of a socket that listens.
def Lawful : SocketHost → List Turn → Prop
  | _, [] => True
  | h, turn :: rest => turn.inode ∉ h.live ∧ Lawful (h.after turn) rest

-- An act removes the node at a place, or puts a socket in its place.
def Clears (h : SocketHost) (place : Place) : Act → Prop
  | .bind path => (∃ socket, (h.bind path).1 = .ok socket) ∧ ∃ node, h.files.find path = .ok (place, node)
  | .removeFile path => (h.files.removeFile path).1 = true ∧ ∃ node, h.files.find path = .ok (place, node)
  | .removeDirectory path => (h.files.removeDirectory path).1 = true ∧ ∃ node, h.files.find path = .ok (place, node)
  | .drop _ | .forget _ | .writeFile .. | .makeDirectory _ => False

def Intact (place : Place) : SocketHost → List Turn → Prop
  | _, [] => True
  | h, turn :: rest => ¬(h.allot turn.inode).Clears place turn.act ∧ Intact place (h.after turn) rest

variable {h : SocketHost} {path : String} {socket inode : Nat} {handle : SocketHandle} {place : Place} {act : Act}
  {turn : Turn} {turns : List Turn}

def Held (h : SocketHost) (socket : Nat) (handle : SocketHandle) : Prop := h.handles[socket]? = some (some handle)

theorem bind_cases (h : SocketHost) (path : String) :
    (∃ why, h.bind path = (.error why, h)) ∨
      ∃ files, h.files.bind path = (.ok ⟨path, h.files.nextInode⟩, files) ∧
        h.bind path = (.ok h.handles.length,
          { h with
            files
            handles := h.handles ++ [some ⟨path, h.files.nextInode⟩]
            waiting := (h.files.nextInode, []) :: h.waiting }) := by
  unfold bind
  rcases h.files.bind_cases path with ⟨why, refused⟩ | ⟨_, place, -, -, -, bound⟩
  · refine .inl ⟨why, ?_⟩
    rw [refused]
  · refine .inr ⟨_, bound, ?_⟩
    rw [bound]

theorem bind_files (h : SocketHost) (path : String) :
    (h.bind path).2.files = (h.files.bind path).2 ∧
      ((∃ socket, (h.bind path).1 = .ok socket) ↔ ∃ handle, (h.files.bind path).1 = .ok handle) := by
  unfold bind
  obtain ⟨answer, files⟩ := h.files.bind path
  cases answer with
  | error why => exact ⟨rfl, nofun, nofun⟩
  | ok handle => exact ⟨rfl, fun _ => ⟨handle, rfl⟩, fun _ => ⟨h.handles.length, rfl⟩⟩

theorem drop_held (held : h.Held socket handle) :
    (h.drop socket).2.files = h.files.release handle ∧ (h.drop socket).2.handles = h.handles.set socket none ∧
      (h.drop socket).2.live = h.live.filter (· ≠ handle.inode) := by
  unfold drop
  rw [held]
  refine ⟨rfl, rfl, ?_⟩
  unfold live
  rw [List.filter_map]
  rfl

theorem drop_gone (gone : ∀ handle, ¬h.Held socket handle) : (h.drop socket).2 = h := by
  unfold drop
  split
  · rename_i handle held
    exact absurd held (gone handle)
  · rfl

theorem held_set {handles : List (Option SocketHandle)} {other : Nat} :
    (handles.set other none)[socket]? = some (some handle) ↔
      handles[socket]? = some (some handle) ∧ other ≠ socket := by
  rw [List.getElem?_set]
  by_cases same : other = socket
  · simp [same]
  · simp [same]

theorem held_append {handles : List (Option SocketHandle)} {new : SocketHandle} :
    (handles ++ [some new])[socket]? = some (some handle) ↔
      handles[socket]? = some (some handle) ∨ handles.length = socket ∧ handle = new := by
  by_cases within : socket < handles.length
  · rw [List.getElem?_append_left within]
    simp
    omega
  · have beyond := List.getElem?_eq_none (Nat.le_of_not_lt within)
    rw [List.getElem?_append_right (Nat.le_of_not_lt within), beyond, List.getElem?_singleton]
    by_cases last : handles.length = socket
    · simp [last, eq_comm]
    · have apart : socket - handles.length ≠ 0 := by omega
      simp [last, apart]

theorem perform_held : (h.perform act).Held socket handle ↔
    h.Held socket handle ∧ act ≠ .drop socket ∧ act ≠ .forget socket ∨
      ∃ path, act = .bind path ∧ (h.bind path).1 = .ok socket ∧ handle = ⟨path, h.files.nextInode⟩ := by
  cases act with
  | bind path =>
    unfold perform Held
    rcases h.bind_cases path with ⟨why, refused⟩ | ⟨files, -, bound⟩
    · simp [refused]
    · simp [bound, held_append]
  | drop other =>
    by_cases there : ∃ handle, h.Held other handle
    · obtain ⟨ending, there⟩ := there
      unfold perform Held
      rw [(drop_held there).2.1, held_set]
      simp
    · have same : h.perform (.drop other) = h := drop_gone fun ending found => there ⟨ending, found⟩
      have kept (held : h.Held socket handle) : other ≠ socket := fun same => there ⟨handle, same ▸ held⟩
      rw [same]
      simpa using kept
  | forget other =>
    unfold perform Held forget
    rw [held_set]
    simp
  | writeFile path contents => simp [perform, Held]
  | makeDirectory path => simp [perform, Held]
  | removeFile path => simp [perform, Held]
  | removeDirectory path => simp [perform, Held]

theorem perform_live {listening : Nat} : listening ∈ (h.perform act).live ↔
    listening ∈ h.live ∧ (¬∃ socket handle, act = .drop socket ∧ h.Held socket handle ∧ handle.inode = listening) ∨
      ∃ path socket, act = .bind path ∧ (h.bind path).1 = .ok socket ∧ h.files.nextInode = listening := by
  cases act with
  | bind path =>
    unfold perform
    rcases h.bind_cases path with ⟨why, refused⟩ | ⟨files, -, bound⟩
    · simp [refused]
    · simp [bound, live, or_comm, eq_comm]
  | drop other =>
    have ends : (∃ socket handle, Act.drop other = .drop socket ∧ h.Held socket handle ∧ handle.inode = listening) ↔
        ∃ handle, h.Held other handle ∧ handle.inode = listening := by simp
    have binds : ¬∃ path socket, Act.drop other = .bind path ∧ (h.bind path).1 = .ok socket ∧
        h.files.nextInode = listening := nofun
    rw [ends, or_iff_left binds]
    by_cases there : ∃ handle, h.Held other handle
    · obtain ⟨ending, there⟩ := there
      unfold perform
      rw [(drop_held there).2.2, List.mem_filter, decide_eq_true_eq]
      refine and_congr_right fun _ => not_congr ⟨fun same => ⟨ending, there, same.symm⟩, ?_⟩
      rintro ⟨handle, held, same⟩
      cases held.symm.trans there
      exact same.symm
    · have same : h.perform (.drop other) = h := drop_gone fun ending found => there ⟨ending, found⟩
      rw [same]
      exact (and_iff_left fun ⟨ending, found, _⟩ => there ⟨ending, found⟩).symm
  | forget other => simp [perform, live, forget]
  | writeFile path contents => simp [perform, live]
  | makeDirectory path => simp [perform, live]
  | removeFile path => simp [perform, live]
  | removeDirectory path => simp [perform, live]

theorem perform_change (h : SocketHost) (act : Act) :
    (∃ taken, FileSystem.Change h.files taken (h.perform act).files ∧
        ∀ place, taken = some place ↔ h.Clears place act) ∨
      ∃ socket handle place node, act = .drop socket ∧ h.Held socket handle ∧ h.files.nodeAt? place = some node ∧
        node.inode = handle.inode ∧ (h.perform act).files = h.files.erase place := by
  cases act with
  | bind path =>
    obtain ⟨taken, change, takes⟩ := h.files.bind_takes path
    obtain ⟨files, answered⟩ := h.bind_files path
    rw [← files] at change
    exact .inl ⟨taken, change, fun place => (takes place).trans (and_congr_left fun _ => answered.symm)⟩
  | drop socket =>
    by_cases there : ∃ handle, h.Held socket handle
    · obtain ⟨handle, held⟩ := there
      have files : (h.perform (.drop socket)).files = h.files.release handle := (drop_held held).1
      rcases h.files.release_cases handle with same | ⟨place, node, found, -, own, erased⟩
      · refine .inl ⟨none, ?_, fun place => ⟨nofun, nofun⟩⟩
        rw [files, same]
        exact .same
      · exact .inr ⟨socket, handle, place, node, rfl, held, FileSystem.nodeAt?_find found, own, files.trans erased⟩
    · have same : h.perform (.drop socket) = h := drop_gone fun ending found => there ⟨ending, found⟩
      rw [same]
      exact .inl ⟨none, .same, fun place => ⟨nofun, nofun⟩⟩
  | forget socket => exact .inl ⟨none, .same, fun place => ⟨nofun, nofun⟩⟩
  | writeFile path contents => exact .inl ⟨none, h.files.writeFile_change path contents, fun place => ⟨nofun, nofun⟩⟩
  | makeDirectory path => exact .inl ⟨none, h.files.makeDirectory_change path, fun place => ⟨nofun, nofun⟩⟩
  | removeFile path => exact .inl (h.files.removeFile_takes path)
  | removeDirectory path => exact .inl (h.files.removeDirectory_takes path)

structure Sound (h : SocketHost) : Prop where
  listens : ∀ {socket handle}, h.Held socket handle → handle.inode ∈ h.live
  apart : ∀ {socket other handle handle'}, h.Held socket handle → h.Held other handle' →
    handle.inode = handle'.inode → socket = other

theorem Sound.start (files : FileSystem) : (new files).Sound := ⟨nofun, nofun⟩

theorem Sound.after (sound : h.Sound) (fresh : turn.inode ∉ h.live) : (h.after turn).Sound := by
  unfold SocketHost.after
  constructor
  · intro socket handle held
    rw [perform_live]
    rcases perform_held.mp held with ⟨old, undropped, -⟩ | ⟨path, act, bound, rfl⟩
    · refine .inl ⟨sound.listens old, ?_⟩
      rintro ⟨other, handle', act, held', same⟩
      cases sound.apart held' old same
      exact undropped act
    · exact .inr ⟨path, socket, act, bound, rfl⟩
  · intro socket other handle handle' held held' same
    rcases perform_held.mp held with ⟨old, -⟩ | ⟨path, act, bound, rfl⟩
    · rcases perform_held.mp held' with ⟨old', -⟩ | ⟨path', act', bound', rfl⟩
      · exact sound.apart old old' same
      · have listening := sound.listens old
        rw [same] at listening
        exact absurd listening fresh
    · rcases perform_held.mp held' with ⟨old', -⟩ | ⟨path', act', bound', rfl⟩
      · have listening := sound.listens old'
        rw [← same] at listening
        exact absurd listening fresh
      · cases act.symm.trans act'
        cases bound.symm.trans bound'
        rfl

-- What is known of a handle that is held: whether the node that it made stands.
structure Follows (h : SocketHost) (socket : Nat) (handle : SocketHandle) (place : Place) (intact : Prop) : Prop where
  held : h.Held socket handle
  own : intact → h.files.nodeAt? place = some ⟨.socket, handle.inode, socketMode⟩
  gone : ¬intact → ∀ node, h.files.nodeAt? place = some node → node.inode ≠ handle.inode

theorem Follows.after {intact : Prop} (follows : h.Follows socket handle place intact) (sound : h.Sound)
    (fresh : turn.inode ∉ h.live) (kept : turn.act ≠ .drop socket ∧ turn.act ≠ .forget socket) :
    (h.after turn).Follows socket handle place (intact ∧ ¬(h.allot turn.inode).Clears place turn.act) := by
  have old : handle.inode ≠ turn.inode := fun same => fresh (same ▸ sound.listens follows.held)
  have held : (h.after turn).Held socket handle := perform_held.mpr (.inl ⟨follows.held, kept⟩)
  rcases (h.allot turn.inode).perform_change turn.act with
    ⟨taken, change, clears⟩ | ⟨other, handle', place', node', act, held', found', same', erased⟩
  · refine ⟨held, ?_, ?_⟩
    · rintro ⟨intact, uncleared⟩
      exact change.kept (follows.own intact) (fun same => uncleared ((clears place).mp same)) nofun
    · intro lost node found same
      obtain ⟨apart, earlier, found', same'⟩ := change.known found (same ▸ old)
      refine follows.gone (fun intact => lost ⟨intact, ?_⟩) earlier found' (same'.trans same)
      exact fun cleared => apart ((clears place).mpr cleared)
  · have elsewhere : other ≠ socket := by
      rintro rfl
      exact kept.1 act
    have nodes (there : Place) : (h.after turn).files.nodeAt? there =
        if there = place' then none else h.files.nodeAt? there :=
      (congrArg (FileSystem.nodeAt? · there) erased).trans (FileSystem.nodeAt?_erase ..)
    have uncleared : ¬(h.allot turn.inode).Clears place turn.act := by
      rw [act]
      exact id
    refine ⟨held, ?_, ?_⟩
    · rintro ⟨intact, -⟩
      have standing := follows.own intact
      rw [nodes, if_neg, standing]
      rintro rfl
      cases standing.symm.trans found'
      exact elsewhere (sound.apart held' follows.held same'.symm)
    · intro lost node found
      rw [nodes] at found
      split at found
      · cases found
      · exact follows.gone (fun intact => lost ⟨intact, uncleared⟩) node found

theorem run_cons (h : SocketHost) (turn : Turn) (turns : List Turn) :
    h.run (turn :: turns) = (h.after turn).run turns := rfl

theorem run_append (h : SocketHost) (turns others : List Turn) : h.run (turns ++ others) = (h.run turns).run others :=
  List.foldl_append

theorem lawful_append {others : List Turn} :
    h.Lawful (turns ++ others) ↔ h.Lawful turns ∧ (h.run turns).Lawful others := by
  induction turns generalizing h with
  | nil => exact (true_and _).to_iff.symm
  | cons turn rest ih =>
    rw [List.cons_append, Lawful, ih, Lawful, and_assoc]
    rfl

theorem Sound.run (sound : h.Sound) (lawful : h.Lawful turns) : (h.run turns).Sound := by
  induction turns generalizing h with
  | nil => exact sound
  | cons turn rest ih => exact ih (sound.after lawful.1) lawful.2

theorem Follows.run {intact : Prop} (follows : h.Follows socket handle place intact) (sound : h.Sound)
    (lawful : h.Lawful turns) (kept : ∀ turn ∈ turns, turn.act ≠ .drop socket ∧ turn.act ≠ .forget socket) :
    (h.run turns).Follows socket handle place (intact ∧ Intact place h turns) := by
  induction turns generalizing h intact with
  | nil =>
    rw [Intact, and_true]
    exact follows
  | cons turn rest ih =>
    obtain ⟨first, others⟩ := List.forall_mem_cons.mp kept
    rw [Intact, ← and_assoc]
    exact ih (follows.after sound lawful.1 first) (sound.after lawful.1) lawful.2 others

-- The end of a socket: the node at its path goes if it is the one that the socket made, and otherwise nothing does.
structure Ends (h : SocketHost) (socket : Nat) (path : String) (place : Place) (node : Node) (intact : Prop) :
    Prop where
  own : intact → h.files.nodeAt? place = some node ∧ ∀ found, h.files.find path = .ok found →
    found = (place, node) ∧ (h.drop socket).2.files = h.files.erase place
  other : ¬intact → (h.drop socket).2.files = h.files
  nowhere : ∀ why, h.files.find path = .error why → (h.drop socket).2.files = h.files

theorem Follows.ends {intact : Prop} {earlier : FileSystem} {node : Node}
    (follows : h.Follows socket handle place intact) (led : earlier.find handle.path = .ok (place, node)) :
    h.Ends socket handle.path place ⟨.socket, handle.inode, socketMode⟩ intact := by
  have files : (h.drop socket).2.files = h.files.release handle := (drop_held follows.held).1
  constructor
  · intro intact
    refine ⟨follows.own intact, ?_⟩
    rintro ⟨place', node'⟩ found
    cases FileSystem.find_unique led found
    cases (follows.own intact).symm.trans (FileSystem.nodeAt?_find found)
    refine ⟨rfl, ?_⟩
    rw [files]
    unfold FileSystem.release
    rw [found]
    exact if_pos ⟨rfl, rfl⟩
  · intro lost
    rw [files]
    rcases h.files.release_cases handle with same | ⟨place', node', found, -, own, -⟩
    · exact same
    · cases FileSystem.find_unique led found
      exact absurd own (follows.gone lost node' (FileSystem.nodeAt?_find found))
  · intro why nothing
    rw [files]
    unfold FileSystem.release
    rw [nothing]

structure Careful (h : SocketHost) : Prop where
  -- Only sockets are replaced, and only sockets are removed.
  bindKeeps : ∀ path place node, h.files.nodeAt? place = some node → node.kind ≠ .socket →
    (h.bind path).2.files.nodeAt? place = some node
  dropKeeps : ∀ socket place node, h.files.nodeAt? place = some node → node.kind ≠ .socket →
    (h.drop socket).2.files.nodeAt? place = some node
  -- A socket that cannot listen leaves everything as it was, whatever the reason.
  tooLong : ∀ path, maxSocketPath ≤ path.utf8ByteSize →
    h.bind path = (.error (.pathTooLong path path.utf8ByteSize maxSocketPath), h)
  occupied : ∀ path place node, path.utf8ByteSize < maxSocketPath → h.files.find path = .ok (place, node) →
    node.kind ≠ .socket →
    h.bind path = (.error (.bind path (.withText .alreadyExists "existing path is not a unix socket")), h)
  refused : ∀ path why, (h.bind path).1 = .error why → (h.bind path).2 = h
  bound : ∀ path socket, (h.bind path).1 = .ok socket → (h.bind path).2.Held socket ⟨path, h.files.nextInode⟩ ∧
    ∃ place, (h.bind path).2.files.find path = .ok (place, ⟨.socket, h.files.nextInode, 0o600⟩)

theorem bind_keeps {node : Node} (path : String) (found : h.files.nodeAt? place = some node)
    (other : node.kind ≠ .socket) : (h.bind path).2.files.nodeAt? place = some node := by
  rw [(h.bind_files path).1]
  rcases h.files.bind_cases path with ⟨why, refused⟩ | ⟨_, there, -, -, sockets, bound⟩
  · rw [refused]
    exact found
  · rw [bound, FileSystem.nodeAt?_create, if_neg, found]
    rintro rfl
    exact other (sockets node found)

theorem drop_keeps {node : Node} (socket : Nat) (found : h.files.nodeAt? place = some node)
    (other : node.kind ≠ .socket) : (h.drop socket).2.files.nodeAt? place = some node := by
  by_cases there : ∃ handle, h.Held socket handle
  · obtain ⟨handle, held⟩ := there
    rw [(drop_held held).1]
    rcases h.files.release_cases handle with same | ⟨place', node', found', own, -, erased⟩
    · rw [same]
      exact found
    · rw [erased, FileSystem.nodeAt?_erase, if_neg, found]
      rintro rfl
      cases found.symm.trans (FileSystem.nodeAt?_find found')
      exact other own
  · rw [drop_gone fun handle held => there ⟨handle, held⟩]
    exact found

theorem bind_bound (bound : (h.bind path).1 = .ok socket) : (h.bind path).2.Held socket ⟨path, h.files.nextInode⟩ ∧
    ∃ place, (h.bind path).2.files.find path = .ok (place, ⟨.socket, h.files.nextInode, socketMode⟩) := by
  have held : (h.perform (.bind path)).Held socket ⟨path, h.files.nextInode⟩ :=
    perform_held.mpr (.inr ⟨path, rfl, bound, rfl⟩)
  refine ⟨held, ?_⟩
  rcases h.bind_cases path with ⟨why, refused⟩ | ⟨files, made, listens⟩
  · rw [refused] at bound
    cases bound
  · rw [listens]
    exact FileSystem.bind_find made

theorem careful (h : SocketHost) : h.Careful where
  bindKeeps path place node found other := bind_keeps path found other
  dropKeeps socket place node found other := drop_keeps socket found other
  tooLong path long := by
    unfold bind FileSystem.bind
    simp only [if_pos long]
  occupied path place node short found other := by
    unfold bind FileSystem.bind
    simp only [if_neg (Nat.not_le_of_lt short), found, if_neg other]
  refused path why failed := by
    rcases h.bind_cases path with ⟨_, refused⟩ | ⟨files, -, listens⟩
    · rw [refused]
    · rw [listens] at failed
      cases failed
  bound path socket bound := bind_bound bound

-- Sockets listen and end in a file system, and others are at work there.
structure Owned (files : FileSystem) (turns : List Turn) : Prop where
  careful : ∀ inode, (((new files).run turns).allot inode).Careful
  -- A socket listened at some time, and its handle is still there.
  ends : ∀ before inode path during socket start, turns = before ++ ⟨inode, .bind path⟩ :: during →
    (((new files).run before).allot inode).bind path = (.ok socket, start) →
    (∀ turn ∈ during, turn.act ≠ .drop socket ∧ turn.act ≠ .forget socket) →
    ∃ place, start.files.find path = .ok (place, ⟨.socket, inode, 0o600⟩) ∧
      ((new files).run turns).Ends socket path place ⟨.socket, inode, 0o600⟩ (Intact place start during)

theorem run_owned (files : FileSystem) (turns : List Turn) (lawful : (new files).Lawful turns) :
    Owned files turns where
  careful inode := SocketHost.careful _
  ends before inode path during socket start split bound kept := by
    rw [split, lawful_append] at lawful
    obtain ⟨early, fresh, late⟩ := lawful
    have sound := ((Sound.start files).run early).after fresh
    have turned : ((new files).run before).after ⟨inode, .bind path⟩ = start := congrArg Prod.snd bound
    rw [turned] at late sound
    obtain ⟨held, place, led⟩ := bind_bound (congrArg Prod.fst bound)
    rw [bound] at held led
    have follows : start.Follows socket ⟨path, inode⟩ place True :=
      ⟨held, fun _ => FileSystem.nodeAt?_find led, fun lost => absurd trivial lost⟩
    have last := follows.run sound late kept
    rw [true_and] at last
    rw [split, run_append, run_cons, turned]
    exact ⟨place, led, last.ends led⟩

-- A handle whose socket was replaced leaves the new one alone, and the handle of the new one removes it.
theorem run_owned_rebound :
    let turns : List Turn := [⟨9, .bind "s"⟩, ⟨10, .bind "s"⟩]
    let h := (new .bare).run turns
    (new .bare).Lawful turns ∧ Owned .bare turns ∧ (h.drop 0).2.files = h.files ∧
      (h.drop 1).2.files = h.files.erase ["s"] := by
  intro turns h
  have parsed : Path.parse "s" = .ok ⟨[.into "s"], false⟩ := by
    have parts : "s".splitOn "/" = ["s"] := by
      unfold String.splitOn
      rw [if_neg (by decide), String.splitOnAux, if_neg (by decide), if_neg (by decide), String.splitOnAux,
        if_pos (by decide)]
      rfl
    unfold Path.parse
    rw [parts, if_neg (by simp), if_neg (by decide), if_neg (by decide)]
    rfl
  have binds (g : SocketHost) (root : g.files.walk ⟨[.into "s"], false⟩ = .ok ["s"])
      (sockets : ∀ node, g.files.nodeAt? ["s"] = some node → node.kind = .socket) :
      g.bind "s" = (.ok g.handles.length,
        { g with
          files := g.files.create ["s"] .socket socketMode
          handles := g.handles ++ [some ⟨"s", g.files.nextInode⟩]
          waiting := (g.files.nextInode, []) :: g.waiting }) := by
    unfold bind
    rw [FileSystem.bind_of_leads (by decide) ⟨parsed, root⟩ rfl sockets]
  have first := binds ((new .bare).allot 9) rfl nofun
  have turned : (new .bare).after ⟨9, .bind "s"⟩ = _ := congrArg Prod.snd first
  have second := binds (((new .bare).after ⟨9, .bind "s"⟩).allot 10) (by rw [turned]; rfl) (by
    rw [turned]
    rintro node ⟨⟩
    rfl)
  have lawful : (new .bare).Lawful turns := by
    refine ⟨List.not_mem_nil, ?_, trivial⟩
    rw [turned]
    decide
  have owned := run_owned .bare turns lawful
  obtain ⟨place, led, replaced⟩ := owned.ends [] 9 "s" [⟨10, .bind "s"⟩] 0 _ rfl first (by decide)
  refine ⟨lawful, owned, replaced.other fun intact => intact.1 ?_, ?_⟩
  · rw [turned] at second
    exact ⟨⟨1, congrArg Prod.fst second⟩, _, led⟩
  · have answered : (((new .bare).after ⟨9, .bind "s"⟩).allot 10).bind "s" = (.ok 1, h) := by
      refine Prod.ext ?_ rfl
      rw [second, turned]
      rfl
    obtain ⟨place, led, stands⟩ := owned.ends [⟨9, .bind "s"⟩] 10 "s" [] 1 h rfl answered nofun
    obtain ⟨-, removes⟩ := stands.own trivial
    obtain ⟨path, leads, -⟩ := FileSystem.find_eq_ok.mp led
    have root : FileSystem.bare.Leads "s" ⟨[.into "s"], false⟩ ["s"] := ⟨parsed, rfl⟩
    cases root.unique leads
    exact (removes _ led).2

end FramedRpc.SocketHost
