import Mathlib.Data.List.Basic
import FramedRpc.Transport.FileSystem

namespace FramedRpc

def PathStep.lead (place : Place) : PathStep → Place
  | stay => place
  | up => place.tail
  | into name => name :: place

def Path.place (path : Path) : Place := path.steps.foldl PathStep.lead []

namespace FileSystem

variable {fs fs' : FileSystem} {place other : Place} {node old : Node} {kind : NodeKind} {mode : Nat} {text : String}
  {path : Path}

def rewrite (fs : FileSystem) (place : Place) (node : Node) : FileSystem :=
  { fs with nodes := fs.nodes.map fun entry => if entry.1 = place then (place, node) else entry }

theorem lookup_cons_eq (there : Place) (node : Node) (rest : List (Place × Node)) (other : Place) :
    List.lookup other ((there, node) :: rest) = if other = there then some node else rest.lookup other := by
  rw [List.lookup_cons]
  by_cases same : other = there
  · rw [if_pos same, beq_iff_eq.mpr same]
  · rw [if_neg same, beq_false_of_ne same]

theorem nodeAt?_erase (fs : FileSystem) (place other : Place) :
    (fs.erase place).nodeAt? other = if other = place then none else fs.nodeAt? other := by
  obtain ⟨nodes, nextInode⟩ := fs
  unfold nodeAt? erase
  induction nodes with
  | nil => exact (ite_self none).symm
  | cons entry rest ih =>
    obtain ⟨there, node⟩ := entry
    by_cases same : there = place
    · subst same
      rw [List.filter_cons_of_neg (by simp), ih, lookup_cons_eq]
      split <;> rfl
    · rw [List.filter_cons_of_pos (by simpa using same), lookup_cons_eq, lookup_cons_eq, ih]
      by_cases found : other = there
      · subst found
        rw [if_pos rfl, if_neg same, if_pos rfl]
      · rw [if_neg found, if_neg found]

theorem nodeAt?_create (fs : FileSystem) (place : Place) (kind : NodeKind) (mode : Nat) (other : Place) :
    (fs.create place kind mode).nodeAt? other =
      if other = place then some ⟨kind, fs.nextInode, mode⟩ else fs.nodeAt? other := by
  have rest := fs.nodeAt?_erase place other
  unfold nodeAt? at rest ⊢
  rw [create, lookup_cons_eq, rest]
  split <;> rfl

theorem nodeAt?_rewrite_ne (fs : FileSystem) (node : Node) (apart : other ≠ place) :
    (fs.rewrite place node).nodeAt? other = fs.nodeAt? other := by
  obtain ⟨nodes, nextInode⟩ := fs
  unfold nodeAt? rewrite
  induction nodes with
  | nil => rfl
  | cons entry rest ih =>
    obtain ⟨there, held⟩ := entry
    rw [List.map_cons, lookup_cons_eq there held]
    by_cases same : there = place
    · have beyond : other ≠ there := fun here => apart (here.trans same)
      rw [if_pos same, lookup_cons_eq, if_neg apart, if_neg beyond, ih]
    · rw [if_neg same, lookup_cons_eq, ih]

theorem nodeAt?_rewrite_self (node : Node) (found : fs.nodeAt? place = some old) :
    (fs.rewrite place node).nodeAt? place = some node := by
  obtain ⟨nodes, nextInode⟩ := fs
  unfold nodeAt? rewrite at *
  induction nodes with
  | nil => cases found
  | cons entry rest ih =>
    obtain ⟨there, held⟩ := entry
    rw [lookup_cons_eq] at found
    rw [List.map_cons]
    split
    · rw [lookup_cons_eq, if_pos rfl]
    · rename_i apart
      rw [if_neg (Ne.symm apart)] at found
      rw [lookup_cons_eq, if_neg (Ne.symm apart), ih found]

theorem create_erase (fs : FileSystem) (place : Place) (kind : NodeKind) (mode : Nat) :
    (fs.erase place).create place kind mode = fs.create place kind mode := by
  have twice : ((fs.erase place).erase place).nodes = (fs.erase place).nodes := by
    unfold erase
    rw [List.filter_filter]
    simp only [Bool.and_self]
  unfold create
  rw [twice]
  rfl

theorem move_eq_ok {step : PathStep} {next : Place} (moved : fs.move place step = .ok next) :
    next = step.lead place ∧ ∃ node, fs.nodeAt? place = some node ∧ node.kind = .directory := by
  unfold move at moved
  split at moved
  · cases moved
  · rename_i node found
    split at moved
    · rename_i directory
      refine ⟨?_, node, found, directory⟩
      cases step with
      | stay | up =>
        cases moved
        rfl
      | into name =>
        simp only at moved
        split at moved
        · cases moved
        · cases moved
          rfl
    · cases moved

theorem walk_eq_ok (walked : fs.walk path = .ok place) : place = path.place := by
  have led : ∀ (steps : List PathStep) (start : Place),
      steps.foldlM fs.move start = .ok place → place = steps.foldl PathStep.lead start := by
    intro steps
    induction steps with
    | nil =>
      intro start walked
      cases walked
      rfl
    | cons step rest ih =>
      intro start walked
      rw [List.foldlM_cons] at walked
      cases moved : fs.move start step with
      | error why =>
        rw [moved] at walked
        cases walked
      | ok next =>
        rw [moved] at walked
        rw [List.foldl_cons, ← (move_eq_ok moved).1]
        exact ih next walked
  exact led path.steps [] walked

theorem walk_keeps (keeps : ∀ place node, fs.nodeAt? place = some node → node.kind = .directory →
    fs'.nodeAt? place = some node) (walked : fs.walk path = .ok place) : fs'.walk path = .ok place := by
  have led : ∀ (steps : List PathStep) (start : Place),
      steps.foldlM fs.move start = .ok place → steps.foldlM fs'.move start = .ok place := by
    intro steps
    induction steps with
    | nil => exact fun start walked => walked
    | cons step rest ih =>
      intro start walked
      rw [List.foldlM_cons] at walked ⊢
      cases moved : fs.move start step with
      | error why =>
        rw [moved] at walked
        cases walked
      | ok next =>
        obtain ⟨-, node, found, directory⟩ := move_eq_ok moved
        have same : fs'.move start step = fs.move start step := by
          unfold move
          rw [found, keeps start node found directory]
        rw [moved] at walked
        rw [same, moved]
        exact ih next walked
  exact led path.steps [] walked

-- A path that can be read, and all of whose steps can be taken, leads to a place.
def Leads (fs : FileSystem) (text : String) (path : Path) (place : Place) : Prop :=
  Path.parse text = .ok path ∧ fs.walk path = .ok place

theorem Leads.find (leads : fs.Leads text path place) :
    fs.find text =
      match fs.nodeAt? place with
      | none => .error .noSuchFile
      | some node =>
        if path.endsInSlash ∧ node.kind ≠ .directory then .error .notADirectory else .ok (place, node) := by
  obtain ⟨parsed, walked⟩ := leads
  cases held : fs.nodeAt? place with
  | none => simp only [FileSystem.find, parsed, walked, held, Bind.bind, Except.bind]
  | some node => simp only [FileSystem.find, parsed, walked, held, Bind.bind, Except.bind]

theorem Leads.vacancy (leads : fs.Leads text path place) (forDirectory : Bool) :
    fs.vacancy text forDirectory =
      if (fs.nodeAt? place).isSome then .error .fileExists
      else if path.endsInSlash ∧ !forDirectory then .error .noSuchFile
      else .ok place := by
  obtain ⟨parsed, walked⟩ := leads
  simp only [FileSystem.vacancy, parsed, walked, Bind.bind, Except.bind]

theorem leads_or_error {α : Type} (fs : FileSystem) (text : String) (next : Path → Place → Except IoError α) :
    (∃ path place, fs.Leads text path place) ∨
      ∃ why, (Path.parse text >>= fun path => fs.walk path >>= next path) = .error why := by
  cases parsed : Path.parse text with
  | error why => exact .inr ⟨why, rfl⟩
  | ok path =>
    cases walked : fs.walk path with
    | error why => exact .inr ⟨why, congrArg (· >>= _) walked⟩
    | ok place => exact .inl ⟨path, place, parsed, walked⟩

theorem find_eq_ok : fs.find text = .ok (place, node) ↔
    ∃ path, fs.Leads text path place ∧ fs.nodeAt? place = some node ∧
      (path.endsInSlash = true → node.kind = .directory) := by
  constructor
  · intro found
    rcases fs.leads_or_error text _ with ⟨path, there, leads⟩ | ⟨why, failed⟩
    · rw [leads.find] at found
      split at found
      · cases found
      · split at found
        · cases found
        · rename_i held directory
          cases found
          exact ⟨path, leads, held, fun slash => not_not.mp fun other => directory ⟨slash, other⟩⟩
    · cases found.symm.trans failed
  · rintro ⟨path, leads, held, directory⟩
    rw [leads.find, held]
    exact if_neg fun ⟨slash, other⟩ => other (directory slash)

theorem vacancy_eq_ok {forDirectory : Bool} : fs.vacancy text forDirectory = .ok place ↔
    ∃ path, fs.Leads text path place ∧ fs.nodeAt? place = none ∧
      (path.endsInSlash = true → forDirectory = true) := by
  constructor
  · intro found
    rcases fs.leads_or_error text _ with ⟨path, there, leads⟩ | ⟨why, failed⟩
    · rw [leads.vacancy] at found
      split at found
      · cases found
      · split at found
        · cases found
        · rename_i vacant directory
          cases found
          exact ⟨path, leads, Option.not_isSome_iff_eq_none.mp vacant, by simpa using directory⟩
    · cases found.symm.trans failed
  · rintro ⟨path, leads, vacant, directory⟩
    rw [leads.vacancy, vacant, if_neg (by simp)]
    exact if_neg (by simpa using directory)

theorem Leads.unique {path' : Path} (leads : fs.Leads text path place) (later : fs'.Leads text path' other) :
    other = place := by
  cases leads.1.symm.trans later.1
  rw [walk_eq_ok leads.2, walk_eq_ok later.2]

theorem Leads.keeps (leads : fs.Leads text path place) (keeps : ∀ place node, fs.nodeAt? place = some node →
    node.kind = .directory → fs'.nodeAt? place = some node) : fs'.Leads text path place :=
  ⟨leads.1, walk_keeps keeps leads.2⟩

theorem find_unique {node' : Node} (found : fs.find text = .ok (place, node))
    (later : fs'.find text = .ok (other, node')) : other = place := by
  obtain ⟨path, leads, -⟩ := find_eq_ok.mp found
  obtain ⟨path', leads', -⟩ := find_eq_ok.mp later
  exact leads.unique leads'

inductive Change (fs : FileSystem) : Option Place → FileSystem → Prop where
  | same : Change fs none fs
  | made {place : Place} (vacant : fs.nodeAt? place = none) (kind : NodeKind) (mode : Nat) :
      Change fs none (fs.create place kind mode)
  | rewritten {place : Place} {node : Node} {contents : Bytes} (found : fs.nodeAt? place = some node)
      (file : node.kind = .file contents) (contents' : Bytes) :
      Change fs none (fs.rewrite place { node with kind := .file contents' })
  | replaced {place : Place} {node : Node} (found : fs.nodeAt? place = some node) (kind : NodeKind) (mode : Nat) :
      Change fs (some place) (fs.create place kind mode)
  | erased {place : Place} {node : Node} (found : fs.nodeAt? place = some node) :
      Change fs (some place) (fs.erase place)

namespace Change

variable {taken : Option Place}

theorem kept (change : Change fs taken fs') (found : fs.nodeAt? place = some node) (apart : taken ≠ some place)
    (other : ∀ contents, node.kind ≠ .file contents) : fs'.nodeAt? place = some node := by
  cases change with
  | same => exact found
  | made vacant =>
    rw [nodeAt?_create, if_neg, found]
    rintro rfl
    cases vacant.symm.trans found
  | rewritten found' file =>
    rw [nodeAt?_rewrite_ne, found]
    rintro rfl
    cases found.symm.trans found'
    exact other _ file
  | replaced => rw [nodeAt?_create, if_neg fun same => apart (congrArg some same.symm), found]
  | erased => rw [nodeAt?_erase, if_neg fun same => apart (congrArg some same.symm), found]

theorem known (change : Change fs taken fs') (found : fs'.nodeAt? place = some node) (old : node.inode ≠ fs.nextInode) :
    taken ≠ some place ∧ ∃ earlier, fs.nodeAt? place = some earlier ∧ earlier.inode = node.inode := by
  cases change with
  | same => exact ⟨nofun, node, found, rfl⟩
  | made vacant =>
    rw [nodeAt?_create] at found
    split at found
    · cases found
      exact absurd rfl old
    · exact ⟨nofun, node, found, rfl⟩
  | @rewritten there held contents held' file contents' =>
    by_cases here : place = there
    · subst here
      rw [nodeAt?_rewrite_self _ held'] at found
      cases found
      exact ⟨nofun, held, held', rfl⟩
    · rw [nodeAt?_rewrite_ne _ _ here] at found
      exact ⟨nofun, node, found, rfl⟩
  | replaced =>
    rw [nodeAt?_create] at found
    split at found
    · cases found
      exact absurd rfl old
    · rename_i apart
      exact ⟨fun same => apart (Option.some.inj same).symm, node, found, rfl⟩
  | erased =>
    rw [nodeAt?_erase] at found
    split at found
    · cases found
    · rename_i apart
      exact ⟨fun same => apart (Option.some.inj same).symm, node, found, rfl⟩

end Change

-- An operation takes away the node that its path names if it succeeds, and no other one.
def Takes (fs : FileSystem) (text : String) (done : Prop) (fs' : FileSystem) : Prop :=
  ∃ taken, Change fs taken fs' ∧ ∀ place, taken = some place ↔ done ∧ ∃ node, fs.find text = .ok (place, node)

theorem Takes.nothing {done : Prop} (failed : ¬done) : fs.Takes text done fs :=
  ⟨none, .same, fun _ => ⟨nofun, fun found => absurd found.1 failed⟩⟩

theorem takes_iff {done : Prop} (succeeded : done) (found : fs.find text = .ok (place, node)) (other : Place) :
    some place = some other ↔ done ∧ ∃ node, fs.find text = .ok (other, node) := by
  constructor
  · intro same
    cases same
    exact ⟨succeeded, node, found⟩
  · rintro ⟨-, node', again⟩
    exact congrArg some (find_unique again found)

theorem nodeAt?_find (found : fs.find text = .ok (place, node)) : fs.nodeAt? place = some node := by
  obtain ⟨path, -, held, -⟩ := find_eq_ok.mp found
  exact held

theorem removeFile_takes (fs : FileSystem) (text : String) :
    fs.Takes text ((fs.removeFile text).1 = true) (fs.removeFile text).2 := by
  unfold removeFile
  cases found : fs.find text with
  | error why => exact .nothing Bool.false_ne_true
  | ok there =>
    obtain ⟨place, node⟩ := there
    by_cases directory : node.kind = .directory
    · simp only [if_pos directory]
      exact .nothing Bool.false_ne_true
    · simp only [if_neg directory]
      exact ⟨some place, .erased (nodeAt?_find found), takes_iff trivial found⟩

theorem removeDirectory_takes (fs : FileSystem) (text : String) :
    fs.Takes text ((fs.removeDirectory text).1 = true) (fs.removeDirectory text).2 := by
  unfold removeDirectory
  cases found : fs.find text with
  | error why => exact .nothing Bool.false_ne_true
  | ok there =>
    obtain ⟨place, node⟩ := there
    simp only
    split
    · exact ⟨some place, .erased (nodeAt?_find found), takes_iff rfl found⟩
    · exact .nothing Bool.false_ne_true

theorem writeFile_change (fs : FileSystem) (text : String) (contents : Bytes) :
    Change fs none (fs.writeFile text contents).2 := by
  unfold writeFile
  cases found : fs.find text with
  | ok there =>
    obtain ⟨place, node⟩ := there
    cases kind : node.kind with
    | file old =>
      simp only [kind]
      exact .rewritten (nodeAt?_find found) kind contents
    | directory | socket | nullDevice =>
      simp only [kind]
      exact .same
  | error why =>
    cases free : fs.vacancy text false with
    | ok place =>
      obtain ⟨path, -, vacant, -⟩ := vacancy_eq_ok.mp free
      exact .made vacant (.file contents) 0o644
    | error why => exact .same

theorem makeDirectory_change (fs : FileSystem) (text : String) : Change fs none (fs.makeDirectory text).2 := by
  unfold makeDirectory
  cases free : fs.vacancy text true with
  | ok place =>
    obtain ⟨path, -, vacant, -⟩ := vacancy_eq_ok.mp free
    exact .made vacant .directory 0o755
  | error why => exact .same

theorem placeSocket_of_vacant (short : text.utf8ByteSize < maxSocketPath) (leads : fs.Leads text path place)
    (vacant : fs.nodeAt? place = none) (open' : path.endsInSlash = false) :
    fs.placeSocket text = (.ok ⟨text, fs.nextInode⟩, fs.create place .socket socketMode) := by
  have plain : text.contains '\x00' = false := by
    obtain ⟨parsed, -⟩ := leads
    unfold Path.parse at parsed
    split at parsed
    · cases parsed
    · rename_i plain
      exact Bool.eq_false_iff.mpr plain
  have fault : addressFault? text = none := by
    unfold addressFault?
    rw [plain, if_neg Bool.false_ne_true, if_neg (Nat.not_le_of_lt short)]
  have free : fs.vacancy text false = .ok place :=
    vacancy_eq_ok.mpr ⟨path, leads, vacant, fun slash => (Bool.eq_false_iff.mp open' slash).elim⟩
  unfold placeSocket
  rw [fault]
  simp only [free]

theorem bind_of_leads (short : text.utf8ByteSize < maxSocketPath) (leads : fs.Leads text path place)
    (open' : path.endsInSlash = false) (socket : ∀ node, fs.nodeAt? place = some node → node.kind = .socket) :
    fs.bind text = (.ok ⟨text, fs.nextInode⟩, fs.create place .socket socketMode) := by
  unfold bind
  simp only [if_neg (Nat.not_le_of_lt short)]
  cases held : fs.nodeAt? place with
  | none =>
    have nothing : fs.find text = .error .noSuchFile := by rw [leads.find, held]
    simp only [nothing]
    rw [placeSocket_of_vacant short leads held open']
    rfl
  | some node =>
    have found : fs.find text = .ok (place, node) :=
      find_eq_ok.mpr ⟨path, leads, held, fun slash => (Bool.eq_false_iff.mp open' slash).elim⟩
    have vacant : (fs.erase place).nodeAt? place = none := by rw [nodeAt?_erase, if_pos rfl]
    have leads' : (fs.erase place).Leads text path place := by
      refine leads.keeps fun other node' found' directory => ?_
      rw [nodeAt?_erase, if_neg, found']
      rintro rfl
      cases (socket node' found').symm.trans directory
    simp only [found, if_pos (socket node held)]
    rw [placeSocket_of_vacant short leads' vacant open', create_erase]
    rfl

theorem bind_cases (fs : FileSystem) (text : String) :
    (∃ why, fs.bind text = (.error why, fs)) ∨
      ∃ path place, fs.Leads text path place ∧ path.endsInSlash = false ∧
        (∀ node, fs.nodeAt? place = some node → node.kind = .socket) ∧
        fs.bind text = (.ok ⟨text, fs.nextInode⟩, fs.create place .socket socketMode) := by
  by_cases long : maxSocketPath ≤ text.utf8ByteSize
  · exact .inl ⟨_, if_pos long⟩
  · by_cases free : ∃ path place, fs.Leads text path place ∧ path.endsInSlash = false ∧
        ∀ node, fs.nodeAt? place = some node → node.kind = .socket
    · obtain ⟨path, place, leads, open', socket⟩ := free
      exact .inr ⟨path, place, leads, open', socket, bind_of_leads (Nat.lt_of_not_le long) leads open' socket⟩
    · refine .inl ?_
      unfold bind
      simp only [if_neg long]
      cases found : fs.find text with
      | ok there =>
        obtain ⟨place, node⟩ := there
        obtain ⟨path, leads, held, directory⟩ := find_eq_ok.mp found
        have other : node.kind ≠ .socket := by
          intro socket
          refine free ⟨path, place, leads, Bool.eq_false_iff.mpr fun slash => ?_, fun node' held' => ?_⟩
          · cases socket.symm.trans (directory slash)
          · cases held.symm.trans held'
            exact socket
        simp only [if_neg other]
        exact ⟨_, rfl⟩
      | error why =>
        have taken : ∃ why, fs.vacancy text false = .error why := by
          cases found' : fs.vacancy text false with
          | error why => exact ⟨why, rfl⟩
          | ok place =>
            obtain ⟨path, leads, vacant, directory⟩ := vacancy_eq_ok.mp found'
            have open' : path.endsInSlash = false := Bool.eq_false_iff.mpr fun slash => nomatch directory slash
            exact absurd ⟨path, place, leads, open', fun node held => nomatch vacant.symm.trans held⟩ free
        obtain ⟨why, taken⟩ := taken
        unfold placeSocket
        simp only [taken]
        cases addressFault? text with
        | none => exact ⟨_, rfl⟩
        | some fault => exact ⟨_, rfl⟩

theorem bind_find {handle : SocketHandle} (bound : fs.bind text = (.ok handle, fs')) :
    ∃ place, fs'.find text = .ok (place, ⟨.socket, fs.nextInode, socketMode⟩) := by
  rcases fs.bind_cases text with ⟨why, refused⟩ | ⟨path, place, leads, open', socket, made⟩
  · cases refused.symm.trans bound
  · cases made.symm.trans bound
    have there : (fs.create place .socket socketMode).nodeAt? place = some ⟨.socket, fs.nextInode, socketMode⟩ := by
      rw [nodeAt?_create, if_pos rfl]
    have leads' : (fs.create place .socket socketMode).Leads text path place := by
      refine leads.keeps fun other node found directory => ?_
      rw [nodeAt?_create, if_neg, found]
      rintro rfl
      cases (socket node found).symm.trans directory
    exact ⟨place, find_eq_ok.mpr ⟨path, leads', there, fun slash => (Bool.eq_false_iff.mp open' slash).elim⟩⟩

theorem bind_takes (fs : FileSystem) (text : String) :
    fs.Takes text (∃ handle, (fs.bind text).1 = .ok handle) (fs.bind text).2 := by
  rcases fs.bind_cases text with ⟨why, refused⟩ | ⟨path, place, leads, open', socket, bound⟩
  · rw [refused]
    exact .nothing fun ⟨_, done⟩ => nomatch done
  · rw [bound]
    cases held : fs.nodeAt? place with
    | none =>
      refine ⟨none, .made held .socket socketMode, fun other => ⟨nofun, ?_⟩⟩
      rintro ⟨-, node, found⟩
      obtain ⟨path', leads', held', -⟩ := find_eq_ok.mp found
      cases leads.unique leads'
      cases held.symm.trans held'
    | some node =>
      have found : fs.find text = .ok (place, node) :=
        find_eq_ok.mpr ⟨path, leads, held, fun slash => (Bool.eq_false_iff.mp open' slash).elim⟩
      exact ⟨some place, .replaced held .socket socketMode, takes_iff ⟨_, rfl⟩ found⟩

theorem release_cases (fs : FileSystem) (handle : SocketHandle) :
    fs.release handle = fs ∨ ∃ place node, fs.find handle.path = .ok (place, node) ∧ node.kind = .socket ∧
      node.inode = handle.inode ∧ fs.release handle = fs.erase place := by
  unfold release
  cases found : fs.find handle.path with
  | error why => exact .inl rfl
  | ok there =>
    obtain ⟨place, node⟩ := there
    by_cases own : node.kind = .socket ∧ node.inode = handle.inode
    · simp only [if_pos own]
      exact .inr ⟨place, node, rfl, own.1, own.2, rfl⟩
    · refine .inl ?_
      simp only [if_neg own]

end FileSystem
end FramedRpc
