import SupplyDrop.Library.Inverse
import SupplyDrop.Library.Run
import SupplyDrop.Transport.SessionMaps

namespace SupplyDrop.Proof.SessionMaps
open Library Store Host Transport Transport.Sessions

/-! ## One map at a time -/

section Maps
variable {Node Entry : Type} [DecidableEq Node] {kind : EntryKind Entry} {m : SessionMaps Node Entry}
  {node : Node} {id : SessionId}

/-- The maps are inverse to each other. -/
def Inverses (kind : EntryKind Entry) (m : SessionMaps Node Entry) : Prop :=
  Inverse (fun node => m.lookup kind node) (fun id => m.nodeForSession id)

theorem lookup_update (byNode : Node → Option Entry) (bySession : SessionId → Option Node)
    (entry : Option Entry) :
    (fun n => (⟨Function.update byNode node entry, bySession⟩ : SessionMaps Node Entry).lookup kind n) =
      Function.update (fun n => (byNode n).map kind.sessionId) node (entry.map kind.sessionId) := by
  funext n
  by_cases same : n = node
  · subst same
    simp [SessionMaps.lookup]
  · simp [SessionMaps.lookup, same]

/-- The maps stay as they were, or the node and the session are entered in both. -/
theorem getOrInsert_cases (kind : EntryKind Entry) (node : Node) (id : SessionId)
    (m : SessionMaps Node Entry) :
    (m.getOrInsert kind node id).2 = m ∨
      m.lookup kind node = none ∧
        (fun n => (m.getOrInsert kind node id).2.lookup kind n) =
          Function.update (fun n => m.lookup kind n) node (some id) ∧
        (m.getOrInsert kind node id).2.bySession = Function.update m.bySession id (some node) := by
  unfold SessionMaps.getOrInsert
  split
  · exact .inl rfl
  · next none =>
    refine .inr ⟨by simp [SessionMaps.lookup, none], ?_, rfl⟩
    rw [lookup_update, Option.map_some, kind.opened_id]
    rfl

theorem removeByNode_cases (kind : EntryKind Entry) (node : Node) (m : SessionMaps Node Entry) :
    m.lookup kind node = none ∧ (m.removeByNode kind node).2 = m ∨
      ∃ id, m.lookup kind node = some id ∧
        (fun n => (m.removeByNode kind node).2.lookup kind n) =
          Function.update (fun n => m.lookup kind n) node none ∧
        (m.removeByNode kind node).2.bySession = Function.update m.bySession id none := by
  unfold SessionMaps.removeByNode
  split
  · next entry found =>
    refine .inr ⟨kind.sessionId entry, by simp [SessionMaps.lookup, found], ?_, rfl⟩
    rw [lookup_update, Option.map_none]
    rfl
  · next none => exact .inl ⟨by simp [SessionMaps.lookup, none], rfl⟩

theorem lookup_onEntry (edit : Edit kind) (n : Node) :
    (m.onEntry kind node edit).lookup kind n = m.lookup kind n := by
  unfold SessionMaps.lookup SessionMaps.onEntry
  by_cases same : n = node
  · subst same
    cases found : m.byNode n with
    | none => simp
    | some entry => simp [edit.keeps]
  · simp [same]

theorem Inverses.getOrInsert (h : Inverses kind m) (unused : m.bySession id = none) :
    Inverses kind (m.getOrInsert kind node id).2 := by
  rcases getOrInsert_cases kind node id m with same | ⟨new, forth, back⟩
  · rwa [same]
  · unfold Inverses SessionMaps.nodeForSession
    rw [forth, back]
    exact Inverse.insert h new unused

theorem Inverses.removeByNode (h : Inverses kind m) : Inverses kind (m.removeByNode kind node).2 := by
  rcases removeByNode_cases kind node m with ⟨-, same⟩ | ⟨id, found, forth, back⟩
  · rwa [same]
  · unfold Inverses SessionMaps.nodeForSession
    rw [forth, back]
    exact Inverse.erase h found

theorem Inverses.onEntry (h : Inverses kind m) (edit : Edit kind) :
    Inverses kind (m.onEntry kind node edit) :=
  fun n id => by
    have same : (m.onEntry kind node edit).lookup kind n = m.lookup kind n := lookup_onEntry edit n
    exact (Eq.congr_left same).trans (h n id)

/-- No map gains a session but the one that is entered. -/
theorem bySession_getOrInsert {id' : SessionId} (other : id' ≠ id) :
    (m.getOrInsert kind node id).2.bySession id' = m.bySession id' := by
  rcases getOrInsert_cases kind node id m with same | ⟨-, -, back⟩
  · rw [same]
  · rw [back, Function.update_of_ne other]

theorem bySession_removeByNode {n : Node} (found : (m.removeByNode kind node).2.bySession id = some n) :
    m.bySession id = some n := by
  rcases removeByNode_cases kind node m with ⟨-, same⟩ | ⟨id', -, -, back⟩
  · rwa [same] at found
  · rw [back] at found
    by_cases gone : id = id'
    · subst gone
      simp at found
    · rwa [Function.update_of_ne gone] at found

/-- A removal by the session's node takes the session out of both maps. -/
theorem removed (h : Inverses kind m) (found : m.nodeForSession id = some node) :
    (m.removeByNode kind node).2.nodeForSession id = none ∧
      ∀ n, (m.removeByNode kind node).2.lookup kind n ≠ some id := by
  have pair : m.lookup kind node = some id := (h node id).mpr found
  have after : Inverses kind (m.removeByNode kind node).2 := h.removeByNode
  rcases removeByNode_cases kind node m with ⟨none, -⟩ | ⟨id', found', -, back⟩
  · cases pair.symm.trans none
  · cases pair.symm.trans found'
    have gone : (m.removeByNode kind node).2.nodeForSession id = none := by
      rw [SessionMaps.nodeForSession, back, Function.update_self]
    refine ⟨gone, fun n at_ => ?_⟩
    cases gone.symm.trans ((after n id).mp at_)

end Maps

/-! ## Calls in any order -/

section Runs
variable {ι Node Entry : Type} {kind : EntryKind Entry}
  {s : Sessions ι Node Entry}

/-- Both maps agree, and a session that is not in them yet will not clash. -/
structure Sound (kind : EntryKind Entry) (s : Sessions ι Node Entry) : Prop where
  inverse : Inverses kind s.maps
  issued : ∀ id node, s.maps.bySession id = some node → id < s.nextId
  held : ∀ i node id, s.calls i = .created node id → id < s.nextId ∧ s.maps.bySession id = none
  apart : ∀ i j node node' id, s.calls i = .created node id → s.calls j = .created node' id → i = j

variable {i : ι} {node : Node}

theorem Sound.initial (nextId : SessionId) :
    Sound kind (Sessions.initial nextId : Sessions ι Node Entry) where
  inverse := Inverse.empty
  issued _ _ := nofun
  held _ _ _ := nofun
  apart _ _ _ _ _ := nofun

/-- The host makes a session. -/
theorem Sound.createOther (sound : Sound kind s) : Sound kind { s with nextId := s.nextId + 1 } where
  inverse := sound.inverse
  issued id n found := (sound.issued id n found).trans (Int.lt_succ _)
  held j n id at_ := ⟨(sound.held j n id at_).1.trans (Int.lt_succ _), (sound.held j n id at_).2⟩
  apart := sound.apart

theorem Sound.remove [DecidableEq Node] (sound : Sound kind s) (node : Node) :
    Sound kind { s with maps := (s.maps.removeByNode kind node).2 } where
  inverse := sound.inverse.removeByNode
  issued id n found := sound.issued id n (bySession_removeByNode found)
  held j n id at_ := by
    obtain ⟨below, unused⟩ := sound.held j n id at_
    refine ⟨below, ?_⟩
    cases found : (s.maps.removeByNode kind node).2.bySession id with
    | none => rfl
    | some n' =>
        rw [bySession_removeByNode found] at unused
        cases unused
  apart := sound.apart

theorem Sound.edit [DecidableEq Node] (sound : Sound kind s) (node : Node) (edit : Edit kind) :
    Sound kind { s with maps := s.maps.onEntry kind node edit } :=
  ⟨sound.inverse.onEntry edit, sound.issued, sound.held, sound.apart⟩

variable [DecidableEq ι]

theorem created_goto {j : ι} {phase : Obtaining Node} {n : Node} {id : SessionId}
    (at_ : (s.goto i phase).calls j = .created n id) :
    j = i ∧ phase = .created n id ∨ j ≠ i ∧ s.calls j = .created n id := by
  unfold Sessions.goto at at_
  by_cases own : j = i
  · subst own
    exact .inl ⟨rfl, (Function.update_self j phase s.calls).symm.trans at_⟩
  · exact .inr ⟨own, (Function.update_of_ne own phase s.calls).symm.trans at_⟩

/-- A call that moves on without a session of its own. -/
theorem Sound.goto {phase : Obtaining Node} (sound : Sound kind s)
    (without : ∀ node id, phase ≠ .created node id) : Sound kind (s.goto i phase) := by
  have back {j : ι} {n : Node} {id : SessionId} (at_ : (s.goto i phase).calls j = .created n id) :
      s.calls j = .created n id := by
    rcases created_goto at_ with ⟨-, same⟩ | ⟨-, before⟩
    · exact absurd same (without n id)
    · exact before
  exact ⟨sound.inverse, sound.issued, fun j n id at_ => sound.held j n id (back at_),
    fun j l n n' id first second => sound.apart j l n n' id (back first) (back second)⟩

theorem Sound.created (sound : Sound kind s) (node : Node) :
    Sound kind ({ s with nextId := s.nextId + 1 }.goto i (.created node s.nextId)) where
  inverse := sound.inverse
  issued id n found := (sound.issued id n found).trans (Int.lt_succ _)
  held j n id at_ := by
    rcases created_goto at_ with ⟨-, new⟩ | ⟨-, before⟩
    · cases new
      refine ⟨Int.lt_succ _, ?_⟩
      cases found : s.maps.bySession s.nextId with
      | none => exact found
      | some n => exact absurd (sound.issued _ n found) (lt_irrefl _)
    · exact ⟨(sound.held j n id before).1.trans (Int.lt_succ _), (sound.held j n id before).2⟩
  apart j l n n' id first second := by
    rcases created_goto first with ⟨own, new⟩ | ⟨-, before⟩
    · rcases created_goto second with ⟨own', -⟩ | ⟨-, before'⟩
      · rw [own, own']
      · cases new
        exact absurd (sound.held l n' _ before').1 (lt_irrefl _)
    · rcases created_goto second with ⟨-, new'⟩ | ⟨-, before'⟩
      · cases new'
        exact absurd (sound.held j n _ before).1 (lt_irrefl _)
      · exact sound.apart j l n n' id before before'

variable [DecidableEq Node]

/-- A call enters the session it was given. -/
theorem Sound.insert {id : SessionId} {obtained : Option (SessionId × Bool)} (sound : Sound kind s)
    (own : s.calls i = .created node id) :
    Sound kind ({ s with maps := (s.maps.getOrInsert kind node id).2 }.goto i (.done obtained)) := by
  obtain ⟨below, unused⟩ := sound.held i node id own
  have back {j : ι} {n : Node} {id' : SessionId} (at_ : ({ s with maps :=
      (s.maps.getOrInsert kind node id).2 }.goto i (.done obtained)).calls j = .created n id') :
      j ≠ i ∧ s.calls j = .created n id' := by
    rcases created_goto at_ with ⟨-, same⟩ | before
    · cases same
    · exact before
  refine ⟨sound.inverse.getOrInsert unused, fun id' n found => ?_, fun j n id' at_ => ?_,
    fun j l n n' id' first second => sound.apart j l n n' id' (back first).2 (back second).2⟩
  · by_cases same : id' = id
    · exact same ▸ below
    · exact sound.issued id' n ((bySession_getOrInsert same).symm.trans found)
  · obtain ⟨other, before⟩ := back at_
    have differs : id' ≠ id := by
      rintro rfl
      exact other (sound.apart j i n node id' before own)
    obtain ⟨below', unused'⟩ := sound.held j n id' before
    exact ⟨below', (bySession_getOrInsert differs).trans unused'⟩

theorem Sound.next (sound : Sound kind s) (action : Sessions.Action ι Node kind) :
    Sound kind (s.next kind action) := by
  cases action with
  | getOrCreate i node =>
      unfold Sessions.next
      dsimp only
      split
      · split
        · exact sound.goto nofun
        · exact sound.goto nofun
      · exact sound
  | refresh i node =>
      unfold Sessions.next
      dsimp only
      split
      · exact (sound.remove node).goto nofun
      · exact sound
  | createOk i =>
      unfold Sessions.next
      dsimp only
      split
      · exact sound.created _
      · exact sound
  | createFailed i =>
      unfold Sessions.next
      dsimp only
      split
      · split
        · exact sound.goto nofun
        · exact sound.goto nofun
      · exact sound
  | insert i =>
      unfold Sessions.next
      dsimp only
      split
      · next node id own => exact sound.insert own
      · exact sound
  | remove node => exact sound.remove node
  | edit node edit => exact sound.edit node edit
  | createOther => exact sound.createOther

theorem Sound.run (nextId : SessionId) (actions : List (Sessions.Action ι Node kind)) :
    Sound kind (Sessions.run kind nextId actions) := by
  have reached := Reaches.follow_free (Sessions.next kind) actions (Sessions.initial nextId)
  refine reached.invariant (Sound.initial nextId) fun action s t sound _ step => ?_
  rw [step]
  exact sound.next action

end Runs

/-! ## The two transports -/

/-- The maps are the two directions of one pairing of nodes and sessions. -/
def Mutual {Node Entry : Type} (kind : EntryKind Entry) (m : SessionMaps Node Entry) : Prop :=
  (∃ pairs : Node ≃. SessionId,
      (∀ node, pairs node = m.lookup kind node) ∧ ∀ id, pairs.symm id = m.nodeForSession id) ∧
    (∀ node node' id, m.lookup kind node = some id → m.lookup kind node' = some id → node = node') ∧
    ∀ id node, m.nodeForSession id = some node → m.lookup kind node = some id

theorem Inverses.mutual {Node Entry : Type} {kind : EntryKind Entry} {m : SessionMaps Node Entry}
    (h : Inverses kind m) : Mutual kind m :=
  ⟨⟨Inverse.toPEquiv h, fun _ => rfl, fun _ => rfl⟩, fun _ _ _ => Inverse.same_source h,
    fun id node => (h node id).mpr⟩

/-- The single map of the transports' models is one of the two. -/
theorem getOrInsert_meshCore (sender : MeshCore.Sender) (id : SessionId)
    (m : SessionMaps MeshCore.Sender MeshCore.SessionEntry) :
    (m.getOrInsert MeshCore.entryKind sender id).2.byNode =
      MeshCore.SessionState.getOrInsert sender id m.byNode := by
  unfold SessionMaps.getOrInsert MeshCore.SessionState.getOrInsert
  cases m.byNode sender <;> rfl

theorem getOrInsert_meshtastic (node : Meshtastic.NodeNum) (id : SessionId)
    (m : SessionMaps Meshtastic.NodeNum Meshtastic.SessionEntry) :
    (m.getOrInsert Meshtastic.entryKind node id).2.byNode =
      Meshtastic.SessionState.getOrInsert node id m.byNode := by
  unfold SessionMaps.getOrInsert Meshtastic.SessionState.getOrInsert
  cases m.byNode node <;> rfl

theorem removeByNode_byNode {Node Entry : Type} [DecidableEq Node] (kind : EntryKind Entry)
    (node : Node) (m : SessionMaps Node Entry) :
    (m.removeByNode kind node).2.byNode = Function.update m.byNode node none := by
  unfold SessionMaps.removeByNode
  cases found : m.byNode node with
  | none => exact (Function.update_eq_self_iff.mpr found.symm).symm
  | some entry => rfl

theorem session_maps_mutual {ι : Type} [DecidableEq ι] (nextId : SessionId) :
    (∀ actions : List (Sessions.Action ι MeshCore.Sender MeshCore.entryKind),
        Mutual MeshCore.entryKind (Sessions.run MeshCore.entryKind nextId actions).maps) ∧
      ∀ actions : List (Sessions.Action ι Meshtastic.NodeNum Meshtastic.entryKind),
        Mutual Meshtastic.entryKind (Sessions.run Meshtastic.entryKind nextId actions).maps :=
  ⟨fun actions => (Sound.run nextId actions).inverse.mutual,
    fun actions => (Sound.run nextId actions).inverse.mutual⟩

end SupplyDrop.Proof.SessionMaps
