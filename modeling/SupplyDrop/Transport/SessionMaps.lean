import SupplyDrop.Transport.MeshCore
import SupplyDrop.Transport.Meshtastic

namespace SupplyDrop.Transport
open Library Store Host

/-! ## The two maps of a transport's `SessionState` -/

/-- What the transports' session entries have in common. -/
structure EntryKind (Entry : Type) where
  sessionId : Entry → SessionId
  opened : SessionId → Entry
  opened_id : ∀ id, sessionId (opened id) = id

def MeshCore.entryKind : EntryKind MeshCore.SessionEntry := ⟨(·.sessionId), .opened, fun _ => rfl⟩

def Meshtastic.entryKind : EntryKind Meshtastic.SessionEntry :=
  ⟨(·.sessionId), .opened, fun _ => rfl⟩

/-- `by_prefix` or `by_node`, and `by_session`. -/
structure SessionMaps (Node Entry : Type) where
  byNode : Node → Option Entry
  bySession : SessionId → Option Node

/-- A change of an entry by one of the setters, none of which touches the session. -/
structure Edit {Entry : Type} (kind : EntryKind Entry) where
  apply : Entry → Entry
  keeps : ∀ entry, kind.sessionId (apply entry) = kind.sessionId entry

namespace MeshCore.SessionEntry

def promptEdit (promptText : Option String) (now : Instant) : Edit entryKind where
  apply := updateAwaitingReply promptText now
  keeps entry := by
    unfold updateAwaitingReply
    cases promptText with
    | none => rfl
    | some text =>
        dsimp only
        split <;> rfl

def workflowReplyEdit (text : String) (now : Instant) : Edit entryKind :=
  ⟨setLastWorkflowReply text now, fun _ => rfl⟩

def pubkeyEdit (pubkey : PublicKey) : Edit entryKind := ⟨setFullPubkey pubkey, fun _ => rfl⟩

def clearEdit : Edit entryKind := ⟨clearLastMessage, fun _ => rfl⟩

def timestampEdit (timestamp : BitVec 32) (text : String) (now : Instant) : Edit entryKind where
  apply entry := (entry.dedupByTimestamp timestamp text now).2
  keeps entry := by
    unfold dedupByTimestamp
    dsimp only
    split_ifs <;> rfl

def messageEdit (text : String) (now : Instant) : Edit entryKind where
  apply entry := (entry.dedupMessage text now).2
  keeps entry := by
    unfold dedupMessage
    dsimp only
    split_ifs <;> rfl

end MeshCore.SessionEntry

namespace Meshtastic.SessionEntry

def promptEdit (value : Bool) : Edit entryKind := ⟨setAwaitingReply value, fun _ => rfl⟩

def workflowReplyEdit (text : String) (now : Instant) : Edit entryKind :=
  ⟨setLastWorkflowReply text now, fun _ => rfl⟩

def messageEdit (text : String) (now : Instant) : Edit entryKind where
  apply entry := (entry.dedupMessage text now).2
  keeps entry := by
    unfold dedupMessage
    split_ifs <;> rfl

end Meshtastic.SessionEntry

namespace SessionMaps
variable {Node Entry : Type} [DecidableEq Node] (kind : EntryKind Entry)

def empty : SessionMaps Node Entry := ⟨fun _ => none, fun _ => none⟩

def lookup (node : Node) (m : SessionMaps Node Entry) : Option SessionId :=
  (m.byNode node).map kind.sessionId

def nodeForSession (session : SessionId) (m : SessionMaps Node Entry) : Option Node :=
  m.bySession session

def getOrInsert (node : Node) (newId : SessionId) (m : SessionMaps Node Entry) :
    (SessionId × Bool) × SessionMaps Node Entry :=
  match m.byNode node with
  | some entry => ((kind.sessionId entry, false), m)
  | none =>
      ((newId, true),
        { byNode := Function.update m.byNode node (some (kind.opened newId))
          bySession := Function.update m.bySession newId (some node) })

/-- `remove_by_prefix`, `remove_by_node` -/
def removeByNode (node : Node) (m : SessionMaps Node Entry) :
    Option SessionId × SessionMaps Node Entry :=
  match m.byNode node with
  | some entry =>
      (some (kind.sessionId entry),
        { byNode := Function.update m.byNode node none
          bySession := Function.update m.bySession (kind.sessionId entry) none })
  | none => (none, m)

def onEntry (node : Node) (edit : Edit kind) (m : SessionMaps Node Entry) :
    SessionMaps Node Entry :=
  { m with byNode := Function.update m.byNode node ((m.byNode node).map edit.apply) }

end SessionMaps

/-! ## Calls that run side by side -/

/-- Where a call of `get_or_create_session`, or the refresh of a stale session, has got to. -/
inductive Obtaining (Node : Type) where
  | idle
  -- `create_session` is awaited
  | creating (node : Node) (refreshing : Bool)
  -- the host has made the session, and the maps do not have it yet
  | created (node : Node) (id : SessionId)
  | done (obtained : Option (SessionId × Bool))

/-- The maps, the host's counter of sessions and all calls. -/
structure Sessions (ι Node Entry : Type) where
  maps : SessionMaps Node Entry
  nextId : SessionId
  calls : ι → Obtaining Node

namespace Sessions

inductive Action (ι Node : Type) {Entry : Type} (kind : EntryKind Entry) where
  | getOrCreate (i : ι) (node : Node)
  | refresh (i : ι) (node : Node)
  | createOk (i : ι)
  | createFailed (i : ι)
  | insert (i : ι)
  | remove (node : Node)
  | edit (node : Node) (edit : Edit kind)
  -- a session of another transport, or of this one and given up
  | createOther

variable {ι Node Entry : Type} [DecidableEq ι] [DecidableEq Node] (kind : EntryKind Entry)

def initial (nextId : SessionId) : Sessions ι Node Entry := ⟨.empty, nextId, fun _ => .idle⟩

def goto (s : Sessions ι Node Entry) (i : ι) (phase : Obtaining Node) : Sessions ι Node Entry :=
  { s with calls := Function.update s.calls i phase }

def next (s : Sessions ι Node Entry) : Action ι Node kind → Sessions ι Node Entry
  | .getOrCreate i node =>
      match s.calls i with
      | .idle =>
          match s.maps.lookup kind node with
          | some id => s.goto i (.done (some (id, false)))
          | none => s.goto i (.creating node false)
      | _ => s
  | .refresh i node =>
      match s.calls i with
      | .idle => { s with maps := (s.maps.removeByNode kind node).2 }.goto i (.creating node true)
      | _ => s
  | .createOk i =>
      match s.calls i with
      | .creating node _ => { s with nextId := s.nextId + 1 }.goto i (.created node s.nextId)
      | _ => s
  | .createFailed i =>
      match s.calls i with
      | .creating node refreshing =>
          -- another message may have been there first
          if refreshing then s.goto i (.done none)
          else s.goto i (.done ((s.maps.lookup kind node).map fun id => (id, false)))
      | _ => s
  | .insert i =>
      match s.calls i with
      | .created node id =>
          let got := s.maps.getOrInsert kind node id
          { s with maps := got.2 }.goto i (.done (some got.1))
      | _ => s
  | .remove node => { s with maps := (s.maps.removeByNode kind node).2 }
  | .edit node edit => { s with maps := s.maps.onEntry kind node edit }
  | .createOther => { s with nextId := s.nextId + 1 }

def run (nextId : SessionId) (actions : List (Action ι Node kind)) : Sessions ι Node Entry :=
  actions.foldl (next kind) (initial nextId)

end Sessions

end SupplyDrop.Transport
