import Mathlib
import SupplyDrop.Store.Database

namespace SupplyDrop.Store
open Library

/-- What a block hid from its owner: how many messages, and the oldest of them. -/
structure HiddenWhileBlocked where
  count : Nat
  oldest : MessageId
deriving DecidableEq

namespace BlockStore

def blockUser (blocker blocked : String) : StoreM Unit := do
  let newest ← query fun db => db.messages.rows.getLast?.map (·.1)
  execute fun db => { db with
    userBlocks := if db.userBlocks.any fun b => b.blocker = blocker && b.blocked = blocked then
      db.userBlocks else db.userBlocks ++ [⟨blocker, blocked, some (newest.getD 0)⟩] }

def unblockUser (blocker blocked : String) : StoreM Unit :=
  execute fun db => { db with
    userBlocks := db.userBlocks.filter fun b => !(b.blocker = blocker && b.blocked = blocked) }

/-- The posts of `blocked` after id `since` that the reader's pointers have passed. -/
def passedOver (db : Database) (blockerId : UserId) (blocked : String) (since : MessageId) :
    Finset (RoomId × MessageId) :=
  db.roomMessages.filter fun p =>
    (db.messages.get? p.2).any (fun row => row.sender.text = blocked) ∧ since < p.2 ∧
      ((db.userRoomState blockerId p.1).join.any fun pointer => p.2 ≤ pointer)

def hiddenWhileBlocked (blockerId : UserId) (blocker blocked : String) :
    StoreM (Option HiddenWhileBlocked) := do
  let since ← query fun db => (db.userBlocks.find? fun b =>
    b.blocker = blocker && b.blocked = blocked).bind (·.blockedAtMessageId)
  match since with
  | none => pure none
  | some since => do
      let hidden ← query fun db => passedOver db blockerId blocked since
      match (hidden.image (·.2)).min with
      | none => pure none
      | some oldest => pure (some ⟨hidden.card, oldest⟩)

def blocksBy (blocker : String) : StoreM (List String) :=
  query fun db => (db.userBlocks.filter fun b => b.blocker = blocker).map (·.blocked)

def isBlocking (blocker blocked : String) : StoreM Bool :=
  query fun db => db.userBlocks.any fun b => b.blocker = blocker && b.blocked = blocked

end BlockStore
end SupplyDrop.Store
