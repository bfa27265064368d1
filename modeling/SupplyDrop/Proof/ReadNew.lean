import Mathlib
import SupplyDrop.Proof.RoomMessages

namespace SupplyDrop.Proof
open Library Library.Program Store Host

/-! ## The next page of messages -/

def newPage (auth : Auth) (db : Database) (after : Option MessageId) : MessagePage :=
  buildPage ((ahead true auth db after).take (meshPage + 1)) meshPage

def newReply (room : Room) (blocked : List String) (page : MessagePage) : Response :=
  if (visibleTo blocked page.messages).isEmpty then noNewMessages room
  else .multiText (newMessageParts room (visibleTo blocked page.messages) page.nextCursor)

/-- What N says: nothing when a delete has reset the pointer, the page behind it otherwise. -/
def newOf (room : Room) (auth : Auth) (db : Database) : Response :=
  if db.userRoomState auth.userId auth.roomId = some none then noNewMessages room
  else newReply room (blockedBy auth db)
    (newPage auth db (db.userRoomState auth.userId auth.roomId).join)

theorem newPage_messages (auth : Auth) (db : Database) (after : Option MessageId) :
    (newPage auth db after).messages = (ahead true auth db after).take meshPage := by
  unfold newPage
  rw [buildPage_sorted meshPage]
  exact ahead_ordered true after

section New
variable {session : SessionId} {r : SessionRecord} {auth : Auth} {room : Room} {h h' : BbsHost}
  {response : Response}

theorem blocksOf_sure (auth : Auth) (sure : h.store.faults = []) :
    blocksOf auth h = (.ok (blockedBy auth h.store.db), h) :=
  db_query_sure _ sure

theorem pageFor_sure (auth : Auth) (after : Option MessageId) {s : Storage} (sure : s.faults = []) :
    pageFor auth after s = (.ok (newPage auth s.db after), s) := by
  unfold pageFor newPage ahead messagesOf mapMessageRows
  rw [← List.map_take]
  split
  · unfold MessageStore.listDirect
    rw [bind_ok (query_sure _ sure)]
    rfl
  · unfold MessageStore.listInRoom
    rw [bind_ok (query_sure _ sure)]
    rfl

/-- The pointer goes to the last message of the page, and that is all that happens. -/
theorem showNew_run (auth : Auth) (room : Room) (after : Option MessageId)
    (sure : h.store.faults = []) : showNew auth room after h =
      match (newPage auth h.store.db after).messages.getLast? with
      | none => (.ok (noNewMessages room), h)
      | some last =>
          if Unmarkable h.store.db auth.userId auth.roomId last.id then
            (.error (.storage MessageStore.foreignKeyFailed.display), h)
          else (.ok (newReply room (blockedBy auth h.store.db) (newPage auth h.store.db after)),
            { h with store := { h.store with
                db := marked auth.userId auth.roomId last.id h.store.db } }) := by
  have page : db StoreError.display (pageFor auth after) h =
      (.ok (newPage auth h.store.db after), h) := by
    rw [db_ok (pageFor_sure auth after sure)]
  unfold showNew
  rw [bind_ok page, bind_ok (blocksOf_sure auth sure)]
  unfold advancePointer
  cases last : (newPage auth h.store.db after).messages.getLast? with
  | none =>
      have empty := List.getLast?_eq_none_iff.mp last
      dsimp only
      rw [bind_apply, empty]
      rfl
  | some m =>
      have ran := markRead_sure auth.userId auth.roomId m.id sure
      dsimp only
      by_cases unmarkable : Unmarkable h.store.db auth.userId auth.roomId m.id
      · rw [if_pos unmarkable] at ran ⊢
        rw [bind_error (db_error ran)]
      · rw [if_neg unmarkable] at ran ⊢
        rw [bind_ok (db_ok ran)]
        unfold newReply
        split
        · rfl
        · rfl

theorem readNew_runs (reader : Reader session r auth room h) :
    ∃ h', Relevelled session (r.setLevel auth.level) h h' ∧
      Reader session (r.setLevel auth.level) auth room h' ∧ handleReadNew session h =
        if h.store.db.userRoomState auth.userId auth.roomId = some none then
          repairPointer auth room h'
        else showNew auth room (h.store.db.userRoomState auth.userId auth.roomId).join h' := by
  obtain ⟨h', admitted, same, reader'⟩ := reading_reader reader
  have store := same.store
  refine ⟨h', same, reader', ?_⟩
  have pointer : db StoreError.display (MessageStore.getLastRead auth.userId auth.roomId) h' =
      (.ok (h.store.db.userRoomState auth.userId auth.roomId).join, h') := by
    rw [← store]
    exact db_query_sure _ reader'.sure
  have state : db StoreError.display (MessageStore.hasReadState auth.userId auth.roomId) h' =
      (.ok (h.store.db.userRoomState auth.userId auth.roomId).isSome, h') := by
    rw [← store]
    exact db_query_sure _ reader'.sure
  unfold handleReadNew
  rw [admitted, bind_ok pointer]
  cases at_ : h.store.db.userRoomState auth.userId auth.roomId with
  | none =>
      rw [at_] at state
      dsimp only [Option.join_none, Option.isNone_none]
      rw [if_pos rfl, bind_ok state]
      rfl
  | some pointer =>
      cases pointer with
      | none =>
          rw [at_] at state
          dsimp only [Option.join_some, Option.isNone_none]
          rw [if_pos rfl, bind_ok state]
          rfl
      | some id => rfl

theorem repairPointer_replies (ran : repairPointer auth room h = (.ok response, h')) :
    response = noNewMessages room := by
  unfold repairPointer at ran
  obtain ⟨newest, h₁, -, ran⟩ := bind_eq_ok ran
  cases newest with
  | none =>
      cases ran
      rfl
  | some msg =>
      obtain ⟨_, h₂, -, ran⟩ := bind_eq_ok ran
      cases ran
      rfl

/-- Whatever N says is what there is to say of the room. -/
theorem readNew_replies (reader : Reader session r auth room h)
    (ran : handleReadNew session h = (.ok response, h')) :
    response = newOf room auth h.store.db := by
  obtain ⟨h₁, same, reader₁, runs⟩ := readNew_runs reader
  have store := same.store
  rw [runs] at ran
  unfold newOf
  split at ran
  · next reset =>
    rw [if_pos reset]
    exact repairPointer_replies ran
  · next live =>
    rw [if_neg live]
    rw [showNew_run auth room _ reader₁.sure, store] at ran
    unfold newReply
    split at ran
    · next last =>
      cases ran
      rw [List.getLast?_eq_none_iff.mp last]
      rfl
    · split at ran
      · cases ran
      · cases ran
        rfl

end New
end SupplyDrop.Proof
