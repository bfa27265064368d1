import Mathlib
import SupplyDrop.Proof.Conduct.Login

namespace SupplyDrop.Proof.Conduct
open Library Store Host

variable (D : Conduct) {session : SessionId}

/-! ## Reading -/

theorem reading {k : Auth → Room → HostM Response} (h : ∀ auth room, D.holds (k auth room)) :
    D.holds (Host.reading session k) :=
  D.withGuestAuth fun auth => D.withGuestRule (D.withRoom (h auth))

theorem blocksOf (auth : Auth) : D.holds (Host.blocksOf auth) := D.call (.blocksBy _)

theorem pageFor (show_ : D.has .show) (auth : Auth) (after : Option MessageId) :
    D.lets (Host.pageFor auth after) := by
  unfold Host.pageFor
  split
  · exact D.powered (.directPage _ _ _) show_
  · exact D.powered (.page _ _ _) show_

theorem markRead (auth : Auth) (id : MessageId) :
    D.holds (Host.db StoreError.display (MessageStore.markRead auth.userId auth.roomId id)) :=
  D.call (.markRead _ _ _)

theorem showNew (show_ : D.has .show) (auth : Auth) (room : Room) (after : Option MessageId) :
    D.holds (Host.showNew auth room after) := by
  apply D.seq (D.db (D.pageFor show_ auth after))
  intro page
  apply D.seq (D.blocksOf auth)
  intro blocked
  have advanced : D.holds (advancePointer auth page) := by
    unfold advancePointer
    split
    · exact D.markRead _ _
    · exact D.reply _
  apply D.seq advanced
  intro _
  exact D.ite (fun _ => D.reply _) fun _ => D.reply _

theorem repairPointer (show_ : D.has .show) (auth : Auth) (room : Room) :
    D.holds (Host.repairPointer auth room) := by
  apply D.seq (D.use (.newest auth) show_)
  intro newest
  cases newest with
  | none => exact D.reply _
  | some msg => exact D.seq (D.markRead _ _) fun _ => D.reply _

theorem handleReadNew (show_ : D.has .show) (session : SessionId) :
    D.holds (Host.handleReadNew session) := by
  apply D.reading
  intro auth room
  apply D.seq (D.call (.lastRead _ _))
  intro rawAfter
  apply D.ite
  · intro _
    apply D.seq (D.call (.hasReadState _ _))
    intro hasState
    exact D.ite (fun _ => D.repairPointer show_ auth room) fun _ => D.showNew show_ auth room none
  · intro _
    exact D.showNew show_ auth room _

/-! ## F and R -/

theorem neighbour (show_ : D.has .show) (roomId : RoomId) (username : Username)
    (cursor : Option MessageId) (forward : Bool) :
    D.lets (Host.neighbour roomId username cursor forward) := by
  unfold Host.neighbour
  split
  · split
    · exact D.powered (.nextDirect _ _) show_
    · exact D.powered (.previousDirect _ _) show_
  · split
    · exact D.powered (.next _ _) show_
    · exact D.powered (.previous _ _) show_

theorem stepFrom (show_ : D.has .show) (roomId : RoomId) (username : Username) (forward : Bool)
    (blocked : List String) (skips : Nat) (at_ lastSkipped : Option MessageId) :
    D.holds (Host.stepFrom roomId username forward blocked skips at_ lastSkipped) := by
  induction skips generalizing at_ lastSkipped with
  | zero => exact D.reply _
  | succ skips ih =>
      apply D.seq (D.db (D.neighbour show_ _ _ _ _))
      intro found
      cases found with
      | none => exact D.reply _
      | some m => exact D.ite (fun _ => ih _ _) fun _ => D.reply _

theorem neighbourStep (show_ : D.has .show) (auth : Auth) (cursor : Option MessageId)
    (forward : Bool) (blocked : List String) :
    D.holds (Host.neighbourStep auth cursor forward blocked) :=
  D.stepFrom show_ _ _ _ _ _ _ _

theorem hasNeighbour (show_ : D.has .show) (auth : Auth) (msgId : MessageId) (forward : Bool)
    (blocked : List String) : D.holds (Host.hasNeighbour auth msgId forward blocked) :=
  D.seq (D.neighbourStep show_ _ _ _ _) fun _ => D.reply _

theorem markReadQuietly (auth : Auth) (id : MessageId) : D.holds (Host.markReadQuietly auth id) :=
  D.seq (D.tryCall (.markRead _ _ _)) fun _ => D.reply _

theorem readingAt (session : SessionId) (id : MessageId) :
    D.holds (Host.onSession session fun r => r.readingAt id) :=
  D.onSession fun _ => ⟨rfl, rfl, rfl, rfl, .inr trivial, .inl rfl⟩

theorem showMessage (show_ : D.has .show) (auth : Auth) (msg : Message) (blocked : List String) :
    D.holds (Host.showMessage session auth msg blocked) := by
  apply D.seq (D.markReadQuietly auth msg.id)
  intro _
  apply D.seq (D.readingAt session msg.id)
  intro _
  apply D.seq (D.hasNeighbour show_ _ _ _ _)
  intro hasPrev
  apply D.seq (D.hasNeighbour show_ _ _ _ _)
  intro hasNext
  exact D.reply _

theorem stoppedInBlockedRun (at_ : MessageId) (key : String) :
    D.holds (Host.stoppedInBlockedRun session at_ key) :=
  D.seq (D.readingAt session at_) fun _ => D.reply _

theorem enterReading (session : SessionId) : D.holds (Host.setWorkflow session .reading) := by
  have harmless : Harmless .reading := trivial
  exact D.setWorkflow harmless session

theorem readingIntro (auth : Auth) (room : Room) :
    D.holds (Host.readingIntro session auth room) := by
  have count : D.lets (countFor auth) := by
    unfold countFor
    split
    · exact D.ordinary (.countDirect _)
    · exact D.ordinary (.count _)
  apply D.seq (D.db count)
  intro _
  exact D.seq (D.enterReading session) fun _ => D.reply _

theorem handleReadForward (show_ : D.has .show) (session : SessionId) (after : Option Int) :
    D.holds (Host.handleReadForward session after) := by
  apply D.reading
  intro auth room
  apply D.seq (D.lookUp session)
  intro r
  apply D.ite
  · intro _
    exact D.readingIntro auth room
  · intro _
    apply D.seq (D.blocksOf auth)
    intro blocked
    apply D.seq (D.neighbourStep show_ _ _ _ _)
    intro step
    cases step with
    | found msg => exact D.showMessage show_ auth msg blocked
    | skipped at_ => exact D.stoppedInBlockedRun at_ "F"
    | ended lastSkipped =>
        have marked : D.holds (markSkipped auth lastSkipped) := by
          cases lastSkipped with
          | none => exact D.reply _
          | some last => exact D.markReadQuietly auth last
        apply D.seq marked
        intro _
        exact D.seq (D.enterReading session) fun _ => D.reply _

theorem handleReadReverse (show_ : D.has .show) (session : SessionId) :
    D.holds (Host.handleReadReverse session) := by
  apply D.reading
  intro auth room
  apply D.seq (D.lookUp session)
  intro r
  apply D.ite
  · intro _
    exact D.readingIntro auth room
  · intro _
    apply D.seq (D.blocksOf auth)
    intro blocked
    apply D.seq (D.neighbourStep show_ _ _ _ _)
    intro step
    cases step with
    | found msg => exact D.showMessage show_ auth msg blocked
    | skipped at_ => exact D.stoppedInBlockedRun at_ "R"
    | ended _ => exact D.reply _

/-! ## S and .FF -/

theorem handleScan (show_ : D.has .show) (session : SessionId) :
    D.holds (Host.handleScan session) := by
  apply D.reading
  intro auth room
  apply D.seq (D.use (.page _ _ _) show_)
  intro page
  apply D.seq (D.blocksOf auth)
  intro blocked
  exact D.ite (fun _ => D.reply _) fun _ => D.reply _

theorem handleFastForward (show_ : D.has .show) (session : SessionId) :
    D.holds (Host.handleFastForward session) := by
  apply D.withGuestAuth
  intro auth
  apply D.withGuestRule
  apply D.seq (D.use (.recent _ _) show_)
  intro recent
  split
  · exact D.seq (D.markRead _ _) fun _ => D.reply _
  · exact D.reply _

/-! ## Where a session stands -/

theorem roomsFor (auth : Auth) : D.holds (Host.roomsFor auth) :=
  D.seq (D.call (.listReadable _)) fun _ => D.seq (D.peek _) fun _ => D.reply _

theorem unreadIn (auth : Auth) (roomId : RoomId) : D.holds (Host.unreadIn auth roomId) := by
  apply D.db
  split
  · exact D.ordinary (.unreadDirect _ _ _)
  · exact D.ordinary (.unread _ _)

theorem handleListRoomsFrom (session : SessionId) (start : Nat) :
    D.holds (Host.handleListRoomsFrom session start) := by
  apply D.withGuestAuth
  intro auth
  apply D.seq (D.roomsFor auth)
  intro rooms
  have numbered (room : Room) : D.holds (do
      let unread ← Host.unreadIn auth room.id
      pure (roomLine auth room unread)) :=
    D.seq (D.unreadIn auth room.id) fun _ => D.reply _
  apply D.seq (D.mapM numbered)
  intro lines
  apply D.ite
  · intro _
    exact D.reply _
  · intro _
    dsimp only
    have harmless (start : Nat) : Harmless (.rooms (rooms.map (·.id))
        (paginateRoomLines (lines.drop start) start).2) := trivial
    exact D.seq (D.setWorkflow (harmless _) session) fun _ => D.reply _

theorem tryRooms (show_ : D.has .show) (move : D.has .move) (auth : Auth) (rooms : List Room)
    (moved : Bool) : D.holds (Host.tryRooms session auth rooms moved) := by
  induction rooms generalizing moved with
  | nil => exact D.seq (D.onlyIf (D.move move)) fun _ => D.reply _
  | cons room rest ih =>
      unfold Host.tryRooms
      apply D.ite
      · intro _
        exact ih moved
      · intro _
        apply D.seq (D.unreadIn auth room.id)
        intro unread
        apply D.ite
        · intro _
          apply D.seq (D.move move)
          intro _
          apply D.seq (D.seq (D.handleReadNew show_ session) fun _ => D.reply _)
          intro response
          cases response with
          | none => exact ih true
          | some response => exact D.reply _
        · intro _
          exact ih moved

theorem handleGoNextUnread (show_ : D.has .show) (move : D.has .move) (session : SessionId) :
    D.holds (Host.handleGoNextUnread session) := by
  apply D.withGuestAuth
  intro auth
  apply D.seq (D.roomsFor auth)
  intro rooms
  have hunt : D.holds (huntUnread session auth rooms) := D.tryRooms show_ move auth _ false
  split
  · exact hunt
  · apply D.seq (D.unreadIn auth auth.roomId)
    intro unread
    apply D.ite
    · intro _
      apply D.seq (D.seq (D.handleReadNew show_ session) fun _ => D.reply _)
      intro response
      cases response with
      | none => exact hunt
      | some response => exact D.reply _
    · intro _
      exact hunt

theorem enterRoom (move : D.has .move) (room : Room) (auth : Auth) :
    D.holds (Host.enterRoom session room auth) := by
  apply D.ite
  · intro _
    exact D.reply _
  · intro _
    apply D.seq (D.peek _)
    intro guestRoom
    apply D.ite
    · intro _
      exact D.reply _
    · intro _
      apply D.seq (D.move move)
      intro _
      exact D.seq (D.unreadIn auth room.id) fun _ => D.reply _

theorem repeatOutcome (session : SessionId) : D.holds (Host.repeatOutcome session) := by
  apply D.seq (D.lookUp session)
  intro r
  split <;> exact D.reply _

theorem handleChangeRoom (move : D.has .move) (session : SessionId) (target : String) :
    D.holds (Host.handleChangeRoom session target) := by
  apply D.ite
  · intro _
    exact D.repeatOutcome session
  · intro _
    apply D.withGuestAuth
    intro auth
    have found : D.lets (findRoom target) := by
      unfold findRoom
      split
      · exact D.ordinary (.getRoom _)
      · exact D.ordinary (.findRoom _)
    apply D.seq (D.db found)
    intro room
    cases room with
    | none => exact D.reply _
    | some room => exact D.enterRoom move room auth

theorem handleChangeToRoom (move : D.has .move) (session : SessionId) (roomId : RoomId) :
    D.holds (Host.handleChangeToRoom session roomId) := by
  apply D.withGuestAuth
  intro auth
  apply D.seq (D.call (.getRoom roomId))
  intro room
  cases room with
  | none => exact D.reply _
  | some room => exact D.enterRoom move room auth

/-! ## Drafts -/

theorem stage (draft : D.has .draft) (session : SessionId) (roomId : RoomId)
    (recipient : Option Username) (body : String) :
    D.holds (Host.stage session roomId recipient body) := by
  apply D.seq (D.draft draft)
  intro _
  exact D.seq (D.sessionOnRadio session) fun _ => D.reply _

theorem promptForMessage (draft : D.has .draft) (roomId : RoomId) (room : Room) :
    D.holds (Host.promptForMessage session roomId room) := by
  apply D.ite
  · intro _
    exact D.seq (D.draft draft) fun _ => D.reply _
  · intro _
    exact D.seq (D.draft draft) fun _ => D.reply _

theorem enterMail (draft : D.has .draft) (roomId : RoomId) (raw : String) :
    D.holds (Host.enterMail session roomId raw) := by
  unfold Host.enterMail
  dsimp only
  split
  · exact D.reply _
  · next recipient _ =>
    apply D.seq (D.call (.findUser recipient))
    intro found
    apply D.ite
    · intro _
      exact D.reply _
    · intro _
      exact D.ite (fun _ => D.reply _) fun _ => D.stage draft session roomId _ _

theorem enterInline (draft : D.has .draft) (roomId : RoomId) (room : Room)
    (inlineBody : Option String) :
    D.holds (Host.enterInline session roomId room inlineBody) := by
  unfold Host.enterInline
  dsimp only
  apply D.ite
  · intro _
    exact D.promptForMessage draft roomId room
  · intro _
    apply D.ite
    · intro _
      exact D.enterMail draft roomId _
    · intro _
      exact D.stage draft session roomId none _

theorem handleEnterMessage (draft : D.has .draft) (session : SessionId)
    (inlineBody : Option String) : D.holds (Host.handleEnterMessage session inlineBody) := by
  apply D.withGuestAuth
  intro auth
  apply D.withGuestRule
  apply D.ite
  · intro _
    exact D.reply _
  · intro _
    apply D.whenIdle
    apply D.withRoom
    intro room
    split
    · exact D.reply _
    · exact D.enterInline draft auth.roomId room inlineBody

theorem replyRecipient (show_ : D.has .show) (roomId : RoomId) :
    D.holds (Host.replyRecipient session roomId) := by
  apply D.seq (D.lookUp session)
  intro r
  split
  · exact D.reply _
  · exact D.seq (D.use (.getMessage _) show_) fun _ => D.reply _

theorem handleReplyFromReading (show_ : D.has .show) (draft : D.has .draft) (session : SessionId) :
    D.holds (Host.handleReplyFromReading session) := by
  apply D.withUserAuth
  intro auth
  apply D.withRoom
  intro room
  split
  · exact D.reply _
  · apply D.seq (D.replyRecipient show_ auth.roomId)
    intro recipient
    exact D.seq (D.draft draft) fun _ => D.reply _

theorem composeRecipient (draft : D.has .draft) (session : SessionId) (roomId : RoomId)
    (reply : String) : D.holds (Host.composeRecipient session roomId reply) := by
  unfold Host.composeRecipient
  split
  · exact D.seq (D.draft draft) fun _ => D.reply _
  · next recipient _ =>
    apply D.seq (D.call (.findUser recipient))
    intro found
    apply D.ite
    · intro _
      exact D.seq (D.draft draft) fun _ => D.reply _
    · intro _
      exact D.seq (D.draft draft) fun _ => D.reply _

theorem composeBody (draft : D.has .draft) (session : SessionId) (roomId : RoomId)
    (recipient : Option Username) (reply : String) :
    D.holds (Host.composeBody session roomId recipient reply) := by
  unfold Host.composeBody
  dsimp only
  apply D.ite
  · intro _
    exact D.seq (D.draft draft) fun _ => D.reply _
  · intro _
    exact D.stage draft session roomId recipient _

theorem post (post : D.has .post) (roomId : RoomId) (sender : Username)
    (recipient : Option Username) (body : String) :
    D.holds (Host.post roomId sender recipient body) := by
  apply D.seq D.now
  intro now
  cases recipient with
  | none => exact D.seq (D.use (.postToRoom _ _ _ _) post) fun _ => D.reply _
  | some rcpt => exact D.seq (D.use (.postDirect _ _ _ _) post) fun _ => D.reply _

theorem sendDraft (post : D.has .post) (session : SessionId) (roomId : RoomId)
    (recipient : Option Username) (body : String) :
    D.holds (Host.sendDraft session roomId recipient body) := by
  apply D.seq (D.lookUp session)
  intro r
  split
  · exact D.refuse _
  · next username _ =>
    apply D.seq (D.post post _ _ _ _)
    rintro ⟨id, target, confirmation⟩
    have passing : Passing (.messagePosted username target id) := trivial
    apply D.seq (D.emit passing)
    intro _
    exact D.seq (D.conclude post) fun _ => D.reply _

theorem composeConfirm (draft : D.has .draft) (post : D.has .post) (session : SessionId)
    (roomId : RoomId) (recipient : Option Username) (body reply : String) :
    D.holds (Host.composeConfirm session roomId recipient body reply) := by
  apply D.ite
  · intro _
    exact D.seq (D.conclude post) fun _ => D.reply _
  · intro _
    apply D.ite
    · intro _
      exact D.stage draft session roomId recipient body
    · intro _
      exact D.sendDraft post session roomId recipient body

theorem handleDelete (show_ : D.has .show) (erase : D.has .erase) (session : SessionId) (id : Int) :
    D.holds (Host.handleDelete session id) := by
  apply D.withUserAuth
  intro auth
  apply D.seq (D.use (.getMessage id) show_)
  intro msg
  cases msg with
  | none => exact D.reply _
  | some msg =>
      apply D.seq (D.call (.isVisible msg auth.roomId))
      intro inRoom
      apply D.ite
      · intro _
        exact D.reply _
      · intro _
        apply D.ite
        · intro _
          exact D.reply _
        · intro _
          apply D.seq (D.use (.deleteMessage msg.id) erase)
          intro _
          exact D.seq (D.onlyIf (D.audit _ _ _ _)) fun _ => D.reply _

end SupplyDrop.Proof.Conduct
