import Mathlib
import SupplyDrop.Proof.RoomsExist.Runs

namespace SupplyDrop.Proof.Suspensions
open Library Library.Program Store Host RoomsExist

/-- A timeout is recorded of a banned account only. -/
def BookedRow (row : UserRow) : Prop := row.suspendedUntil.isSome → row.status = .banned

def Booked (users : RowTable UserRow) : Prop := ∀ id row, users.get? id = some row → BookedRow row

def BooksKept (h : BbsHost) : Prop := Booked h.store.db.users

theorem BookedRow.untimed {row : UserRow} (untimed : row.suspendedUntil = none) : BookedRow row := by
  intro timed
  rw [untimed] at timed
  cases timed

theorem booked_reactivate {row : UserRow} (booked : BookedRow row) (now : Timestamp) :
    BookedRow (UserStore.reactivate now row) := by
  unfold UserStore.reactivate
  split
  · exact .untimed rfl
  · exact booked

section Tables
variable {users : RowTable UserRow}

theorem Booked.update {id : UserId} {f : UserRow → UserRow} (booked : Booked users)
    (each : ∀ r, BookedRow r → BookedRow (f r)) : Booked (users.update id f) := by
  intro i row stored
  rw [RowTable.get?_update] at stored
  split at stored
  · obtain ⟨r, before, rfl⟩ := Option.map_eq_some_iff.mp stored
    exact each r (booked i r before)
  · exact booked i row stored

theorem Booked.insert {row : UserRow} (booked : Booked users) (new : BookedRow row) :
    Booked (users.insert row) := by
  intro i r stored
  rw [RowTable.get?_insert] at stored
  split at stored
  · cases stored
    exact new
  · exact booked i r stored

theorem Booked.aside {db db' : Database} (booked : Booked db.users) (aside : Aside db db') :
    Booked db'.users := by
  intro id row stored timed
  obtain ⟨before, found, eq⟩ := aside.before stored
  have status : before.status = row.status := congrArg (·.2.2.1) eq
  have until_ : before.suspendedUntil = row.suspendedUntil := congrArg (·.2.2.2) eq
  rw [← status]
  exact booked id before found (by rw [until_]; exact timed)

theorem Booked.effect {db db' : Database} {p : Power} (booked : Booked db.users)
    (effect : Effect db p db') (other : p ≠ .standing) : Booked db'.users := by
  cases effect with
  | enrolled free active untimed => exact booked.insert (.untimed untimed)
  | stood same => exact absurd rfl other
  | graded => exact booked.update fun _ kept => kept
  | kept | notified | reset | pardoned | opened | edited | razed | posted | mailed | erased =>
      exact booked

end Tables

/-- A status that is left as it is, or made that of a banned account. -/
def Barring (status : Option UserStatus) : Prop := status = none ∨ status = some .banned

theorem update_books {h : BbsHost} {id : UserId} {status : Option UserStatus}
    {level : Option PermissionLevel} (barring : Barring status) (booked : BooksKept h) :
    BooksKept { h with store := (UserStore.update id none status level none h.store).2 } := by
  obtain ⟨-, kept | wrote⟩ := update_fields id status level h.store
  · rw [BooksKept, kept]
    exact booked
  · rw [BooksKept, wrote]
    apply booked.update
    intro r before timed
    rcases barring with rfl | rfl
    · exact before timed
    · rfl

theorem suspend_books {h : BbsHost} {id : UserId} {until_ : Timestamp} (booked : BooksKept h) :
    BooksKept { h with store := (UserStore.suspend id until_ h.store).2 } := by
  obtain ⟨-, kept | wrote⟩ := whereId_effect id
    (fun r => { r with status := .banned, suspendedUntil := some until_ }) h.store
  · rw [BooksKept, UserStore.suspend, kept]
    exact booked
  · rw [BooksKept, UserStore.suspend, wrote]
    exact booked.update fun _ _ _ => rfl

theorem clear_books {h : BbsHost} {id : UserId} (booked : BooksKept h) :
    BooksKept { h with store := (UserStore.clearSuspension id h.store).2 } := by
  obtain ⟨-, kept | wrote⟩ := whereId_effect id (fun r => { r with suspendedUntil := none }) h.store
  · rw [BooksKept, UserStore.clearSuspension, kept]
    exact booked
  · rw [BooksKept, UserStore.clearSuspension, wrote]
    exact booked.update fun _ _ => .untimed rfl

/-- Only an operation that changes the standing of an account can spoil the books. -/
theorem booked_invariant : Invariant BooksKept (· ≠ .standing) where
  aside h s booked aside _ := booked.aside aside
  lift h s id booked _ wrote := by
    rw [BooksKept, wrote]
    exact booked.update fun _ kept => booked_reactivate kept _
  quiet h m booked _ := booked
  powered powered other h booked := booked.effect (powered_effect powered h.store) other
  patch id status level standing _ h booked := by
    apply update_books (.inl ?_) booked
    cases status with
    | none => rfl
    | some status => exact absurd rfl (standing rfl)
  bind _ _ _ _ _ _ _ booked := booked
  hold _ _ _ _ _ _ booked := booked
  guest _ _ _ booked := booked
  move _ _ _ _ booked := booked
  draft _ _ _ _ _ booked := booked
  conclude _ _ _ _ booked := booked

abbrev keepingBooks : Conduct := booked_invariant.conduct

theorem keepingBooks_iff {α : Type} {m : HostM α} :
    keepingBooks.holds m ↔ Keeps BooksKept m := Discipline.keeping_iff

section Handlers
variable {session : SessionId}

theorem handleBanUser_books (username : Username) :
    keepingBooks.holds (handleBanUser session username) := by
  apply keepingBooks.handleBanUser
  · exact fun _ _ booked => update_books (.inr rfl) booked
  · exact fun _ _ booked => clear_books booked

theorem adminSuspendUser_books (username : String) (days : Nat) :
    keepingBooks.holds (adminSuspendUser username days) :=
  keepingBooks.adminSuspendUser (fun _ _ _ booked => suspend_books booked) username days

theorem handleTimeoutUser_books (username : Username) (days : Nat) :
    keepingBooks.holds (handleTimeoutUser session username days) :=
  keepingBooks.handleTimeoutUser (fun _ _ _ booked => suspend_books booked) session username days

end Handlers

/-! ## Two statements, of which the second may fail -/

/-- No statement of the store fails. -/
def Calm (s : Storage) : Prop := ∀ fault ∈ s.faults, fault = none

theorem Calm.later {s s' : Storage} (calm : Calm s) (later : Later s s') : Calm s' :=
  fun fault mem => calm fault (later.faults.subset mem)

theorem Calm.execute {s : Storage} (calm : Calm s) (f : Database → Database) :
    (Store.execute f s).2.db = f s.db := by
  rcases ran : Store.execute f s with ⟨r, s'⟩
  cases r with
  | ok u => exact execute_ok ran
  | error e =>
      rw [Store.execute] at ran
      rcases faults : s.faults with _ | ⟨_ | e', rest⟩
      · have started : statement s = (.ok (), s) := by rw [statement, faults]
        rw [Program.bind_ok started] at ran
        cases ran
      · have started : statement s = (.ok (), { s with faults := rest }) := by rw [statement, faults]
        rw [Program.bind_ok started] at ran
        cases ran
      · cases calm (some e') (by rw [faults]; exact List.mem_cons_self)

theorem Calm.clears {s : Storage} (calm : Calm s) (id : UserId) :
    (UserStore.clearSuspension id s).2.db = { s.db with
      users := s.db.users.update id fun r => { r with suspendedUntil := none } } := by
  have wrote := calm.execute fun db => { db with
    users := db.users.update id fun r => { r with suspendedUntil := none } }
  unfold UserStore.clearSuspension UserStore.whereId
  rw [Program.bind_apply]
  dsimp only [Program.gets_apply]
  rw [Program.bind_apply]
  rcases ran : Store.execute (fun db => { db with
    users := db.users.update id fun r => { r with suspendedUntil := none } }) s with ⟨r, s'⟩
  rw [ran] at wrote
  cases r with
  | error e => exact wrote
  | ok u =>
      dsimp only
      split <;> exact wrote

/-- The store is calm where the timeout of the account is to be taken back. -/
def Fit (id : UserId) (h : BbsHost) : Prop :=
  ∀ row, h.store.db.users.get? id = some row → row.suspendedUntil.isSome → Calm h.store

/-- The books are kept, or will be when the timeout of the account is cleared. -/
structure Clearable (id : UserId) (h : BbsHost) : Prop where
  others : ∀ i row, i ≠ id → h.store.db.users.get? i = some row → BookedRow row
  own : Calm h.store ∨ ∀ row, h.store.db.users.get? id = some row → BookedRow row

theorem Clearable.of_kept {id : UserId} {h : BbsHost} (booked : BooksKept h) : Clearable id h :=
  ⟨fun i row _ stored => booked i row stored, .inr fun row stored => booked id row stored⟩

theorem Clearable.cleared {id : UserId} {h : BbsHost} (clearable : Clearable id h) :
    BooksKept { h with store := (UserStore.clearSuspension id h.store).2 } := by
  have cleared (db : Database) (wrote : db = { h.store.db with
      users := h.store.db.users.update id fun r => { r with suspendedUntil := none } }) :
      Booked db.users := by
    intro i row stored
    rw [wrote, RowTable.get?_update] at stored
    split at stored
    · obtain ⟨r, -, rfl⟩ := Option.map_eq_some_iff.mp stored
      exact .untimed rfl
    · next other => exact clearable.others i row other stored
  rcases clearable.own with calm | own
  · exact cleared _ (calm.clears id)
  · obtain ⟨-, kept | wrote⟩ := whereId_effect id (fun r => { r with suspendedUntil := none }) h.store
    · rw [BooksKept, UserStore.clearSuspension, kept]
      intro i row stored
      by_cases same : i = id
      · rw [same] at stored
        exact own row stored
      · exact clearable.others i row same stored
    · exact cleared _ wrote

/-- What writing a status leaves, where it was written and where it was not. -/
def Rewritten (id : UserId) (r : Except HostError Unit) (h : BbsHost) : Prop :=
  match r with
  | .ok _ => Clearable id h
  | .error _ => BooksKept h

theorem status_rewritten {id : UserId} {status : Option UserStatus} {level : Option PermissionLevel}
    {describe : StoreError → String} : Triple (fun h => BooksKept h ∧ Fit id h)
      (db describe (UserStore.update id none status level none)) (Rewritten id) := by
  rintro h ⟨booked, fit⟩
  rcases ran : UserStore.update id none status level none h.store with ⟨r, s⟩
  cases r with
  | error e =>
      rw [db_error ran]
      show Booked s.db.users
      rw [update_error ran]
      exact booked
  | ok u =>
      rw [db_ok ran]
      have fields := update_fields id status level h.store
      rw [ran] at fields
      obtain ⟨later, kept | wrote⟩ := fields
      · apply Clearable.of_kept
        show Booked s.db.users
        rw [show s.db = h.store.db from kept]
        exact booked
      · have users : s.db.users = _ := congrArg (·.users) wrote
        refine ⟨fun i row other stored => ?_, ?_⟩
        · rw [show s.db.users = _ from users, RowTable.get?_update, if_neg other] at stored
          exact booked i row stored
        · by_cases timed : ∃ row, h.store.db.users.get? id = some row ∧ row.suspendedUntil.isSome
          · obtain ⟨row, stored, timed⟩ := timed
            exact .inl ((fit row stored timed).later later)
          · refine .inr fun row stored timed' => absurd ?_ timed
            rw [show s.db.users = _ from users, RowTable.get?_update, if_pos rfl] at stored
            obtain ⟨before, found, rfl⟩ := Option.map_eq_some_iff.mp stored
            exact ⟨before, found, timed'⟩

theorem suspension_cleared {id : UserId} {describe : StoreError → String} :
    Triple (Clearable id) (db describe (UserStore.clearSuspension id)) fun _ => BooksKept :=
  fun _ clearable => clearable.cleared

theorem status_then_clear {id : UserId} {status : Option UserStatus} {level : Option PermissionLevel}
    {describe : StoreError → String} {α : Type} {k : HostM α} (rest : Keeps BooksKept k) :
    Triple (fun h => BooksKept h ∧ Fit id h) (do
      db describe (UserStore.update id none status level none)
      db describe (UserStore.clearSuspension id)
      k) fun _ => BooksKept := by
  refine status_rewritten.bind ?_ ?_
  · intro _
    exact suspension_cleared.bind (fun _ => rest) fun _ _ kept => kept
  · exact fun _ _ kept => kept

/-! ## Commands -/

/-- The account of that name, with a timeout recorded. -/
def Timed (h : BbsHost) (name : Username) (row : UserRow) : Prop :=
  ∃ id, h.store.db.users.get? id = some row ∧ row.username = name ∧ row.suspendedUntil.isSome

/-- No Sysop deletes an account with a timeout, unless it is that of another Sysop, and none fails
of the statements of an `UNBAN` that ends a timeout. -/
def Careful (session : SessionId) (cmd : Command) (h : BbsHost) : Prop :=
  match cmd with
  | .deleteUser name => Commands h session → ∀ row, Timed h name row → row.permissionLevel = .sysop
  | .unbanUser name => Commands h session → ∀ row, Timed h name row → Calm h.store
  | _ => True

theorem timed_aside {h : BbsHost} {s : Storage} (aside : Aside h.store.db s.db) {name : Username}
    {row' : UserRow} (timed : Timed { h with store := s } name row') :
    ∃ row, Timed h name row ∧ row.permissionLevel = row'.permissionLevel := by
  obtain ⟨id, stored, named, timed⟩ := timed
  obtain ⟨row, before, eq⟩ := aside.before stored
  have name_ : row.username = row'.username := congrArg (·.1) eq
  have until_ : row.suspendedUntil = row'.suspendedUntil := congrArg (·.2.2.2) eq
  exact ⟨row, ⟨id, before, name_.trans named, by rw [until_]; exact timed⟩, congrArg (·.2.1) eq⟩

theorem timed_lift {h : BbsHost} {s : Storage} {user : UserId}
    (wrote : s.db = { h.store.db with
      users := h.store.db.users.update user (UserStore.reactivate h.store.now) })
    {name : Username} {row' : UserRow} (timed : Timed { h with store := s } name row') :
    ∃ row, Timed h name row ∧ row.permissionLevel = row'.permissionLevel := by
  obtain ⟨id, stored, named, timed⟩ := timed
  obtain ⟨row, before, rfl | ⟨-, rfl⟩⟩ := reactivated_row wrote stored
  · exact ⟨row', ⟨id, before, named, timed⟩, rfl⟩
  · cases timed

section Handlers
variable {session : SessionId}

theorem careful_of {h h' : BbsHost} {cmd : Command} (careful : Careful session cmd h)
    (commands : Commands h' session → Commands h session)
    (timed : ∀ name row', Timed h' name row' →
      ∃ row, Timed h name row ∧ row.permissionLevel = row'.permissionLevel)
    (later : Later h.store h'.store) : Careful session cmd h' := by
  unfold Careful at careful ⊢
  split
  · intro sysop row' timed'
    obtain ⟨row, before, level⟩ := timed _ row' timed'
    rw [← level]
    exact careful (commands sysop) row before
  · intro sysop row' timed'
    obtain ⟨row, before, -⟩ := timed _ row' timed'
    exact (careful (commands sysop) row before).later later
  · trivial

theorem lasting_careful (cmd : Command) :
    Lasting fun h => BooksKept h ∧ Careful session cmd h where
  aside h s holds aside later :=
    ⟨booked_invariant.aside h s holds.1 aside later, careful_of holds.2 (commands_aside aside)
      (fun _ _ => timed_aside aside) later⟩
  lift h s id holds later wrote :=
    ⟨booked_invariant.lift h s id holds.1 later wrote, careful_of holds.2 (commands_lift wrote)
      (fun _ _ => timed_lift wrote) later⟩
  ready _ _ holds ready :=
    ⟨holds.1, careful_of holds.2 (commands_ready ready) (fun _ row timed => ⟨row, timed, rfl⟩)
      (.refl _)⟩

theorem refreshed_books {h h' : BbsHost} (booked : BooksKept h) (refreshed : Refreshed session h h') :
    BooksKept h' := by
  rw [BooksKept, refreshed.db]
  exact booked

theorem handleUnbanUser_books (name : Username) (h : BbsHost) (booked : BooksKept h)
    (careful : Careful session (.unbanUser name) h) :
    BooksKept (handleUnbanUser session name h).2 := by
  apply named_spec fun h' => refreshed_books booked
  intro auth user h' refreshed served sysop stored named
  have booked' := refreshed_books booked refreshed
  have fit : Fit user.id h' := by
    intro row found timed
    rw [refreshed.db, stored] at found
    cases found
    have commands := commands_of_served served sysop
    exact (careful commands user.toUserRow ⟨user.id, stored, named, timed⟩).later refreshed.later
  split
  · exact booked'
  · have audited : keepingBooks.holds (do
        audit auth.username.text "unban" (some name.text) none
        pure (.text s!"'{name.text}' has been unbanned.") : HostM Response) :=
      keepingBooks.seq (keepingBooks.audit _ _ _ _) fun _ => keepingBooks.reply _
    exact status_then_clear (keepingBooks_iff.mp audited) h' ⟨booked', fit⟩

theorem handleDeleteUser_books (name : Username) (h : BbsHost) (booked : BooksKept h)
    (careful : Careful session (.deleteUser name) h) :
    BooksKept (handleDeleteUser session name h).2 := by
  apply named_spec fun h' => refreshed_books booked
  intro auth user h' refreshed served sysop stored named
  have booked' := refreshed_books booked refreshed
  split
  · exact booked'
  · split
    · exact booked'
    · next outranked =>
      have untimed : user.suspendedUntil = none := by
        by_contra timed
        have commands := commands_of_served served sysop
        have level : user.permissionLevel = .sysop :=
          careful commands user.toUserRow ⟨user.id, stored, named, Option.isSome_iff_ne_none.mpr timed⟩
        have above : outranks auth user = true := by simpa using outranked
        exact below_sysop above level
      have written : BooksKept { h' with
          store := (UserStore.update user.id none (some .deleted) none none h'.store).2 } := by
        obtain ⟨-, kept | wrote⟩ := update_fields user.id (some .deleted) none h'.store
        · rw [BooksKept, kept]
          exact booked'
        · rw [BooksKept, wrote]
          intro i row found
          rw [RowTable.get?_update, refreshed.db] at found
          split at found
          · next same =>
            rw [same, stored] at found
            cases found
            exact .untimed untimed
          · exact booked i row found
      have deleted : Ensures BooksKept (fun h => h = h') (db StoreError.display
          (UserStore.update user.id none (some .deleted) none none)) fun _ => BooksKept := by
        rintro h rfl
        exact ⟨written, fun _ _ => written⟩
      have rest : keepingBooks.holds (do
          removeSessionsOf name
          audit auth.username.text "delete_user" (some name.text) none
          pure (.text s!"'{name.text}' has been deleted.") : HostM Response) := by
        have removed := keepingBooks.oust nofun name
        exact keepingBooks.seq removed fun _ =>
          keepingBooks.seq (keepingBooks.audit _ _ _ _) fun _ => keepingBooks.reply _
      have whole := deleted.bind fun _ => .ofKeeps (keepingBooks_iff.mp rest)
      exact (whole h' rfl).1

theorem reviewReply_books (pending : List Username) (index : Nat) (reply : String) :
    keepingBooks.holds (reviewReply session pending index reply) :=
  keepingBooks.reviewReply (keepingBooks.handleValidateUser nofun session) handleBanUser_books
    pending index reply

theorem restartAuth_books (escape : AuthEscape) : keepingBooks.holds (restartAuth session escape) :=
  keepingBooks.restartAuth (keepingBooks.createUserAndLogin nofun nofun nofun session)
    (keepingBooks.finalizeLogin nofun session) nofun escape

theorem processCommand_books (cmd : Command) (h : BbsHost) (booked : BooksKept h)
    (careful : ∀ c, Asks h session cmd c → Careful session c h) :
    BooksKept (processCommand session cmd h).2 := by
  apply booked_invariant.command lasting_careful ?_ ?_ ?_ ?_ h booked careful
  · intro target
    exact keepingBooks_iff.mp (keepingBooks.handleChangeRoom nofun session target)
  · intro c onReply h fresh booked careful
    have other (ordinary : ∀ p ∈ Conduct.takes c, p ≠ .standing) :
        BooksKept (dispatch onReply session c h).2 :=
      keepingBooks_iff.mp (keepingBooks.dispatch ordinary fun text same =>
        absurd same (fresh text)) h booked
    cases c with
    | banUser name => exact keepingBooks_iff.mp (handleBanUser_books name) h booked
    | timeoutUser name days => exact keepingBooks_iff.mp (handleTimeoutUser_books name days) h booked
    | unbanUser name => exact handleUnbanUser_books name h booked careful
    | deleteUser name => exact handleDeleteUser_books name h booked careful
    | _ => exact other (by simp [Conduct.takes])
  · intro workflow reply h _ unlisted _ booked _
    have other (ordinary : ∀ p ∈ Conduct.takesReply workflow, p ≠ .standing) :
        BooksKept (dispatchReply processFresh session workflow reply h).2 :=
      keepingBooks_iff.mp (keepingBooks.dispatchReply
        (fun roomIds next same => absurd same (unlisted roomIds next)) ordinary reply) h booked
    cases workflow with
    | reviewPending pending index =>
        exact keepingBooks_iff.mp (reviewReply_books pending index reply) h booked
    | _ => exact other (by simp [Conduct.takesReply])
  · intro escape h booked _
    exact keepingBooks_iff.mp (restartAuth_books escape) h booked

end Handlers

/-! ## Requests -/

/-- No statement fails where the account of that name has a timeout. -/
def CalmFor (username : String) (h : BbsHost) : Prop :=
  ∀ name, username? username = some name → ∀ row, Timed h name row → Calm h.store

/-- No statement fails of a request that ends a timeout. -/
def CarefulRequest (request : WebRequest) (h : BbsHost) : Prop :=
  match request with
  | .updateUser username body => body.status = some 0 ∨ body.status = some 2 → CalmFor username h
  | _ => True

theorem careful_stable (request : WebRequest) :
    Stable fun h => BooksKept h ∧ CarefulRequest request h where
  aside h s holds aside later := by
    refine ⟨booked_invariant.aside h s holds.1 aside later, ?_⟩
    cases request with
    | updateUser username body =>
        intro lifts name known row' timed'
        obtain ⟨row, timed, -⟩ := timed_aside aside timed'
        exact (holds.2 lifts name known row timed).later later
    | _ => trivial
  lift h s id holds later wrote := by
    refine ⟨booked_invariant.lift h s id holds.1 later wrote, ?_⟩
    cases request with
    | updateUser username body =>
        intro lifts name known row' timed'
        obtain ⟨row, timed, -⟩ := timed_lift wrote timed'
        exact (holds.2 lifts name known row timed).later later
    | _ => trivial

theorem fit_stable (id : UserId) : Stable fun h => BooksKept h ∧ Fit id h where
  aside h s holds aside later := by
    refine ⟨booked_invariant.aside h s holds.1 aside later, fun row' stored timed' => ?_⟩
    obtain ⟨row, before, eq⟩ := aside.before stored
    have until_ : row.suspendedUntil = row'.suspendedUntil := congrArg (·.2.2.2) eq
    exact (holds.2 row before (by rw [until_]; exact timed')).later later
  lift h s user holds later wrote := by
    refine ⟨booked_invariant.lift h s user holds.1 later wrote, fun row' stored timed' => ?_⟩
    obtain ⟨row, before, rfl | ⟨-, rfl⟩⟩ := reactivated_row wrote stored
    · exact (holds.2 row' before timed').later later
    · cases timed'

theorem adminUser_fit (username : String) : Ensures BooksKept
    (fun h => BooksKept h ∧ CalmFor username h) (adminUser username)
    fun user h => BooksKept h ∧ Fit user.id h := by
  unfold adminUser
  split
  · exact .fail fun _ holds => holds.1
  · next name known =>
    rintro h ⟨booked, careful⟩
    have same := Reads.findUser name h.store
    rcases read : UserStore.getByUsername name h.store with ⟨r, s⟩
    rw [read] at same
    obtain ⟨db, later⟩ := same
    have booked' : BooksKept { h with store := s } := by
      rw [BooksKept, show s.db = h.store.db from db]
      exact booked
    cases r with
    | error e =>
        rw [Program.bind_error (db_error read)]
        refine ⟨booked', fun user' eq => ?_⟩
        cases eq
    | ok user =>
        rw [Program.bind_ok (db_ok read)]
        cases user with
        | none =>
            refine ⟨booked', fun user' eq => ?_⟩
            cases eq
        | some user =>
            refine ⟨booked', fun user' eq => ?_⟩
            cases eq
            refine ⟨booked', fun row stored timed => ?_⟩
            obtain ⟨found, named⟩ := found_username read
            have there : s.db.users.get? user.id = some row := stored
            rw [show s.db = h.store.db from db, found] at there
            cases there
            exact (careful name known user.toUserRow ⟨user.id, found, named, timed⟩).later later

theorem applyUpdate_books (user : User) (status : Option UserStatus) (level : Option PermissionLevel) :
    Ensures BooksKept (fun h => BooksKept h ∧ Fit user.id h) (applyUpdate user status level)
      fun _ => BooksKept := by
  have written : Triple (fun h => BooksKept h ∧ Fit user.id h) (applyUpdate user status level)
      fun _ => BooksKept := by
    cases status with
    | none =>
        have kept : keepingBooks.holds (applyUpdate user none level) :=
          keepingBooks.applyUpdate (fun _ _ booked => update_books (.inl rfl) booked) nofun user
        exact fun h holds => keepingBooks_iff.mp kept h holds.1
    | some status => exact status_rewritten.bind (fun _ => suspension_cleared) fun _ _ kept => kept
  exact fun h holds => ⟨written h holds, fun _ _ => written h holds⟩

theorem adminUpdateUser_lifts (username : String) (status level : Option Nat) (h : BbsHost)
    (booked : BooksKept h) (careful : CalmFor username h) :
    BooksKept (adminUpdateUser username status level h).2 := by
  have whole : Ensures BooksKept (fun h => BooksKept h ∧ CalmFor username h)
      (adminUpdateUser username status level) fun _ _ => True := by
    apply (adminUser_fit username).bind
    intro user
    have kept {α : Type} {m : HostM α} (keeps : Keeps (fun h => BooksKept h ∧ Fit user.id h) m) :
        Ensures BooksKept (fun h => BooksKept h ∧ Fit user.id h) m
          fun _ h => BooksKept h ∧ Fit user.id h :=
      (Ensures.ofKeeps keeps).weaken fun _ holds => holds.1
    have decoded {α : Type} (r : Except HostError α) :
        Keeps (fun h => BooksKept h ∧ Fit user.id h) (orFail r) := by
      cases r with
      | ok a => exact .ret a
      | error e => exact .fail e
    apply (kept (decoded _)).bind
    intro newStatus
    apply (kept (decoded _)).bind
    intro newLevel
    have active : Keeps (fun h => BooksKept h ∧ Fit user.id h)
        (guardActive user newStatus newLevel) := by
      unfold guardActive
      dsimp only
      split
      · exact .fail _
      · exact .ret _
    apply (kept active).bind
    intro _
    have last : Keeps (fun h => BooksKept h ∧ Fit user.id h)
        (guardLastSysop user newLevel lastSysop) := by
      unfold guardLastSysop onlyIf
      split
      · have counted : Keeps (fun h => BooksKept h ∧ Fit user.id h) countSysops :=
          .bind (Stable.keeps_db ((fit_stable user.id).ordinary (.listUsers _ _ _))) fun _ => .ret _
        apply counted.bind
        intro sysops
        split
        · exact .fail _
        · exact .ret _
      · exact .ret _
    apply (kept last).bind
    intro _
    apply (applyUpdate_books user newStatus newLevel).bind
    intro _
    have reflected := keepingBooks_iff.mp (keepingBooks.reflectUpdate username newStatus newLevel)
    exact fun h booked => ⟨reflected h booked, fun _ _ => trivial⟩
  exact (whole h ⟨booked, careful⟩).1

/-- Where it does not end a timeout, the web admin changes an account as it may. -/
theorem adminUpdateUser_bars (username : String) {status : Option Nat} (level : Option Nat)
    (bars : ¬ (status = some 0 ∨ status = some 2)) :
    keepingBooks.holds (adminUpdateUser username status level) := by
  apply keepingBooks.adminUpdateUser
  intro user newStatus newLevel decoded _
  have barring : Barring newStatus := by
    unfold decodeField at decoded
    split at decoded
    · cases decoded
      exact .inl rfl
    · next n =>
      rcases n with _ | _ | _ | n
      · exact absurd (.inl rfl) bars
      · cases decoded
        exact .inr rfl
      · exact absurd (.inr rfl) bars
      · cases decoded
  apply keepingBooks.applyUpdate
  · exact fun _ _ booked => update_books barring booked
  · exact fun _ _ _ booked => clear_books booked

theorem apiUpdateUser_books (caller : CurrentUser) (username : String) (body : UpdateUserBody)
    (h : BbsHost) (booked : BooksKept h)
    (careful : CarefulRequest (.updateUser username body) h) :
    BooksKept (apiUpdateUser caller username body h).2 := by
  have suspend (days : Nat) (_ : body.suspendDays = some days) :=
    adminSuspendUser_books username days
  have updated : BooksKept (adminUpdateUser username body.status body.permissionLevel h).2 := by
    by_cases lifts : body.status = some 0 ∨ body.status = some 2
    · exact adminUpdateUser_lifts username _ _ h booked (careful lifts)
    · exact keepingBooks_iff.mp (adminUpdateUser_bars username _ lifts) h booked
  unfold apiUpdateUser
  cases updateRefusal caller username body with
  | some refusal => exact booked
  | none =>
      unfold patchStanding
      split
      · exact Stable.keeps_onResult updated fun _ =>
          keepingBooks_iff.mp (keepingBooks.afterUpdate suspend)
      · exact keepingBooks_iff.mp (keepingBooks.afterStanding suspend) h booked

theorem handleRequest_books (caller : CurrentUser) (request : WebRequest) (h : BbsHost)
    (booked : BooksKept h) (careful : CarefulRequest request h) :
    BooksKept (handleRequest caller request h).2 := by
  have other (ordinary : ∀ p ∈ Conduct.takesRequest request, p ≠ .standing) :
      BooksKept (handleRequest caller request h).2 :=
    keepingBooks_iff.mp (keepingBooks.handleRequest ordinary) h booked
  cases request with
  | updateUser username body => exact apiUpdateUser_books caller username body h booked careful
  | patchAccessPolicy patch =>
      apply other
      rintro p mem rfl
      simp only [Conduct.takesRequest] at mem
      split at mem <;> simp at mem
  | _ => exact other (by simp [Conduct.takesRequest])

/-! ## Runs -/

/-- No Sysop types `.DU` for an account with a timeout, and no statement fails where one is ended by
`UNBAN`, or by a request that makes the account active or deleted. -/
def Allowed (input : Input) (h : BbsHost) : Prop :=
  match input with
  | .command session cmd => ∀ c, Asks h session cmd c → Careful session c h
  | .request _ request => CarefulRequest request h
  | _ => True

def step (input : Input) (h h' : BbsHost) : Prop := h' = deliver h input

theorem books_next {input : Input} {h : BbsHost} (booked : BooksKept h) (allowed : Allowed input h) :
    BooksKept (deliver h input) := by
  have keeps {α : Type} {m : HostM α} (holds : keepingBooks.holds m) : BooksKept (m h).2 :=
    keepingBooks_iff.mp holds h booked
  cases input with
  | connect transport => exact keeps (keepingBooks.open_ transport)
  | disconnect session => exact keeps (keepingBooks.close nofun session)
  | command session cmd => exact processCommand_books cmd h booked allowed
  | restoreNode session pubkey ttlDays =>
      exact keeps (keepingBooks.meshNodeRestore nofun session pubkey ttlDays)
  | bindNode session pubkey => exact keeps (keepingBooks.meshNodeBind session pubkey)
  | unbindNode pubkey => exact keeps (keepingBooks.meshNodeUnbind pubkey)
  | request username request =>
      apply (careful_stable request).serve (fun _ holds => holds.1) ⟨booked, allowed⟩
      exact fun caller h' _ holds => handleRequest_books caller request h' holds.1 holds.2
  | elapse now clock faults => exact booked

/-- A timeout is recorded of banned accounts only, whatever is asked and whatever statement fails, as
long as no account with a timeout is deleted by `.DU`, and no statement fails where one is ended. -/
theorem suspended_is_banned {h h' : BbsHost}
    (booked : ∀ id row, h.store.db.users.get? id = some row → row.suspendedUntil.isSome →
      row.status = .banned)
    (run : Reaches step Allowed h h') {id : UserId} {row : UserRow}
    (stored : h'.store.db.users.get? id = some row) :
    (row.suspendedUntil.isSome → row.status = .banned) ∧
      (row.status = .active ∨ row.status = .deleted → row.suspendedUntil = none) := by
  have kept : BooksKept h' := by
    apply run.invariant (I := BooksKept) booked
    rintro input t _ booked allowed rfl
    exact books_next booked allowed
  have banned := kept id row stored
  refine ⟨banned, fun other => ?_⟩
  by_contra timed
  have status := banned (Option.isSome_iff_ne_none.mpr timed)
  rcases other with active | deleted
  · rw [status] at active
    cases active
  · rw [status] at deleted
    cases deleted

/-- The accounts of Alice, a Sysop, and of Bob. -/
def staffed : BbsHost := (adminCreateUser "bob" "password" 10
  (adminCreateUser "alice" "password" 100 (.fresh .fresh)).2).2

theorem staffed_booked (id : UserId) (row : UserRow)
    (stored : staffed.store.db.users.get? id = some row) :
    row.suspendedUntil.isSome → row.status = .banned := by
  have untimed : ∀ r ∈ staffed.store.db.users.rows, r.2.suspendedUntil = none := by decide +kernel
  exact BookedRow.untimed (untimed (id, row) ((RowTable.mem_rows_iff _ id row).mpr stored))

/-- Alice gives Bob a timeout. -/
def timedOut : List Input :=
  [.connect "telnet", .command 1 (.loginOneShot .alice "password"),
    .command 1 (.timeoutUser .bob 3)]

def afterwards (cmd : Command) : BbsHost := (timedOut ++ [Input.command 1 cmd]).foldl deliver staffed

theorem suspended_is_banned_unbanned : ∃ row, (afterwards (.unbanUser .bob)).store.db.users.get? 2 =
    some row ∧ row.status = .active ∧ row.suspendedUntil = none := by
  have typed {session : SessionId} {cmd : Command} {h : BbsHost} (plain : Careful session cmd h)
      (other : ∀ reply, cmd ≠ .workflowReply reply) : Allowed (.command session cmd) h := by
    rintro c (rfl | ⟨reply, replied, -, -⟩)
    · exact plain
    · exact absurd replied (other reply)
  have calm : Careful 1 (.unbanUser .bob) (timedOut.foldl deliver staffed) := by
    intro _ row _ fault mem
    have none_ : (timedOut.foldl deliver staffed).store.faults = [] := by decide +kernel
    rw [none_] at mem
    cases mem
  have follows : Reaches.Follows deliver Allowed (timedOut ++ [.command 1 (.unbanUser .bob)])
      staffed :=
    ⟨trivial, typed trivial nofun, typed trivial nofun, typed calm nofun, trivial⟩
  have active : ((afterwards (.unbanUser .bob)).store.db.users.get? 2).map (·.status) =
      some .active := by decide +kernel
  obtain ⟨row, stored, status⟩ := Option.map_eq_some_iff.mp active
  have booked := suspended_is_banned staffed_booked (Reaches.follow follows) stored
  exact ⟨row, stored, status, booked.2 (.inl status)⟩

/-- Then she deletes him. -/
theorem suspended_yet_deleted : ¬ ∀ h h' : BbsHost,
    (∀ id row, h.store.db.users.get? id = some row → row.suspendedUntil.isSome →
      row.status = .banned) →
    Reaches step (fun _ _ => True) h h' → ∀ id row, h'.store.db.users.get? id = some row →
      (row.suspendedUntil.isSome → row.status = .banned) ∧
        (row.status = .active ∨ row.status = .deleted → row.suspendedUntil = none) := by
  intro claim
  have run := Reaches.follow_free deliver (timedOut ++ [.command 1 (.deleteUser .bob)]) staffed
  have left : ((afterwards (.deleteUser .bob)).store.db.users.get? 2).map (fun row =>
      (row.status, row.suspendedUntil.isSome)) = some (.deleted, true) := by decide +kernel
  obtain ⟨row, stored, eq⟩ := Option.map_eq_some_iff.mp left
  have banned := (claim staffed _ staffed_booked run 2 row stored).1 (congrArg Prod.snd eq)
  rw [show row.status = .deleted from congrArg Prod.fst eq] at banned
  cases banned

end SupplyDrop.Proof.Suspensions
