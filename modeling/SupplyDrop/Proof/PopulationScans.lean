import Mathlib
import SupplyDrop.Host.Registering
import SupplyDrop.Host.System
import SupplyDrop.Library.Lines
import SupplyDrop.Proof.Population

namespace SupplyDrop.Proof.PopulationScans
open Library Library.Program Store Host
open UserStore (page createdBefore)
open Ranking (rank)
open Registration (activeSysops notice)

/-! ## PENDING -/

/-- The accounts a session has been given to review. -/
def reviewed (session : SessionId) (ran : Except HostError Response × BbsHost) : List Username :=
  match ran.1, (ran.2.sessions.get? session).map fun (r : SessionRecord) => r.workflow with
  | .ok (.prompt _ _), some (.reviewPending pending _) => pending
  | _, _ => []

def awaits (r : UserId × UserRow) : Bool :=
  r.2.status = .active && r.2.permissionLevel = .unvalidated

section Pending
variable {session : SessionId} {r : SessionRecord} {auth : Auth} {h : BbsHost}

theorem reviewed_pending (online : Online session r auth h) (aide : .aide ≤ auth.level)
    (sure : Sure h.store) :
    reviewed session (handleListPending session h) =
      ((listed (some .active) 200 h.store.db).filter fun (u : User) =>
        u.permissionLevel = .unvalidated).map (·.username) := by
  obtain ⟨h', ran, settled⟩ := privileged_online online (by decide) aide
  have scanned := list_sure_relevelled settled sure (some .active) 200
  unfold handleListPending
  rw [ran, bind_ok (scanned _)]
  generalize ((listed (some .active) 200 h.store.db).filter fun (u : User) =>
    u.permissionLevel = .unvalidated).map (·.username) = pending
  cases pending with
  | nil => rfl
  | cons first rest =>
      have set : (h'.sessions.update session fun r =>
          r.setWorkflow (.reviewPending (first :: rest) 0)).get? session =
          some ((r.setLevel auth.level).setWorkflow (.reviewPending (first :: rest) 0)) := by
        rw [RowTable.get?_update, if_pos rfl, settled.found]
        rfl
      have kept : reviewed session (.ok (reviewPrompt 0 (first :: rest).length first),
          { h' with toMemory := h'.toMemory.update session fun r =>
            r.setWorkflow (.reviewPending (first :: rest) 0) }) = first :: rest := by
        unfold reviewed Memory.update
        dsimp only
        rw [set]
        rfl
      exact kept

/-- The review is whole exactly when no account to review is listed behind 200 active ones. -/
theorem pending_iff (online : Online session r auth h) (aide : .aide ≤ auth.level)
    (sure : Sure h.store) :
    (∀ r ∈ h.store.db.users.rows, awaits r = true →
      r.2.username ∈ reviewed session (handleListPending session h)) ↔
    ∀ r ∈ h.store.db.users.rows, awaits r = true →
      listedBefore (some .active) h.store.db r < 200 := by
  apply forall₂_congr
  intro r mem
  apply imp_congr_right
  intro waiting
  simp only [awaits, Bool.and_eq_true, decide_eq_true_eq] at waiting
  have inside : r ∈ population (some .active) h.store.db := by
    simp [population, mem, waiting.1]
  rw [reviewed_pending online aide sure, List.mem_map]
  exact named_iff sure _ inside (by simp [account, waiting.2])

end Pending

/-! ## The search -/

def finds (query : String) (row : UserRow) : Bool :=
  Text.contains (Text.toLowercase row.username.text) (Text.toLowercase query)

def searchLine (row : UserRow) : String :=
  s!" {row.username.text} [{roleTag row.permissionLevel}]{statusTag row.status}"

/-- The lines of the answer to a command. -/
def answerLines (ran : Except HostError Response × BbsHost) : List String :=
  match ran.1 with
  | .ok (.text text) => Text.lines text
  | _ => []

theorem name_plain (name : Username) {c : Char} (h : c ∈ name.text.toList) :
    c ≠ ' ' ∧ c ≠ '\n' := by
  have allowed := validateChars_plain name.valid c h
  constructor
  · rintro rfl
    exact allowed (by decide)
  · rintro rfl
    exact allowed (by decide)

theorem tags_plain (row : UserRow) :
    '\n' ∉ (roleTag row.permissionLevel).toList ∧ '\n' ∉ (statusTag row.status).toList := by
  constructor
  · cases row.permissionLevel <;> decide
  · cases row.status <;> decide

theorem searchLine_toList (row : UserRow) :
    (searchLine row).toList = ' ' :: (row.username.text.toList ++
      ' ' :: '[' :: (roleTag row.permissionLevel).toList ++
        ']' :: (statusTag row.status).toList) := by
  simp [searchLine, String.toList_append, toString]

theorem searchLine_plain (row : UserRow) : '\n' ∉ (searchLine row).toList := by
  obtain ⟨role, status⟩ := tags_plain row
  intro mem
  rw [searchLine_toList] at mem
  simp only [List.mem_cons, List.mem_append] at mem
  rcases mem with blank | (name | blank | bracket | inRole) | bracket | inStatus
  · exact absurd blank (by decide)
  · exact (name_plain row.username name).2 rfl
  · exact absurd blank (by decide)
  · exact absurd bracket (by decide)
  · exact role inRole
  · exact absurd bracket (by decide)
  · exact status inStatus

theorem searchLine_name {row row' : UserRow} (same : searchLine row = searchLine row') :
    row.username = row'.username := by
  have lists := congrArg String.toList same
  rw [searchLine_toList, searchLine_toList] at lists
  have names := congrArg (fun l => l.tail.takeWhile (· ≠ ' ')) lists
  have cut (name : Username) (rest : List Char) :
      (name.text.toList ++ ' ' :: rest).takeWhile (· ≠ ' ') = name.text.toList := by
    rw [List.takeWhile_append_of_pos]
    · simp
    · intro c hc
      simpa using (name_plain name hc).1
  simp only [List.tail_cons, List.cons_append, List.append_assoc] at names
  rw [cut, cut] at names
  exact Username.ext_text (String.toList_injective names)

theorem query_plain {query : String} {row : UserRow} (found : finds query row = true) :
    '\n' ∉ query.toList := by
  intro broken
  simp only [finds, Text.contains, List.any_eq_true, List.mem_tails] at found
  obtain ⟨rest, suffix, starts⟩ := found
  have inside : '\n' ∈ (Text.toLowercase query).toList := by
    simp only [Text.toLowercase, String.toList_ofList, List.mem_map]
    exact ⟨'\n', broken, by decide⟩
  have named := suffix.subset ((List.isPrefixOf_iff_prefix.mp starts).subset inside)
  simp only [Text.toLowercase, String.toList_ofList, List.mem_map] at named
  obtain ⟨c, mem, same⟩ := named
  have lower : c.toLower = c := by
    have whole := congrArg String.toList row.username.lower
    simp only [Text.toAsciiLowercase, String.toList_ofList] at whole
    exact List.map_inj_left.mp (whole.trans (List.map_id _).symm) c mem
  split at same
  · exact absurd same (by decide)
  · rw [lower] at same
    exact (name_plain row.username mem).2 same

theorem count_plain (n : Nat) : '\n' ∉ (toString n).toList := by
  intro broken
  rcases Text.number_plain n '\n' broken with minus | digit
  · exact absurd minus (by decide)
  · exact absurd digit (by decide)

def header (query : String) (n : Nat) : String := s!"Search '{query}' ({n}):"

theorem header_plain {query : String} (plain : '\n' ∉ query.toList) (n : Nat) :
    '\n' ∉ (header query n).toList := by
  show '\n' ∉ ("Search '" ++ query ++ "' (" ++ toString n ++ "):").toList
  simp only [String.toList_append, List.mem_append, not_or]
  exact ⟨⟨⟨⟨by decide +kernel, plain⟩, by decide +kernel⟩, count_plain n⟩, by decide +kernel⟩

def noneFound (query : String) : String := s!"No users matching '{query}'."

theorem noneFound_plain {query : String} (plain : '\n' ∉ query.toList) :
    '\n' ∉ (noneFound query).toList := by
  show '\n' ∉ ("No users matching '" ++ query ++ "'.").toList
  simp only [String.toList_append, List.mem_append, not_or]
  exact ⟨⟨by decide +kernel, plain⟩, by decide +kernel⟩

section Search
variable {session : SessionId} {r : SessionRecord} {auth : Auth} {h : BbsHost} {query : String}

def found (query : String) (db : Database) : List User :=
  (listed none 500 db).filter fun (u : User) => finds query u.toUserRow

theorem search_answer (online : Online session r auth h) (user : .user ≤ auth.level)
    (sure : Sure h.store) (asked : query ≠ "") :
    (handleSearchUsers session query h).1 = .ok (.text
      (if (found query h.store.db).isEmpty then noneFound query
      else "\n".intercalate (header query (found query h.store.db).length ::
        (found query h.store.db).map fun u => searchLine u.toUserRow))) := by
  obtain ⟨h', ran, settled⟩ := withAuth_online online user
  have scanned := list_sure_relevelled settled sure none 500
  have some : ¬ query.isEmpty = true := by simpa using asked
  unfold handleSearchUsers
  rw [ran, if_neg some, bind_ok (scanned _)]
  have same : ((listed none 500 h.store.db).filter fun (u : User) =>
      Text.contains (Text.toLowercase u.username.text) (Text.toLowercase query)) =
      found query h.store.db := rfl
  rw [same]
  dsimp only
  split
  · rfl
  · rfl

theorem line_answered {r' : UserId × UserRow} (online : Online session r auth h)
    (user : .user ≤ auth.level) (sure : Sure h.store) (asked : query ≠ "")
    (plain : '\n' ∉ query.toList) (mem : r' ∈ h.store.db.users.rows) :
    searchLine r'.2 ∈ answerLines (handleSearchUsers session query h) ↔
      ∃ u ∈ found query h.store.db, u.username = r'.2.username := by
  have notFound : searchLine r'.2 ≠ noneFound query := by
    intro same
    have first := congrArg (fun text => text.toList.head?) same
    have begins : (noneFound query).toList.head? = some 'N' := by
      show ("No users matching '" ++ query ++ "'.").toList.head? = _
      have start : "No users matching '".toList.head? = some 'N' := by decide +kernel
      simp only [String.toList_append, List.append_assoc]
      rw [List.head?_append, start]
      rfl
    rw [searchLine_toList, begins] at first
    simp at first
  have notHeader (n : Nat) : searchLine r'.2 ≠ header query n := by
    intro same
    have first := congrArg (fun text => text.toList.head?) same
    have begins : (header query n).toList.head? = some 'S' := by
      show ("Search '" ++ query ++ "' (" ++ toString n ++ "):").toList.head? = _
      have start : "Search '".toList.head? = some 'S' := by decide +kernel
      simp only [String.toList_append, List.append_assoc]
      rw [List.head?_append, start]
      rfl
    rw [searchLine_toList, begins] at first
    simp at first
  unfold answerLines
  rw [search_answer online user sure asked]
  dsimp only
  split
  · next none =>
    have empty : found query h.store.db = [] := by simpa using none
    have one : Text.lines ("\n".intercalate [noneFound query]) = [noneFound query] :=
      Text.lines_intercalate (by simpa using noneFound_plain plain) (by simp)
    rw [show noneFound query = "\n".intercalate [noneFound query] from by simp, one, empty]
    simp [notFound]
  · rw [Text.lines_intercalate _ (by simp)]
    · simp only [List.mem_cons, notHeader, false_or, List.mem_map]
      constructor
      · rintro ⟨u, inside, same⟩
        exact ⟨u, inside, searchLine_name same⟩
      · rintro ⟨u, inside, same⟩
        refine ⟨u, inside, ?_⟩
        obtain ⟨other, there, -, rfl⟩ := mem_listed.mp (List.mem_of_mem_filter inside)
        obtain rfl := eq_of_name sure (mem_population there) mem same
        rfl
    · intro line mem
      rcases List.mem_cons.mp mem with rfl | listed
      · exact header_plain plain _
      · obtain ⟨u, -, rfl⟩ := List.mem_map.mp listed
        exact searchLine_plain _

/-- The search is whole exactly when no account it should find is listed behind 500 others. -/
theorem search_iff (online : Online session r auth h) (user : .user ≤ auth.level)
    (sure : Sure h.store) (asked : query ≠ "") :
    (∀ r' ∈ h.store.db.users.rows, finds query r'.2 = true →
      searchLine r'.2 ∈ answerLines (handleSearchUsers session query h)) ↔
    ∀ r' ∈ h.store.db.users.rows, finds query r'.2 = true →
      listedBefore none h.store.db r' < 500 := by
  apply forall₂_congr
  intro r' mem
  apply imp_congr_right
  intro wanted
  rw [line_answered online user sure asked (query_plain wanted) mem]
  exact named_iff sure _ mem wanted

end Search

/-! ## The notices of a registration -/

def standing (r : UserId × UserRow) : Bool :=
  r.2.status = .active && r.2.permissionLevel = .sysop

/-- A message to each of the names has been added, and nothing else. -/
structure Posted (before after : RowTable MessageRow) (names : List Username) (content : String) :
    Prop where
  seq : after.seq = before.seq + names.length
  kept : ∀ id ≤ before.seq, after.get? id = before.get? id
  sent : ∀ name ∈ names, ∃ id row, before.seq < id ∧ after.get? id = some row ∧
    row.sender = .bbs ∧ row.recipient = some name ∧ row.content = content
  only : ∀ id row, before.seq < id → after.get? id = some row → ∃ name ∈ names,
    row.recipient = some name

theorem posted_none (before : RowTable MessageRow) (content : String) :
    Posted before before [] content := by
  refine ⟨by simp, fun _ _ => rfl, by simp, fun id row above there => ?_⟩
  have bound := before.le_seq there
  omega

theorem Posted.cons {before after : RowTable MessageRow} {names : List Username} {content : String}
    {row : MessageRow} {name : Username} (bbs : row.sender = .bbs)
    (addressed : row.recipient = some name) (written : row.content = content)
    (rest : Posted (before.insert row) after names content) :
    Posted before after (name :: names) content := by
  have next : (before.insert row).seq = before.seq + 1 := rfl
  have first : after.get? (before.seq + 1) = some row := by
    rw [rest.kept _ (by omega), RowTable.get?_insert, if_pos rfl]
  constructor
  · rw [rest.seq, next, List.length_cons]
    push_cast
    ring
  · intro id low
    rw [rest.kept id (by omega), RowTable.get?_insert, if_neg (by omega)]
  · intro name' mem
    rcases List.mem_cons.mp mem with rfl | mem
    · exact ⟨before.seq + 1, row, by omega, first, bbs, addressed, written⟩
    · obtain ⟨id, row', above, there⟩ := rest.sent name' mem
      exact ⟨id, row', by omega, there⟩
  · intro id row' above there
    by_cases here : id = before.seq + 1
    · subst here
      rw [first] at there
      cases there
      exact ⟨name, List.mem_cons_self, addressed⟩
    · obtain ⟨name', mem, found⟩ := rest.only id row' (by omega) there
      exact ⟨name', List.mem_cons_of_mem _ mem, found⟩

theorem postDirect_sure {s : Storage} (sure : s.faults = []) (space : s.db.messages.seq < maxRowid)
    (recipient : Username) (content : String) (now : Timestamp) :
    MessageStore.postDirect .bbs recipient content now s =
      (.ok (s.db.messages.seq + 1), { s with db := { s.db with
        messages := s.db.messages.insert ⟨.bbs, some recipient, content, now⟩ } }) := by
  have passed : statement s = (.ok (), s) := by
    unfold statement
    rw [sure]
  unfold MessageStore.postDirect MessageStore.insertMessage insertRow
  rw [bind_ok passed, bind_apply, gets_apply]
  dsimp only
  rw [if_neg (not_le.mpr space)]
  rfl

theorem forM_posts (sysops : List User) (content : String) (now : Timestamp) {h : BbsHost}
    (sure : h.store.faults = []) (space : h.store.db.messages.seq + sysops.length ≤ maxRowid) :
    ∃ h', (sysops.forM fun sysop => do
        let _ ← tryDb (MessageStore.postDirect .bbs sysop.username content now)
        pure () : HostM Unit) h = (.ok (), h') ∧
      Posted h.store.db.messages h'.store.db.messages (sysops.map (·.username)) content := by
  induction sysops generalizing h with
  | nil => exact ⟨h, rfl, posted_none _ _⟩
  | cons sysop rest ih =>
      rw [List.length_cons] at space
      push_cast at space
      have free : h.store.db.messages.seq < maxRowid := by omega
      have one := postDirect_sure sure free sysop.username content now
      obtain ⟨h', ran, posted⟩ := ih (h := { h with store := { h.store with
        db := { h.store.db with messages :=
          h.store.db.messages.insert ⟨.bbs, some sysop.username, content, now⟩ } } }) sure (by
            show h.store.db.messages.seq + 1 + _ ≤ _
            omega)
      refine ⟨h', ?_, posted.cons rfl rfl rfl⟩
      show ((tryDb _ >>= fun _ => pure ()) >>= fun _ => rest.forM _ : HostM Unit) h = _
      rw [bind_assoc, bind_ok (tryDb_of one)]
      exact ran

theorem notifySysops_posts (username : Username) {h : BbsHost} (sure : Sure h.store)
    (space : h.store.db.messages.seq + 200 ≤ maxRowid) :
    ∃ h', notifySysops username h = (.ok (), h') ∧
      Posted h.store.db.messages h'.store.db.messages (activeSysops (listed none 200 h.store.db))
        (notice username) := by
  have fits : h.store.db.messages.seq + ((listed none 200 h.store.db).filter fun (u : User) =>
      u.permissionLevel = .sysop && u.status = .active).length ≤ maxRowid := by
    have page : (listed none 200 h.store.db).length ≤ 200 := by simp [listed, page]
    have few := (List.length_filter_le (fun (u : User) =>
      u.permissionLevel = .sysop && u.status = .active) _).trans page
    omega
  obtain ⟨h', ran, posted⟩ := forM_posts _ (notice username) h.store.now sure.answers fits
  refine ⟨h', ?_, posted⟩
  unfold notifySysops
  rw [bind_ok (tryDb_of (list_sure none 200 sure))]
  exact ran

/-- The database with the account a registration makes. -/
def enlisted (h : BbsHost) (username : Username) : Database :=
  let row : UserRow :=
    { username, displayName := none, status := .active, permissionLevel := .unvalidated,
      createdAt := h.store.now, lastLoginAt := none, suspendedUntil := none }
  { h.store.db with users := h.store.db.users.insert row }

section Registering
variable {session : SessionId} {username : Username} {password : String} {h h' : BbsHost}

theorem setPassword_effect (id : UserId) (now : Timestamp) (s : Storage) :
    let s' := (CredentialStore.setPassword id password now s).2
    Later s s' ∧ s'.db.users = s.db.users ∧ s'.db.messages = s.db.messages := by
  dsimp only
  have hashed := Reads.hash password s
  unfold CredentialStore.setPassword
  rw [bind_apply]
  rcases ran : CredentialStore.hash password s with ⟨r, s₁⟩
  rw [ran] at hashed
  cases r with
  | error e => exact ⟨hashed.2, by rw [hashed.1], by rw [hashed.1]⟩
  | ok phc =>
      dsimp only
      obtain ⟨later, effect⟩ := putHash_effect id phc now none s₁
      refine ⟨hashed.2.trans later, ?_⟩
      rcases effect with same | ⟨-, wrote⟩
      · rw [same, hashed.1]
        exact ⟨rfl, rfl⟩
      · rw [wrote, hashed.1]
        exact ⟨rfl, rfl⟩

theorem Sure.enlisted (sure : Sure h.store)
    (allowed : username.text ≠ "bbs" ∧ username.text ≠ "system")
    (free : ∀ r ∈ h.store.db.users.rows, r.2.username ≠ username) {s : Storage}
    (silent : s.faults = [])
    (same : s.db.users = (PopulationScans.enlisted h username).users) : Sure s := by
  refine ⟨silent, ?_, ?_⟩
  · intro r mem
    rw [same] at mem
    rcases List.mem_append.mp mem with old | new
    · exact sure.allowed r old
    · rw [List.mem_singleton.mp new]
      exact allowed
  · have apart : username ∉ h.store.db.users.rows.map fun r => r.2.username := by
      intro mem
      obtain ⟨r, old, taken⟩ := List.mem_map.mp mem
      exact free r old taken
    rw [same]
    show ((h.store.db.users.rows ++ [(_, _)]).map fun (r : UserId × UserRow) => r.2.username).Nodup
    rw [List.map_append, List.nodup_append]
    refine ⟨sure.distinct, List.nodup_singleton _, ?_⟩
    rintro name old name' new rfl
    rw [List.map_singleton, List.mem_singleton] at new
    have same : name = username := new
    exact apart (same ▸ old)

theorem looked_on (sure : Sure h.store) (others : h.store.db.users.rows ≠ []) :
    ∃ users, db (failed "list users") (UserStore.list none 1 0) h = (.ok users, h) ∧
      users.isEmpty = false := by
  refine ⟨_, db_ok (list_sure none 1 sure), ?_⟩
  have some : 0 < h.store.db.users.rows.length := List.length_pos_iff.mpr others
  have one : (listed none 1 h.store.db).length = 1 := by
    simp only [listed, page, population, List.length_map, List.drop_zero, List.length_take,
      List.length_mergeSort]
    omega
  by_contra empty
  have none : listed none 1 h.store.db = [] := by simpa using empty
  rw [none] at one
  simp at one

/-- A registration that is not the first has the account made and every active Sysop on the page
written to. -/
theorem registered_posts (sure : Sure h.store)
    (allowed : username.text ≠ "bbs" ∧ username.text ≠ "system")
    (others : h.store.db.users.rows ≠ []) (space : h.store.db.messages.seq + 200 ≤ maxRowid)
    (done : createUserAndLogin session username password h = (.ok (.loggedIn username), h')) :
    (∀ r ∈ h.store.db.users.rows, r.2.username ≠ username) ∧
      Posted h.store.db.messages h'.store.db.messages
        (activeSysops (listed none 200 (enlisted h username))) (notice username) := by
  obtain ⟨users, looked, notFirst⟩ := looked_on sure others
  unfold createUserAndLogin at done
  rw [bind_ok (now_apply h), bind_ok looked, notFirst] at done
  simp only [Bool.false_eq_true, if_false] at done
  rcases called : UserStore.create username none .unvalidated h.store.now h.store with ⟨r, s⟩
  rw [bind_ok (tryDb_of called)] at done
  cases r with
  | error e =>
      cases e <;> cases done
  | ok userId =>
      dsimp only at done
      obtain ⟨free, -, created⟩ := insertRow_ok called
      have fresh : ∀ r ∈ h.store.db.users.rows, r.2.username ≠ username := by simpa using free
      have later : Later h.store s := by
        have effect := (insertRow_effect (·.users) (fun db users => { db with users })
          (fun db => if db.users.rows.any fun r => r.2.username = username then
            some (.conflict s!"username '{username.text}' is already taken") else none)
          { username, displayName := none, status := .active, permissionLevel := .unvalidated,
            createdAt := h.store.now, lastLoginAt := none, suspendedUntil := none } h.store).1
        rw [UserStore.create] at called
        rw [called] at effect
        exact effect
      obtain ⟨_, h₂, secret, done⟩ := bind_eq_ok done
      obtain ⟨s₂, stored, rfl⟩ := db_eq_ok secret
      obtain ⟨later₂, users, messages⟩ := setPassword_effect userId h.store.now s
      rw [stored] at later₂ users messages
      obtain ⟨room, h₃, landing, done⟩ := bind_eq_ok done
      cases landing
      obtain ⟨_, h₄, bound, done⟩ := bind_eq_ok done
      have kept := onKnownSession_store session (fun r => r.bindTo username userId .unvalidated
        (if PermissionLevel.unvalidated < .user then h.guestRoomId.getD lobby else lobby))
        { h with store := s₂ }
      rw [bound] at kept
      obtain ⟨_, h₅, emitted, done⟩ := bind_eq_ok done
      cases emitted
      obtain ⟨_, h₆, told, done⟩ := bind_eq_ok done
      cases done
      have same : s₂.db.users = (enlisted h username).users := users.trans (by rw [created]; rfl)
      have mail : s₂.db.messages = h.store.db.messages := messages.trans (by rw [created])
      have silent : s₂.faults = [] := by
        have first := later.faults
        rw [sure.answers, List.suffix_nil] at first
        have rest := later₂.faults
        rwa [first, List.suffix_nil] at rest
      have sure₂ : Sure h₄.store := by
        rw [kept]
        exact sure.enlisted allowed fresh silent same
      have at_ : h₄.store.db.messages = h.store.db.messages := by rw [kept, mail]
      have names : listed none 200 h₄.store.db = listed none 200 (enlisted h username) := by
        have rows : h₄.store.db.users = (enlisted h username).users := by rw [kept, same]
        exact congrArg (fun t : RowTable UserRow => (page t.rows 200 0).map fun r =>
          account r.1 r.2) rows
      obtain ⟨h₇, ran, posted⟩ := notifySysops_posts username (h := { h₄ with
        toMemory := h₄.toMemory.emit (.userCreated username) }) sure₂ (by rwa [at_])
      rw [told] at ran
      cases ran
      rw [← at_, ← names]
      exact ⟨fresh, posted⟩

theorem setPassword_sure {id : UserId} {now : Timestamp} {s : Storage} (sure : s.faults = [])
    (known : (s.db.users.get? id).isSome)
    (hashes : (s.argon2.hashPassword password s.draws).toOption.isSome) :
    (CredentialStore.setPassword id password now s).1 = .ok () := by
  cases hashed : s.argon2.hashPassword password s.draws with
  | error e =>
      rw [hashed] at hashes
      simp [Except.toOption] at hashes
  | ok phc =>
      have drawn : CredentialStore.hash password s =
          (.ok phc, { s with draws := s.draws + 1 }) := by
        unfold CredentialStore.hash
        rw [bind_apply]
        dsimp only [CredentialStore.draw]
        rw [bind_apply, gets_apply]
        dsimp only
        rw [hashed]
        rfl
      have passed : statement { s with draws := s.draws + 1 } =
          (.ok (), { s with draws := s.draws + 1 }) := by
        unfold statement
        dsimp only
        rw [sure]
      unfold CredentialStore.setPassword
      rw [bind_ok drawn]
      unfold CredentialStore.putHash
      rw [bind_ok passed, bind_apply, gets_apply]
      dsimp only
      rw [if_neg]
      · rfl
      · rintro ⟨-, missing⟩
        rw [Option.isNone_iff_eq_none] at missing
        rw [missing] at known
        simp at known

/-- A name that is free can be registered. -/
theorem registers (sure : Sure h.store)
    (allowed : username.text ≠ "bbs" ∧ username.text ≠ "system")
    (free : ∀ r ∈ h.store.db.users.rows, r.2.username ≠ username)
    (others : h.store.db.users.rows ≠ []) (space : h.store.db.messages.seq + 200 ≤ maxRowid)
    (more : h.store.db.users.seq < maxRowid)
    (hashes : (h.store.argon2.hashPassword password h.store.draws).toOption.isSome)
    (known : (h.sessions.get? session).isSome) :
    ∃ h', createUserAndLogin session username password h = (.ok (.loggedIn username), h') := by
  obtain ⟨users, looked, notFirst⟩ := looked_on sure others
  have passed : statement h.store = (.ok (), h.store) := by
    unfold statement
    rw [sure.answers]
  have called : UserStore.create username none .unvalidated h.store.now h.store =
      (.ok (h.store.db.users.seq + 1), { h.store with db := enlisted h username }) := by
    have untaken : h.store.db.users.rows.any (fun r => r.2.username = username) = false := by
      simpa using free
    unfold UserStore.create insertRow
    rw [bind_ok passed, bind_apply, gets_apply]
    dsimp only
    rw [if_neg (not_le.mpr more), untaken]
    rfl
  unfold createUserAndLogin
  rw [bind_ok (now_apply h), bind_ok looked, notFirst]
  simp only [Bool.false_eq_true, if_false]
  rw [bind_ok (tryDb_of called)]
  dsimp only
  have there : ((enlisted h username).users.get? (h.store.db.users.seq + 1)).isSome := by
    rw [enlisted, RowTable.get?_insert, if_pos rfl]
    rfl
  let s₀ : Storage := { h.store with db := enlisted h username }
  have secret : (CredentialStore.setPassword (h.store.db.users.seq + 1) password h.store.now s₀).1 =
      .ok () := setPassword_sure sure.answers there hashes
  have effect : Later s₀ (CredentialStore.setPassword (h.store.db.users.seq + 1) password h.store.now
      s₀).2 ∧ _ := setPassword_effect (h.store.db.users.seq + 1) h.store.now s₀
  obtain ⟨later, same, mail⟩ := effect
  rcases stored : CredentialStore.setPassword (h.store.db.users.seq + 1) password h.store.now
    { h.store with db := enlisted h username } with ⟨r, s⟩
  rw [stored] at secret later same mail
  dsimp only at secret
  subst secret
  rw [bind_ok (db_ok stored), initialRoom, bind_ok (peek_apply _ _)]
  dsimp only
  obtain ⟨record, found⟩ := Option.isSome_iff_exists.mp known
  have bound (f : SessionRecord → SessionRecord) :
      onKnownSession session f { h with store := s } =
        (.ok (), { h with toMemory := h.toMemory.update session f, store := s }) := by
    unfold onKnownSession lookUp
    rw [bind_ok (peek_apply _ _), found]
    rfl
  rw [bind_ok (bound _)]
  have silent : s.faults = [] := by
    have none := later.faults
    dsimp only at none
    rwa [sure.answers, List.suffix_nil] at none
  have sure' : Sure s := sure.enlisted allowed free silent same
  have space' : s.db.messages.seq + 200 ≤ maxRowid := by
    rw [mail]
    exact space
  obtain ⟨h', ran, -⟩ := notifySysops_posts username (h := { h with
    toMemory := (h.toMemory.update session fun r => r.bindTo username (h.store.db.users.seq + 1)
      .unvalidated (if PermissionLevel.unvalidated < .user then h.guestRoomId.getD lobby
        else lobby)).emit (.userCreated username)
    store := s }) sure' space'
  refine ⟨h', ?_⟩
  rw [emit, bind_ok (poke_apply _ _), bind_ok ran]
  rfl

/-- Whether an account has been written to about a registration. -/
def toldOf (username : Username) (before after : BbsHost) (name : Username) : Prop :=
  ∃ id row, before.store.db.messages.seq < id ∧ after.store.db.messages.get? id = some row ∧
    row.sender = .bbs ∧ row.recipient = some name ∧ row.content = notice username

/-- Every active Sysop is told exactly when none is listed behind 200 accounts of any kind. -/
theorem notices_iff (sure : Sure h.store)
    (allowed : username.text ≠ "bbs" ∧ username.text ≠ "system")
    (others : h.store.db.users.rows ≠ []) (space : h.store.db.messages.seq + 200 ≤ maxRowid)
    (done : createUserAndLogin session username password h = (.ok (.loggedIn username), h')) :
    (∀ r ∈ h.store.db.users.rows, standing r = true → toldOf username h h' r.2.username) ↔
      ∀ r ∈ h.store.db.users.rows, standing r = true →
        listedBefore none (enlisted h username) r < 200 := by
  obtain ⟨fresh, posted⟩ := registered_posts sure allowed others space done
  have sure' : Sure { h.store with db := enlisted h username } :=
    sure.enlisted allowed fresh sure.answers rfl
  apply forall₂_congr
  intro r mem
  apply imp_congr_right
  intro stands
  have inside : r ∈ population none (enlisted h username) := List.mem_append_left _ mem
  have sysop : (account r.1 r.2).permissionLevel = .sysop &&
      (account r.1 r.2).status = .active := by
    simp only [standing, Bool.and_eq_true, decide_eq_true_eq] at stands
    simp [account, stands.1, stands.2]
  rw [← named_iff sure' (fun u => u.permissionLevel = .sysop && u.status = .active) inside sysop]
  constructor
  · rintro ⟨id, row, above, there, -, addressed, -⟩
    obtain ⟨name, active, named⟩ := posted.only id row above there
    rw [addressed] at named
    cases named
    exact List.mem_map.mp active
  · intro active
    exact posted.sent _ (List.mem_map.mpr active)

end Registering

/-! ## The last Sysop -/

/-- The active Sysops with fewer than 500 active accounts listed before them. -/
def counted (db : Database) : Nat :=
  (db.users.rows.filter standing).countP fun r => listedBefore (some .active) db r < 500

theorem countSysops_sure {h : BbsHost} (sure : Sure h.store) :
    countSysops h = (.ok (counted h.store.db), h) := by
  have scanned : db StoreError.display (UserStore.list (some .active) 500 0) h =
      (.ok (listed (some .active) 500 h.store.db), h) := db_ok (list_sure _ 500 sure)
  have number : ((listed (some .active) 500 h.store.db).filter fun u =>
      u.permissionLevel = .sysop).length = counted h.store.db := by
    rw [← List.countP_eq_length_filter, listed, List.countP_map,
      (page_perm (some .active) h.store.db 500).countP_eq, counted, List.countP_filter,
      List.countP_filter, population, List.countP_filter]
    apply List.countP_congr
    intro r _
    simp only [standing, account, Function.comp_apply, Bool.and_eq_true, decide_eq_true_eq]
    tauto
  unfold countSysops
  rw [bind_ok scanned, number]
  rfl

/-- A guard that refuses where it has counted at most one Sysop refuses rightly exactly when it has
counted two wherever there is another. -/
theorem rightly_iff {db : Database} {target : Username} {refused : Prop}
    (refuses : refused ↔ counted db ≤ 1) :
    (refused → ∀ other ∈ db.users.rows, standing other = true → other.2.username = target) ↔
      ((∃ other ∈ db.users.rows, standing other = true ∧ other.2.username ≠ target) →
        2 ≤ counted db) := by
  rw [refuses]
  constructor
  · rintro right ⟨other, mem, stands, apart⟩
    by_contra few
    exact apart (right (by omega) other mem stands)
  · intro enough few other mem stands
    by_contra apart
    have two := enough ⟨other, mem, stands, apart⟩
    omega

theorem guardLastSysop_refuses {h : BbsHost} {user : User} {level : Option PermissionLevel}
    {refusal : HostError} (sure : Sure h.store) (lowers : lowersSysop user level = true) :
    (guardLastSysop user level refusal h).1 = .error refusal ↔ counted h.store.db ≤ 1 := by
  unfold guardLastSysop onlyIf
  rw [if_pos lowers, bind_ok (countSysops_sure sure)]
  split
  · next few => exact iff_of_true rfl few
  · next many => exact iff_of_false nofun many

theorem applyLevel_texts {auth : Auth} {username : Username} {user : User} {level : PermissionLevel}
    {h : BbsHost} : (applyLevel auth username user level h).1 ≠ .ok lastSysopHere := by
  intro refused
  have ran : applyLevel auth username user level h =
      (.ok lastSysopHere, (applyLevel auth username user level h).2) := Prod.ext refused rfl
  unfold applyLevel at ran
  obtain ⟨_, _, -, ran⟩ := bind_eq_ok ran
  obtain ⟨_, _, -, ran⟩ := bind_eq_ok ran
  obtain ⟨_, _, -, ran⟩ := bind_eq_ok ran
  have text := congrArg Prod.fst ran
  cases text

theorem handleSetUserLevel_refuses {session : SessionId} {r : SessionRecord} {auth : Auth}
    {h : BbsHost} {target : UserId × UserRow} {level : PermissionLevel}
    (online : Online session r auth h) (sysop : .sysop ≤ auth.level) (sure : Sure h.store)
    (mem : target ∈ h.store.db.users.rows) (other : auth.username ≠ target.2.username)
    (changes : levelRefusal target.2.username (account target.1 target.2) level = none)
    (lowers : lowersSysop (account target.1 target.2) (some level) = true) :
    (handleSetUserLevel session target.2.username level h).1 = .ok lastSysopHere ↔
      counted h.store.db ≤ 1 := by
  obtain ⟨h', ran, settled⟩ := privileged_online online (by decide) sysop
  have sure' : Sure h'.store := by
    rw [settled.store]
    exact sure
  have looked : db StoreError.display (UserStore.getByUsername target.2.username) h' =
      (.ok (some (account target.1 target.2)), h') := by
    apply db_ok
    apply getByUsername_sure sure'
    rw [settled.store]
    exact mem
  unfold handleSetUserLevel
  rw [ran, if_neg other]
  unfold withUser
  rw [bind_ok looked]
  dsimp only
  rw [changes]
  dsimp only
  rw [if_pos lowers, bind_ok (countSysops_sure sure'), settled.store]
  split
  · next few => exact iff_of_true rfl few
  · next many => exact iff_of_false applyLevel_texts many

/-! ## All of the scans -/

/-- Two active Sysops are counted wherever there is another one than the account to be demoted. -/
def Countable (db : Database) (target : Username) : Prop :=
  (∃ other ∈ db.users.rows, standing other = true ∧ other.2.username ≠ target) → 2 ≤ counted db

theorem scans_complete_iff {h : BbsHost} (sure : Sure h.store) :
    (∀ session r auth, Online session r auth h → .aide ≤ auth.level →
      ((∀ row ∈ h.store.db.users.rows, awaits row = true →
          row.2.username ∈ reviewed session (handleListPending session h)) ↔
        ∀ row ∈ h.store.db.users.rows, awaits row = true →
          listedBefore (some .active) h.store.db row < 200)) ∧
    (∀ session r auth query, Online session r auth h → .user ≤ auth.level → query ≠ "" →
      ((∀ row ∈ h.store.db.users.rows, finds query row.2 = true →
          searchLine row.2 ∈ answerLines (handleSearchUsers session query h)) ↔
        ∀ row ∈ h.store.db.users.rows, finds query row.2 = true →
          listedBefore none h.store.db row < 500)) ∧
    (∀ session username password h', username.text ≠ "bbs" ∧ username.text ≠ "system" →
      h.store.db.users.rows ≠ [] → h.store.db.messages.seq + 200 ≤ maxRowid →
      createUserAndLogin session username password h = (.ok (.loggedIn username), h') →
      ((∀ row ∈ h.store.db.users.rows, standing row = true →
          toldOf username h h' row.2.username) ↔
        ∀ row ∈ h.store.db.users.rows, standing row = true →
          listedBefore none (enlisted h username) row < 200)) ∧
    (∀ session r auth target level, Online session r auth h → .sysop ≤ auth.level →
      target ∈ h.store.db.users.rows → auth.username ≠ target.2.username →
      levelRefusal target.2.username (account target.1 target.2) level = none →
      lowersSysop (account target.1 target.2) (some level) = true →
      (((handleSetUserLevel session target.2.username level h).1 = .ok lastSysopHere →
          ∀ other ∈ h.store.db.users.rows, standing other = true →
            other.2.username = target.2.username) ↔
        Countable h.store.db target.2.username)) ∧
    ∀ user level refusal, lowersSysop user level = true →
      (((guardLastSysop user level refusal h).1 = .error refusal →
          ∀ other ∈ h.store.db.users.rows, standing other = true →
            other.2.username = user.username) ↔
        Countable h.store.db user.username) := by
  refine ⟨?_, ?_, ?_, ?_, ?_⟩
  · intro session r auth online aide
    exact pending_iff online aide sure
  · intro session r auth query online user asked
    exact search_iff online user sure asked
  · intro session username password h' allowed others space done
    exact notices_iff sure allowed others space done
  · intro session r auth target level online sysop mem other changes lowers
    exact rightly_iff (handleSetUserLevel_refuses online sysop sure mem other changes lowers)
  · intro user level refusal lowers
    exact rightly_iff (guardLastSysop_refuses sure lowers)

/-- Two Sysops, one of whom is logged in, and somebody about to register. -/
def twoSysops : BbsHost :=
  [.connect "telnet", .connect "telnet", .command 1 (.loginOneShot .alice "password")].foldl deliver
    (adminCreateUser "bob" "password" 100 (adminCreateUser "alice" "password" 100
      (.fresh .fresh)).2).2

theorem twoSysops_sure : Sure twoSysops.store :=
  ⟨by decide +kernel, by decide +kernel, by decide +kernel⟩

def alice : Auth := ⟨.alice, 1, .sysop, lobby⟩

theorem alice_online : ∃ r, Online 1 r alice twoSysops := by
  obtain ⟨r, room, -, reader⟩ : ∃ r room, twoSysops.sessions.get? 1 = some r ∧
      Reader 1 r alice room twoSysops :=
    Reader.known (by decide +kernel) (by decide +kernel) (by decide +kernel) (.inl (by decide))
      (.inl (by decide)) (by decide +kernel)
  exact ⟨r, reader.toOnline⟩

def carol : Username := ⟨"carol", by decide +kernel, by decide +kernel⟩

def bob : UserId × UserRow :=
  (2, ⟨.bob, none, .active, .sysop, 0, none, none⟩)

theorem scans_complete_two :
    (∀ row ∈ twoSysops.store.db.users.rows, awaits row = true →
      row.2.username ∈ reviewed 1 (handleListPending 1 twoSysops)) ∧
    (∀ row ∈ twoSysops.store.db.users.rows, finds "BO" row.2 = true →
      searchLine row.2 ∈ answerLines (handleSearchUsers 1 "BO" twoSysops)) ∧
    (∀ row ∈ twoSysops.store.db.users.rows, standing row = true →
      toldOf carol twoSysops (createUserAndLogin 2 carol "password" twoSysops).2
        row.2.username) ∧
    ((handleSetUserLevel 1 .bob .user twoSysops).1 = .ok lastSysopHere →
      ∀ other ∈ twoSysops.store.db.users.rows, standing other = true →
        other.2.username = .bob) ∧
    ((guardLastSysop (account bob.1 bob.2) (some .user) lastSysop twoSysops).1 = .error lastSysop →
      ∀ other ∈ twoSysops.store.db.users.rows, standing other = true →
        other.2.username = .bob) := by
  obtain ⟨r, online⟩ := alice_online
  obtain ⟨pending, search, notices, command, guard⟩ := scans_complete_iff twoSysops_sure
  refine ⟨?_, ?_, ?_, ?_, ?_⟩
  · exact (pending 1 r alice online (by decide)).mpr (by decide +kernel)
  · exact (search 1 r alice "BO" online (by decide) (by decide)).mpr (by decide +kernel)
  · have joined : ∃ h', createUserAndLogin 2 carol "password" twoSysops =
        (.ok (.loggedIn carol), h') :=
      registers twoSysops_sure (by decide +kernel) (by decide +kernel) (by decide +kernel)
        (by decide +kernel) (by decide +kernel) (by decide +kernel) (by decide +kernel)
    obtain ⟨h', done⟩ := joined
    rw [done]
    exact (notices 2 carol "password" h' (by decide +kernel) (by decide +kernel)
      (by decide +kernel) done).mpr (by decide +kernel)
  · refine (command 1 r alice bob .user online (by decide) (by decide +kernel) (by decide +kernel)
      (by decide +kernel) (by decide)).mpr ?_
    intro _
    decide +kernel
  · refine (guard (account bob.1 bob.2) (some .user) lastSysop (by decide)).mpr ?_
    intro _
    decide +kernel

/-! ### A crowd -/

def digit (n : Nat) : Char := Char.ofNat (48 + n % 10)

def letters (n : Nat) : String := String.ofList ['u', digit (n / 100), digit (n / 10), digit n]

def member (n : Fin 201) : Username where
  text := letters n
  lower := by
    revert n
    decide +kernel
  valid := by
    revert n
    decide +kernel

/-- An Aide, many users, and the last to come still to be reviewed. -/
def crowdRow (n : Fin 201) : Int × UserRow :=
  (n + 1, ⟨member n, none, .active,
    if n = 0 then .aide else if n = 200 then .unvalidated else .user, n * UserStore.second,
    none, none⟩)

def crowd : BbsHost where
  toMemory := { BbsHost.fresh Storage.fresh with
    sessions := RowTable.insert (.empty 0)
      { SessionRecord.opened "telnet" with
        username := some (member 0), userId := some 1, level := .aide } }
  store := { Storage.fresh with db := { Storage.fresh.db with
    users := ⟨(List.finRange 201).map crowdRow, 201, by decide +kernel, by decide +kernel⟩ } }

def number (name : String) : Nat := name.toList.tail.foldl (fun n c => 10 * n + (c.toNat - 48)) 0

theorem crowd_sure : Sure crowd.store := by
  refine ⟨rfl, by decide +kernel, ?_⟩
  have apart : ∀ n : Fin 201, number (letters n) = n := by decide +kernel
  show (((List.finRange 201).map crowdRow).map fun r => r.2.username).Nodup
  rw [List.map_map]
  apply (List.nodup_finRange 201).map
  intro n m same
  have names : letters n = letters m := congrArg Username.text same
  have numbers := congrArg number names
  rw [apart, apart] at numbers
  exact Fin.ext numbers

theorem aide_online : ∃ r, Online 1 r ⟨member 0, 1, .aide, lobby⟩ crowd := by
  obtain ⟨r, room, -, reader⟩ : ∃ r room, crowd.sessions.get? 1 = some r ∧
      Reader 1 r ⟨member 0, 1, .aide, lobby⟩ room crowd :=
    Reader.known rfl (by decide +kernel) (by decide +kernel) (.inl (by decide))
      (.inl (by decide)) (by decide +kernel)
  exact ⟨r, reader.toOnline⟩

theorem last_behind : 200 ≤ listedBefore (some .active) crowd.store.db (crowdRow 200) := by
  have earlier : ∀ n : Fin 201, n ≠ 200 →
      Ranking.ahead createdBefore (crowdRow n) (crowdRow 200) = true := by decide +kernel
  have active : population (some .active) crowd.store.db = (List.finRange 201).map crowdRow := by
    apply List.filter_eq_self.mpr
    intro row mem
    obtain ⟨n, -, rfl⟩ := List.mem_map.mp mem
    rfl
  rw [listedBefore, active, rank, List.countP_map]
  have others : (List.finRange 201).countP (fun n => decide (n ≠ 200)) = 200 := by decide +kernel
  have ahead_ (n : Fin 201) (_ : n ∈ List.finRange 201) (other : decide (n ≠ 200) = true) :
      ((Ranking.ahead createdBefore · (crowdRow 200)) ∘ crowdRow) n = true := by
    rw [Function.comp_apply]
    exact earlier n (of_decide_eq_true other)
  have fewer := List.countP_mono_left ahead_
  exact le_trans (le_of_eq others.symm) fewer

/-- The 201st active account is never given for review. -/
theorem pending_incomplete :
    ¬ ∀ (h : BbsHost) (session : SessionId) (r : SessionRecord) (auth : Auth), Sure h.store →
      Online session r auth h → .aide ≤ auth.level → ∀ row ∈ h.store.db.users.rows,
      awaits row = true → row.2.username ∈ reviewed session (handleListPending session h) := by
  intro complete
  obtain ⟨r, online⟩ := aide_online
  have few := (pending_iff online (by decide) crowd_sure).mp
    (complete crowd 1 r _ crowd_sure online (by decide))
  have mem : crowdRow 200 ∈ crowd.store.db.users.rows := List.mem_map_of_mem (List.mem_finRange _)
  exact not_lt.mpr last_behind (few (crowdRow 200) mem (by decide +kernel))

end SupplyDrop.Proof.PopulationScans
