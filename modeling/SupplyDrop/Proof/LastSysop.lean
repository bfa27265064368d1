import Mathlib
import SupplyDrop.Proof.Population
import SupplyDrop.Proof.StoredData
import SupplyDrop.Proof.Suspensions
import SupplyDrop.Proof.WebAuthority

namespace SupplyDrop.Proof.LastSysop
open Library Library.Program Store Host StoredData

/-- An active Sysop, of another name than the one that is left out of account. -/
structure Administers (but : Option Username) (row : UserRow) : Prop where
  level : row.permissionLevel = .sysop
  active : row.status = .active
  other : but ≠ some row.username

/-- Someone can administer the board. -/
def Manned (but : Option Username) (db : Database) : Prop :=
  ∃ id row, db.users.get? id = some row ∧ Administers but row

def Staffed (but : Option Username) (h : BbsHost) : Prop := Manned but h.store.db

/-- Someone still can when this is done to an account. -/
def Spares (but : Option Username) (db : Database) (id : UserId) (f : UserRow → UserRow) : Prop :=
  ∃ i row, db.users.get? i = some row ∧ Administers but row ∧ (i = id → Administers but (f row))

variable {but : Option Username}

section Databases
variable {db db' : Database} {id : UserId} {f : UserRow → UserRow}

theorem Spares.updated (spares : Spares but db id f) :
    Manned but { db with users := db.users.update id f } := by
  obtain ⟨i, row, stored, administers, spared⟩ := spares
  by_cases same : i = id
  · refine ⟨i, f row, ?_, spared same⟩
    dsimp only
    rw [RowTable.get?_update, if_pos same, stored]
    rfl
  · refine ⟨i, row, ?_, administers⟩
    dsimp only
    rw [RowTable.get?_update, if_neg same]
    exact stored

theorem Manned.each (manned : Manned but db) (each : ∀ row, Administers but row → Administers but (f row)) :
    Spares but db id f := by
  obtain ⟨i, row, stored, administers⟩ := manned
  exact ⟨i, row, stored, administers, fun _ => each row administers⟩

theorem Manned.beneath (manned : Manned but db)
    (beneath : ∀ row, db.users.get? id = some row → row.permissionLevel ≠ .sysop) :
    Spares but db id f := by
  obtain ⟨i, row, stored, administers⟩ := manned
  refine ⟨i, row, stored, administers, fun same => ?_⟩
  rw [same] at stored
  exact absurd administers.1 (beneath row stored)

theorem Spares.another {i : UserId} {row : UserRow} (stored : db.users.get? i = some row)
    (administers : Administers but row) (other : i ≠ id) : Spares but db id f :=
  ⟨i, row, stored, administers, fun same => absurd same other⟩

theorem Manned.aside (manned : Manned but db) (aside : Aside db db') : Manned but db' := by
  obtain ⟨id, row, stored, administers⟩ := manned
  have same := aside.users id
  rw [stored] at same
  obtain ⟨row', stored', eq⟩ := Option.map_eq_some_iff.mp same
  refine ⟨id, row', stored', (congrArg (·.2.1) eq).trans administers.level,
    (congrArg (·.2.2.1) eq).trans administers.active, ?_⟩
  rw [show row'.username = row.username from congrArg (·.1) eq]
  exact administers.other

theorem Manned.effect (manned : Manned but db) {p : Power} (effect : Effect db p db')
    (standing : p ≠ .standing) (level : p ≠ .level) : Manned but db' := by
  cases effect with
  | @enrolled row =>
      obtain ⟨id, r, stored, administers⟩ := manned
      refine ⟨id, r, ?_, administers⟩
      dsimp only
      rw [RowTable.get?_insert, if_neg (Int.lt_add_one_of_le (RowTable.le_seq stored)).ne]
      exact stored
  | stood => exact absurd rfl standing
  | graded => exact absurd rfl level
  | kept | notified | reset | pardoned | opened | edited | razed | posted | mailed | erased =>
      exact manned

end Databases

section Writes
variable {h : BbsHost} {id : UserId}

theorem reactivate_administers {row : UserRow} (administers : Administers but row) (now : Timestamp) :
    Administers but (UserStore.reactivate now row) := by
  unfold UserStore.reactivate
  split
  · exact ⟨administers.level, rfl, administers.other⟩
  · exact administers

theorem updated_staffed (status : Option UserStatus) (level : Option PermissionLevel)
    (staffed : Staffed but h) (spares : Spares but h.store.db id fun r => { r with
      status := status.getD r.status, permissionLevel := level.getD r.permissionLevel }) :
    Manned but (UserStore.update id none status level none h.store).2.db := by
  obtain ⟨-, kept | wrote⟩ := update_fields id status level h.store
  · rw [kept]
    exact staffed
  · rw [wrote]
    exact spares.updated

theorem suspended_staffed {until_ : Timestamp} (staffed : Staffed but h)
    (spares : Spares but h.store.db id fun r => { r with
      status := .banned, suspendedUntil := some until_ }) :
    Manned but (UserStore.suspend id until_ h.store).2.db := by
  obtain ⟨-, kept | wrote⟩ := whereId_effect id
    (fun r => { r with status := .banned, suspendedUntil := some until_ }) h.store
  · rw [UserStore.suspend, kept]
    exact staffed
  · rw [UserStore.suspend, wrote]
    exact spares.updated

theorem cleared_staffed (staffed : Staffed but h) :
    Manned but (UserStore.clearSuspension id h.store).2.db := by
  obtain ⟨-, kept | wrote⟩ := whereId_effect id (fun r => { r with suspendedUntil := none }) h.store
  · rw [UserStore.clearSuspension, kept]
    exact staffed
  · rw [UserStore.clearSuspension, wrote]
    exact (Manned.each (f := fun r => { r with suspendedUntil := none }) staffed
      fun _ administers => ⟨administers.level, administers.active, administers.other⟩).updated

end Writes

/-- Only an operation that changes the standing or the level of an account can leave the board
without a Sysop. -/
theorem staffed_invariant (but : Option Username) : Invariant (Staffed but) fun p => p ≠ .standing ∧ p ≠ .level where
  aside h s staffed aside _ := Manned.aside staffed aside
  lift h s id staffed _ wrote := by
    rw [Staffed, wrote]
    exact (Manned.each staffed fun row administers => reactivate_administers administers _).updated
  quiet h m staffed _ := staffed
  powered powered other h staffed :=
    Manned.effect staffed (powered_effect powered h.store) other.1 other.2
  patch id status level standing graded h staffed := by
    have same : status = none ∧ level = none := by
      cases status with
      | some status => exact absurd rfl (standing rfl).1
      | none =>
          cases level with
          | some level => exact absurd rfl (graded rfl).2
          | none => exact ⟨rfl, rfl⟩
    obtain ⟨rfl, rfl⟩ := same
    exact updated_staffed none none staffed (Manned.each staffed fun _ administers => ⟨administers.level, administers.active, administers.other⟩)
  bind _ _ _ _ _ _ _ staffed := staffed
  hold _ _ _ _ _ _ staffed := staffed
  guest _ _ _ staffed := staffed
  move _ _ _ _ staffed := staffed
  draft _ _ _ _ _ staffed := staffed
  conclude _ _ _ _ staffed := staffed

abbrev staffing (but : Option Username) : Conduct := (staffed_invariant but).conduct

theorem staffing_iff {α : Type} {m : HostM α} : (staffing but).holds m ↔ Keeps (Staffed but) m :=
  Discipline.keeping_iff

/-- What follows a change of an account that leaves a Sysop. -/
theorem wrote_then {α β : Type} {describe : StoreError → String} {m : StoreM α} {k : α → HostM β}
    {h : BbsHost} (wrote : Manned but (m h.store).2.db) (rest : ∀ a, (staffing but).holds (k a)) :
    Staffed but ((Host.db describe m >>= k) h).2 := by
  have first : Ensures (Staffed but) (fun h' => h' = h) (Host.db describe m) fun _ => Staffed but := by
    rintro h' rfl
    exact ⟨wrote, fun _ _ => wrote⟩
  exact (first.bind (fun a => .ofKeeps (staffing_iff.mp (rest a))) h rfl).1

theorem clearing (id : UserId) :
    (staffing but).holds (Host.db StoreError.display (UserStore.clearSuspension id)) :=
  (staffing but).db fun _ => cleared_staffed

/-! ## Counting the Sysops -/

theorem mapUserRows_ok {rows : List (UserId × UserRow)} {users : List User}
    (read : mapUserRows rows = .ok users) : users = rows.map fun r => account r.1 r.2 := by
  induction rows generalizing users with
  | nil =>
      cases read
      rfl
  | cons r rows ih =>
      rw [mapUserRows, List.mapM_cons] at read
      cases first : mapUserRow r.1 r.2 with
      | error e =>
          rw [first] at read
          cases read
      | ok user =>
          cases others : mapUserRows rows with
          | error e =>
              rw [mapUserRows] at others
              rw [first, others] at read
              cases read
          | ok rest =>
              have rest_eq := ih others
              rw [mapUserRows] at others
              rw [first, others] at read
              cases read
              rw [List.map_cons, mapUserRow_ok first, ← rest_eq]

/-- Of two or more, not all are the same. -/
theorem exists_other {users : List User} (distinct : (users.map (·.id)).Nodup)
    (many : 2 ≤ users.length) (id : UserId) : ∃ user ∈ users, user.id ≠ id := by
  by_contra all
  push Not at all
  have same : users.map (·.id) = List.replicate users.length id := by
    rw [List.eq_replicate_iff]
    refine ⟨List.length_map _, fun i mem => ?_⟩
    obtain ⟨user, listed, rfl⟩ := List.mem_map.mp mem
    exact all user listed
  rw [same, List.nodup_replicate] at distinct
  omega

theorem list_active {s s' : Storage} {users : List User}
    (ran : UserStore.list (some .active) 500 0 s = (.ok users, s')) :
    users = PopulationScans.listed (some .active) 500 s.db ∧ s'.db = s.db := by
  have same := (Reads.listUsers (some .active) 500 0 s).1
  rw [ran] at same
  refine ⟨?_, same⟩
  obtain ⟨rows, s₁, read, rest⟩ := Program.bind_eq_ok ran
  obtain ⟨rfl, -⟩ := query_ok read
  exact mapUserRows_ok (decoded_ok rest).1

theorem countSysops_reads (d : Database) : Keeps (fun h => h.store.db = d) countSysops := by
  refine .bind (Stable.keeps_db fun h same => ?_) fun _ => .ret _
  exact (Reads.listUsers (some .active) 500 0 h.store).1.trans same

/-- Where two are counted, there is another Sysop besides any one account. -/
theorem countSysops_ok {h h' : BbsHost} {n : Nat} (ran : countSysops h = (.ok n, h')) :
    h'.store.db = h.store.db ∧
      (2 ≤ n → ∀ id, ∃ i row, h.store.db.users.get? i = some row ∧ Administers none row ∧ i ≠ id) := by
  obtain ⟨users, h₁, called, counted⟩ := Program.bind_eq_ok ran
  obtain ⟨s, listed, rfl⟩ := db_eq_ok called
  cases counted
  obtain ⟨rfl, same⟩ := list_active listed
  refine ⟨same, fun many id => ?_⟩
  have distinct : ((PopulationScans.listed (some .active) 500 h.store.db).map (·.id)).Nodup := by
    have ordered := PopulationScans.population_sorted (some .active) h.store.db
    have ids : ((PopulationScans.population (some .active) h.store.db).map (·.1)).Nodup :=
      (List.pairwise_map.mpr ordered).imp fun lt => lt.ne
    rw [PopulationScans.listed, List.map_map]
    have page := (PopulationScans.page_perm (some .active) h.store.db 500).map (·.1)
    exact page.nodup_iff.mpr (ids.sublist (List.filter_sublist.map _))
  obtain ⟨user, mem, other⟩ := exists_other (distinct.sublist (List.filter_sublist.map _)) many id
  obtain ⟨there, sysop⟩ := List.mem_filter.mp mem
  obtain ⟨r, among, -, rfl⟩ := PopulationScans.mem_listed.mp there
  obtain ⟨stored, active⟩ := List.mem_filter.mp among
  exact ⟨r.1, r.2, (RowTable.mem_rows_iff _ _ _).mp stored,
    ⟨of_decide_eq_true sysop, of_decide_eq_true active, Option.some_ne_none _ |>.symm⟩, other⟩

/-! ## Commands -/

section Handlers
variable {session : SessionId}

theorem beneath_of {h h' : BbsHost} {user : User} (refreshed : Refreshed session h h')
    (stored : h.store.db.users.get? user.id = some user.toUserRow)
    (beneath : user.permissionLevel ≠ .sysop) (row : UserRow)
    (found : h'.store.db.users.get? user.id = some row) : row.permissionLevel ≠ .sysop := by
  rw [refreshed.db, stored] at found
  cases found
  exact beneath

theorem refreshed_staffed {h h' : BbsHost} (staffed : Staffed none h)
    (refreshed : Refreshed session h h') : Staffed none h' := by
  rw [Staffed, refreshed.db]
  exact staffed

theorem handleValidateUser_staffs (name : Username) :
    (staffing none).holds (handleValidateUser session name) := by
  refine staffing_iff.mpr fun h staffed => ?_
  apply named_spec fun h' => refreshed_staffed staffed
  intro auth user h' refreshed served aide stored named
  have staffed' := refreshed_staffed staffed refreshed
  split
  · exact staffed'
  · next pending =>
    have level : user.permissionLevel ≠ .sysop := by
      rw [not_not.mp pending]
      decide
    apply wrote_then (updated_staffed none (some .user) staffed' (Manned.beneath staffed'
      (beneath_of refreshed stored level)))
    intro _
    exact (staffing none).seq ((staffing none).setLevelsOf _ _) fun _ =>
      (staffing none).seq ((staffing none).audit _ _ _ _) fun _ =>
        (staffing none).seq ((staffing none).emit trivial) fun _ => (staffing none).reply _

theorem handleBanUser_staffs (name : Username) : (staffing none).holds (handleBanUser session name) := by
  refine staffing_iff.mpr fun h staffed => ?_
  apply named_spec fun h' => refreshed_staffed staffed
  intro auth user h' refreshed served aide stored named
  have staffed' := refreshed_staffed staffed refreshed
  split
  · exact staffed'
  · split
    · exact staffed'
    · next outranked =>
      have above : outranks auth user = true := by simpa using outranked
      apply wrote_then (updated_staffed (some .banned) none staffed' (Manned.beneath staffed'
        (beneath_of refreshed stored (below_sysop above))))
      intro _
      exact (staffing none).seq (clearing _) fun _ => (staffing none).seq ((staffing none).endSessionsOf _ _) fun _ =>
        (staffing none).seq ((staffing none).audit _ _ _ _) fun _ => (staffing none).reply _

theorem handleDeleteUser_staffs (name : Username) (h : BbsHost) (staffed : Staffed none h) :
    Staffed none (handleDeleteUser session name h).2 := by
  apply named_spec fun h' => refreshed_staffed staffed
  intro auth user h' refreshed served sysop stored named
  have staffed' := refreshed_staffed staffed refreshed
  split
  · exact staffed'
  · split
    · exact staffed'
    · next outranked =>
      have above : outranks auth user = true := by simpa using outranked
      apply wrote_then (updated_staffed (some .deleted) none staffed' (Manned.beneath staffed'
        (beneath_of refreshed stored (below_sysop above))))
      intro _
      have free : Power.oust ≠ .standing ∧ Power.oust ≠ .level := by decide
      exact (staffing none).seq ((staffing none).oust free name) fun _ =>
        (staffing none).seq ((staffing none).audit _ _ _ _) fun _ => (staffing none).reply _

theorem handleUnbanUser_staffs (name : Username) (h : BbsHost) (staffed : Staffed none h) :
    Staffed none (handleUnbanUser session name h).2 := by
  apply named_spec fun h' => refreshed_staffed staffed
  intro auth user h' refreshed served sysop stored named
  have staffed' := refreshed_staffed staffed refreshed
  split
  · exact staffed'
  · have spares : Spares none h'.store.db user.id fun r => { r with status := .active } :=
      Manned.each staffed' fun row administers => ⟨administers.level, rfl, administers.other⟩
    apply wrote_then (updated_staffed (some .active) none staffed' spares)
    intro _
    exact (staffing none).seq (clearing _) fun _ => (staffing none).seq ((staffing none).audit _ _ _ _) fun _ =>
      (staffing none).reply _

/-- A level that is not lowered, of an account that stays active or becomes so. -/
theorem spares_unlowered {db : Database} {user : User} (status : Option UserStatus)
    (level : Option PermissionLevel) (manned : Manned none db)
    (stored : db.users.get? user.id = some user.toUserRow)
    (lifting : ∀ s, status = some s → s = .active) (kept : lowersSysop user level = false) :
    Spares none db user.id fun r => { r with
      status := status.getD r.status, permissionLevel := level.getD r.permissionLevel } := by
  obtain ⟨i, row, found, administers⟩ := manned
  refine ⟨i, row, found, administers, fun same => ⟨?_, ?_, administers.other⟩⟩
  · cases level with
    | none => exact administers.level
    | some level =>
        rw [same, stored] at found
        cases found
        have high : ¬ level < .sysop := by simpa [lowersSysop, administers.level] using kept
        exact le_antisymm (le_sysop level) (not_lt.mp high)
  · cases status with
    | none => exact administers.active
    | some status => exact lifting status rfl

theorem applyLevel_staffs {auth : Auth} {name : Username} {user : User} {level : PermissionLevel}
    {h : BbsHost} (staffed : Staffed none h) (spares : Spares none h.store.db user.id fun r => { r with
      permissionLevel := level }) : Staffed none (applyLevel auth name user level h).2 := by
  apply wrote_then (updated_staffed none (some level) staffed spares)
  intro _
  have reflected : (staffing none).holds (reflectUserLevel name user level) :=
    (staffing none).ite (fun _ => (staffing none).endSessionsOf _ _) fun _ => (staffing none).setLevelsOf _ _
  exact (staffing none).seq reflected fun _ =>
    (staffing none).seq ((staffing none).call (.audit _ _ _ _)) fun _ => (staffing none).reply _

theorem withUser_staffs {name : Username} {missing : Response} {k : User → HostM Response}
    {h : BbsHost} (staffed : Staffed none h)
    (found : ∀ user h', Staffed none h' → h'.store.db.users.get? user.id = some user.toUserRow →
      user.username = name → Staffed none (k user h').2) : Staffed none (withUser name missing k h).2 := by
  have same := (Reads.findUser name h.store).1
  unfold withUser
  rcases read : UserStore.getByUsername name h.store with ⟨r, s⟩
  rw [read] at same
  have staffed' : Staffed none { h with store := s } := by
    rw [Staffed, show s.db = h.store.db from same]
    exact staffed
  cases r with
  | error e =>
      rw [bind_error (db_error read)]
      exact staffed'
  | ok user =>
      rw [bind_ok (db_ok read)]
      cases user with
      | none => exact staffed'
      | some user =>
          obtain ⟨stored, named⟩ := found_username read
          apply found user _ staffed' ?_ named
          rw [show s.db = h.store.db from same]
          exact stored

theorem handleSetUserLevel_staffs (name : Username) (level : PermissionLevel) (h : BbsHost)
    (staffed : Staffed none h) : Staffed none (handleSetUserLevel session name level h).2 := by
  apply privileged_spec fun h' => refreshed_staffed staffed
  intro auth h' refreshed served sysop
  have staffed' := refreshed_staffed staffed refreshed
  split
  · exact staffed'
  · apply withUser_staffs staffed'
    intro user h'' staffed'' stored named
    cases levelRefusal name user level with
    | some refusal => exact staffed''
    | none =>
        dsimp only
        split
        · rcases counted : countSysops h'' with ⟨r, h₃⟩
          cases r with
          | error e =>
              have kept := staffing_iff.mp (staffing none).countSysops h'' staffed''
              rw [counted] at kept
              rw [bind_error counted]
              exact kept
          | ok n =>
              obtain ⟨same, others⟩ := countSysops_ok counted
              have staffed₃ : Staffed none h₃ := by
                rw [Staffed, same]
                exact staffed''
              rw [bind_ok counted]
              split
              · exact staffed₃
              · next several =>
                obtain ⟨i, row, found, administers, other⟩ := others (by omega) user.id
                apply applyLevel_staffs staffed₃
                rw [same]
                exact .another found administers other
        · next kept =>
          apply applyLevel_staffs staffed''
          exact spares_unlowered none (some level) staffed'' stored
            (by simp) (by simpa using kept)

/-! ## What commands and requests share -/

theorem adminUser_spec (username : String) (h : BbsHost) :
    (adminUser username h).2.store.db = h.store.db ∧ ∀ user, (adminUser username h).1 = .ok user →
      ∃ name, username? username = some name ∧
        h.store.db.users.get? user.id = some user.toUserRow ∧ user.username = name := by
  unfold adminUser
  cases name_ : username? username with
  | none =>
      refine ⟨rfl, fun user failed => ?_⟩
      cases failed
  | some name =>
      have same := (Reads.findUser name h.store).1
      rcases read : UserStore.getByUsername name h.store with ⟨r, s⟩
      rw [read] at same
      dsimp only
      cases r with
      | error e =>
          rw [bind_error (db_error read)]
          refine ⟨same, fun user failed => ?_⟩
          cases failed
      | ok found =>
          rw [bind_ok (db_ok read)]
          cases found with
          | none =>
              refine ⟨same, fun user failed => ?_⟩
              cases failed
          | some user =>
              refine ⟨same, fun user' returned => ?_⟩
              cases returned
              obtain ⟨stored, named⟩ := found_username read
              exact ⟨name, rfl, stored, named⟩

/-- The Sysops that are left whatever becomes of the account of that name. -/
def SparesNamed (but : Option Username) (h : BbsHost) (username : String) : Prop :=
  ∀ name id row, username? username = some name → h.store.db.users.get? id = some row →
    row.username = name → ∀ f, Spares but h.store.db id f

theorem adminUser_then {α : Type} {username : String} {k : User → HostM α} {h : BbsHost}
    (staffed : Staffed but h) (found : ∀ user h', h'.store.db = h.store.db → Staffed but h' →
      h.store.db.users.get? user.id = some user.toUserRow →
      (SparesNamed but h username → ∀ f, Spares but h.store.db user.id f) → Staffed but (k user h').2) :
    Staffed but ((adminUser username >>= k) h).2 := by
  obtain ⟨same, known⟩ := adminUser_spec username h
  rcases read : adminUser username h with ⟨r, h'⟩
  rw [read] at same known
  have staffed' : Staffed but h' := by
    rw [Staffed, show h'.store.db = h.store.db from same]
    exact staffed
  cases r with
  | error e =>
      rw [bind_error read]
      exact staffed'
  | ok user =>
      rw [bind_ok read]
      obtain ⟨name, parsed, stored, named⟩ := known user rfl
      exact found user h' same staffed' stored fun spared => spared name user.id _ parsed stored named

theorem adminSuspendUser_staffs {username : String} (days : Nat) {h : BbsHost} (staffed : Staffed but h)
    (spared : SparesNamed but h username) : Staffed but (adminSuspendUser username days h).2 := by
  unfold adminSuspendUser
  split
  · exact staffed
  · apply adminUser_then staffed
    intro user h' same staffed' stored spares
    rw [bind_apply, now_apply]
    dsimp only
    apply wrote_then
    · apply suspended_staffed staffed'
      rw [same]
      exact spares spared _
    · exact fun _ => (staffing but).endSessionsNamed _ _

theorem handleTimeoutUser_staffs (name : Username) (days : Nat) (h : BbsHost) (staffed : Staffed none h)
    (coherent : Coherent h.store.db) : Staffed none (handleTimeoutUser session name days h).2 := by
  apply named_spec fun h' => refreshed_staffed staffed
  intro auth user h' refreshed served aide stored named
  have staffed' := refreshed_staffed staffed refreshed
  split
  · exact staffed'
  · split
    · exact staffed'
    · next outranked =>
      have above : outranks auth user = true := by simpa using outranked
      have spared : SparesNamed none h' name.text := by
        intro other id row parsed found named' f
        have same : other = name := by
          unfold username? at parsed
          rcases read : Username.new name.text with e | again
          · rw [read] at parsed
            cases parsed
          · rw [read] at parsed
            cases parsed
            exact new_text read
        rw [refreshed.db] at found
        have id_ : id = user.id :=
          coherent.names id user.id row _ found stored (by rw [named', same, ← named])
        rw [id_]
        exact Manned.beneath staffed' (beneath_of refreshed stored (below_sysop above))
      have suspended := adminSuspendUser_staffs days staffed' spared
      rcases ran : adminSuspendUser name.text days h' with ⟨r, h''⟩
      rw [ran] at suspended
      cases r with
      | error e =>
          rw [bind_error ran]
          exact suspended
      | ok _ =>
          rw [bind_ok ran]
          exact staffing_iff.mp ((staffing none).seq ((staffing none).audit _ _ _ _) fun _ => (staffing none).reply _)
            h'' suspended

theorem restartAuth_staffs (escape : AuthEscape) :
    (staffing none).holds (restartAuth session escape) := by
  have free {p : Power} (other : p ≠ .standing ∧ p ≠ .level) : (staffing none).has p := other
  exact (staffing none).restartAuth
    ((staffing none).createUserAndLogin (free (by decide)) (free (by decide)) (free (by decide)) session)
    ((staffing none).finalizeLogin (free (by decide)) session) (free (by decide)) escape

theorem reviewReply_staffs (pending : List Username) (index : Nat) (reply : String) :
    (staffing none).holds (reviewReply session pending index reply) :=
  (staffing none).reviewReply handleValidateUser_staffs handleBanUser_staffs pending index reply

/-- Whatever the command is, a name is that of one account. -/
def Named (_ : Command) (h : BbsHost) : Prop := Coherent h.store.db

theorem lasting_named (cmd : Command) : Lasting fun h => Staffed none h ∧ Named cmd h where
  aside h s holds aside _ := ⟨Manned.aside holds.1 aside, holds.2.aside aside⟩
  lift h s id holds later wrote := by
    refine ⟨(staffed_invariant none).lift h s id holds.1 later wrote, ?_⟩
    rw [Named, wrote]
    exact holds.2.update id fun r => reactivate_username _ r
  ready _ _ holds _ := holds

theorem processCommand_staffs (cmd : Command) (h : BbsHost) (staffed : Staffed none h)
    (coherent : Coherent h.store.db) : Staffed none (processCommand session cmd h).2 := by
  apply (staffed_invariant none).command lasting_named ?_ ?_ ?_ ?_ h staffed fun _ _ => coherent
  · intro target
    have free : Power.move ≠ .standing ∧ Power.move ≠ .level := by decide
    exact staffing_iff.mp ((staffing none).handleChangeRoom free session target)
  · intro c onReply h fresh staffed coherent
    have other (ordinary : ∀ p ∈ Conduct.takes c, p ≠ .standing ∧ p ≠ .level) :
        Staffed none (dispatch onReply session c h).2 :=
      staffing_iff.mp ((staffing none).dispatch ordinary fun text same =>
        absurd same (fresh text)) h staffed
    cases c with
    | validateUser name => exact staffing_iff.mp (handleValidateUser_staffs name) h staffed
    | banUser name => exact staffing_iff.mp (handleBanUser_staffs name) h staffed
    | timeoutUser name days => exact handleTimeoutUser_staffs name days h staffed coherent
    | unbanUser name => exact handleUnbanUser_staffs name h staffed
    | deleteUser name => exact handleDeleteUser_staffs name h staffed
    | setUserLevel name level => exact handleSetUserLevel_staffs name level h staffed
    | _ => exact other (by simp [Conduct.takes])
  · intro workflow reply h _ unlisted _ staffed _
    have other (ordinary : ∀ p ∈ Conduct.takesReply workflow, p ≠ .standing ∧ p ≠ .level) :
        Staffed none (dispatchReply processFresh session workflow reply h).2 :=
      staffing_iff.mp ((staffing none).dispatchReply
        (fun roomIds next same => absurd same (unlisted roomIds next)) ordinary reply) h staffed
    cases workflow with
    | reviewPending pending index =>
        exact staffing_iff.mp (reviewReply_staffs pending index reply) h staffed
    | _ => exact other (by simp [Conduct.takesReply])
  · intro escape h staffed _
    exact staffing_iff.mp (restartAuth_staffs escape) h staffed

end Handlers

/-! ## Requests -/

theorem guardLastSysop_spec (user : User) (level : Option PermissionLevel) (refusal : HostError)
    (h : BbsHost) : (guardLastSysop user level refusal h).2.store.db = h.store.db ∧
      ((guardLastSysop user level refusal h).1 = .ok () → lowersSysop user level = true →
        ∃ i row, h.store.db.users.get? i = some row ∧ Administers none row ∧ i ≠ user.id) := by
  unfold guardLastSysop onlyIf
  split
  · rcases counted : countSysops h with ⟨r, h'⟩
    cases r with
    | error e =>
        have same := countSysops_reads h.store.db h rfl
        rw [counted] at same
        rw [bind_error counted]
        refine ⟨same, fun passed => ?_⟩
        cases passed
    | ok n =>
        obtain ⟨same, others⟩ := countSysops_ok counted
        rw [bind_ok counted]
        split
        · refine ⟨same, fun passed => ?_⟩
          cases passed
        · next several => exact ⟨same, fun _ _ => others (by omega) user.id⟩
  · next kept => exact ⟨rfl, fun _ lowers => absurd lowers kept⟩

theorem applyUpdate_staffs {user : User} {h : BbsHost} (username : String)
    (status : Option UserStatus) (level : Option PermissionLevel) (staffed : Staffed but h)
    (spares : Spares but h.store.db user.id fun r => { r with
      status := status.getD r.status, permissionLevel := level.getD r.permissionLevel }) :
    Staffed but ((do
      applyUpdate user status level
      reflectStatus username status
      reflectLevel username level : HostM Unit) h).2 := by
  have written : Staffed but (applyUpdate user status level h).2 :=
    wrote_then (updated_staffed status level staffed spares) fun _ =>
      (staffing but).onlyIf (clearing _)
  have applied : Ensures (Staffed but) (fun h' => h' = h) (applyUpdate user status level)
      fun _ => Staffed but := by
    rintro h' rfl
    exact ⟨written, fun _ _ => written⟩
  have reflected := staffing_iff.mp ((staffing but).reflectUpdate username status level)
  exact (applied.bind (fun _ => .ofKeeps reflected) h rfl).1

/-- Whether a request may take the standing of an account away. -/
def Bars (body : UpdateUserBody) : Prop :=
  body.status = some 1 ∨ body.status = some 2 ∨ body.suspendDays.isSome

theorem decoded_lifts {status : Option Nat} {newStatus : Option UserStatus}
    (decoded : decodeField "status" statusOf status = .ok newStatus)
    (lifts : ¬ (status = some 1 ∨ status = some 2)) (s : UserStatus) (becomes : newStatus = some s) :
    s = .active := by
  unfold decodeField at decoded
  split at decoded
  · cases decoded
    cases becomes
  · next n =>
    rcases n with _ | _ | _ | n
    · cases decoded
      cases becomes
      rfl
    · exact absurd (.inl rfl) lifts
    · exact absurd (.inr rfl) lifts
    · cases decoded

/-- What becomes of an account of which a request changes the status or the level. -/
theorem adminUpdateUser_then {username : String} {status level : Option Nat} {h : BbsHost}
    (staffed : Staffed but h)
    (applied : ∀ user newStatus newLevel, h.store.db.users.get? user.id = some user.toUserRow →
      (SparesNamed but h username → ∀ f, Spares but h.store.db user.id f) →
      decodeField "status" statusOf status = .ok newStatus →
      (lowersSysop user newLevel = true →
        ∃ i row, h.store.db.users.get? i = some row ∧ Administers none row ∧ i ≠ user.id) →
      Spares but h.store.db user.id fun r => { r with
        status := newStatus.getD r.status, permissionLevel := newLevel.getD r.permissionLevel }) :
    Staffed but (adminUpdateUser username status level h).2 := by
  apply adminUser_then staffed
  intro user h' same staffed' stored spares
  cases decoded : decodeField "status" statusOf status with
  | error e => exact staffed'
  | ok newStatus =>
      cases decodeField "permission_level" levelOf level with
      | error e => exact staffed'
      | ok newLevel =>
          have rest : Staffed but ((do
              guardActive user newStatus newLevel
              guardLastSysop user newLevel lastSysop
              applyUpdate user newStatus newLevel
              reflectStatus username newStatus
              reflectLevel username newLevel : HostM Unit) h').2 := by
            have active : guardActive user newStatus newLevel h' = (.ok (), h') ∨
                ∃ e, guardActive user newStatus newLevel h' = (.error e, h') := by
              unfold guardActive
              split
              · exact .inr ⟨_, rfl⟩
              · exact .inl rfl
            rcases active with passed | ⟨e, failed⟩
            · rw [bind_ok passed]
              obtain ⟨same', others⟩ := guardLastSysop_spec user newLevel lastSysop h'
              rcases ran : guardLastSysop user newLevel lastSysop h' with ⟨r, h₁⟩
              rw [ran] at same' others
              have staffed₁ : Staffed but h₁ := by
                rw [Staffed, show h₁.store.db = h'.store.db from same']
                exact staffed'
              cases r with
              | error e =>
                  rw [bind_error ran]
                  exact staffed₁
              | ok _ =>
                  rw [bind_ok ran]
                  have spared : Spares but h₁.store.db user.id fun r => { r with
                      status := newStatus.getD r.status
                      permissionLevel := newLevel.getD r.permissionLevel } := by
                    rw [show h₁.store.db = h.store.db from same'.trans same]
                    apply applied user newStatus newLevel stored spares decoded
                    rw [← same]
                    exact others rfl
                  exact applyUpdate_staffs username newStatus newLevel staffed₁ spared
            · rw [bind_error failed]
              exact staffed'
          exact rest

theorem adminUpdateUser_spares {username : String} (status level : Option Nat) {h : BbsHost}
    (staffed : Staffed but h) (spared : SparesNamed but h username) :
    Staffed but (adminUpdateUser username status level h).2 :=
  adminUpdateUser_then staffed fun _ _ _ _ spares _ _ => spares spared _

theorem adminUpdateUser_lifts {username : String} {status : Option Nat} (level : Option Nat)
    {h : BbsHost} (staffed : Staffed none h) (lifts : ¬ (status = some 1 ∨ status = some 2)) :
    Staffed none (adminUpdateUser username status level h).2 := by
  apply adminUpdateUser_then staffed
  intro user newStatus newLevel stored _ decoded others
  cases lowered : lowersSysop user newLevel with
  | true =>
      obtain ⟨i, row, found, administers, other⟩ := others lowered
      exact .another found administers other
  | false => exact spares_unlowered newStatus newLevel staffed stored (decoded_lifts decoded lifts) lowered

/-- A Sysop of another name stays one, whatever is asked about the account of that name. -/
theorem spares_other {username : String} {h : BbsHost} (staffed : Staffed (username? username) h) :
    SparesNamed (username? username) h username := by
  intro other id row parsed stored named f
  obtain ⟨i, r, found, administers⟩ := staffed
  refine .another found administers fun same => ?_
  rw [same, stored] at found
  cases found
  apply administers.other
  rw [parsed, named]

theorem Manned.anyone {db : Database} (manned : Manned but db) : Manned none db := by
  obtain ⟨i, row, stored, administers⟩ := manned
  exact ⟨i, row, stored, administers.level, administers.active, (Option.some_ne_none _).symm⟩

theorem apiUpdateUser_other {caller : CurrentUser} {username : String} {body : UpdateUserBody} :
    (staffing (username? username)).holds (apiUpdateUser caller username body) := by
  apply (staffing (username? username)).apiUpdateUser
  · exact staffing_iff.mpr fun h staffed =>
      adminUpdateUser_spares _ _ staffed (spares_other staffed)
  · exact fun days _ => staffing_iff.mpr fun h staffed =>
      adminSuspendUser_staffs days staffed (spares_other staffed)

theorem apiUpdateUser_lifts {caller : CurrentUser} {username : String} {body : UpdateUserBody}
    (lifts : ¬ Bars body) : (staffing none).holds (apiUpdateUser caller username body) := by
  apply (staffing none).apiUpdateUser
  · refine staffing_iff.mpr fun h staffed => adminUpdateUser_lifts _ staffed fun status => ?_
    exact lifts (or_assoc.mp (.inl status))
  · intro days asked
    exact absurd (.inr (.inr (by rw [asked]; rfl))) lifts

theorem unrefused {α : Type} {condition : Prop} [Decidable condition] {refusal : α}
    {rest : Option α} (passes : (if condition then some refusal else rest) = none) :
    ¬ condition ∧ rest = none := by
  split at passes
  · cases passes
  · next not => exact ⟨not, passes⟩

/-- What a caller below Sysop may ask for about an account. -/
theorem unrefused_below {caller : CurrentUser} {username : String} {body : UpdateUserBody}
    (below : caller.permissionLevel < .sysop) (passes : updateRefusal caller username body = none) :
    body.permissionLevel = none ∧ body.password = none ∧
      ¬ (body.status.isSome ∧ body.suspendDays.isSome) := by
  unfold updateRefusal at passes
  obtain ⟨-, passes⟩ := unrefused passes
  obtain ⟨apart, passes⟩ := unrefused passes
  obtain ⟨level, passes⟩ := unrefused passes
  obtain ⟨password, -⟩ := unrefused passes
  simp only [below, decide_true, Bool.and_true, Bool.not_eq_true, Option.isSome_eq_false_iff,
    Option.isNone_iff_eq_none] at level password
  exact ⟨level, password, by simpa using apart⟩

theorem apiUpdateUser_below {caller : CurrentUser} {username : String} {body : UpdateUserBody}
    {h : BbsHost} (staffed : Staffed none h) (below : caller.permissionLevel < .sysop)
    (spared : SparesNamed none h username) :
    Staffed none (apiUpdateUser caller username body h).2 := by
  unfold apiUpdateUser
  cases passes : updateRefusal caller username body with
  | some refusal => exact staffed
  | none =>
      obtain ⟨level, password, apart⟩ := unrefused_below below passes
      unfold patchStanding
      dsimp only
      split
      · next changes =>
        have status : body.status.isSome := by simpa [level] using changes
        refine Stable.keeps_onResult (adminUpdateUser_spares _ _ staffed spared) fun _ => ?_
        apply staffing_iff.mp ((staffing none).afterUpdate ?_)
        intro days asked
        exact absurd ⟨status, by rw [asked]; rfl⟩ apart
      · rw [password]
        unfold patchPassword patchSuspension
        cases body.suspendDays with
        | none => exact staffed
        | some days =>
          refine Stable.keeps_onResult (adminSuspendUser_staffs _ staffed spared) fun _ => ?_
          exact staffing_iff.mp ((staffing none).seq ((staffing none).webAudit _ _ _ _) fun _ =>
            (staffing none).reply _)

/-! ## As whom a request is served -/

/-- An active account of that name and level. -/
def Active (d : Database) (id : UserId) (name : Username) (level : PermissionLevel) : Prop :=
  ∃ row, d.users.get? id = some row ∧ row.username = name ∧ row.permissionLevel = level ∧
    row.status = .active

theorem standing_active {now : Timestamp} {fresh : Option User} {allowed : User}
    (h : standing now fresh = .allowed allowed) : allowed.status = .active := by
  unfold standing at h
  split at h
  · split at h
    · next active =>
      cases h
      exact active
    · split at h <;> cases h
    · cases h
  · cases h

theorem resolveSuspension_active {user allowed : User} {h h' : BbsHost}
    (stored : h.store.db.users.get? user.id = some user.toUserRow)
    (ran : resolveSuspension user h = (.ok (.allowed allowed), h')) :
    Active h'.store.db user.id user.username allowed.permissionLevel := by
  unfold resolveSuspension at ran
  cases until_ : user.suspendedUntil with
  | none =>
      rw [until_] at ran
      cases ran
  | some t =>
    rw [until_] at ran
    obtain ⟨now, h₁, looked, ran⟩ := Program.bind_eq_ok ran
    cases looked
    split at ran
    · obtain ⟨ended, h₂, lifted, ran⟩ := Program.bind_eq_ok ran
      obtain ⟨s, called, rfl⟩ := db_eq_ok lifted
      cases ended with
      | true =>
          cases ran
          obtain ⟨row, there, -, becomes⟩ := WebAuthority.endExpired_true called
          rw [stored] at there
          cases there
          exact ⟨_, becomes, rfl, rfl, rfl⟩
      | false =>
          obtain ⟨fresh, h₃, read, ran⟩ := Program.bind_eq_ok ran
          obtain ⟨s', called', rfl⟩ := db_eq_ok read
          have allowed_ : standing h.store.now fresh = .allowed allowed :=
            Except.ok.inj (congrArg Prod.fst ran)
          have kept : s'.db = s.db := by
            have same := (Reads.getUser user.id s).1
            rw [called'] at same
            exact same
          have known := getById_ok called'
          have active := standing_active allowed_
          rw [standing_allowed allowed_] at known
          obtain ⟨row, there, rfl⟩ := Option.map_eq_some_iff.mp known.symm
          have effect := endExpired_effect user.id h.store.now h.store
          rw [called] at effect
          have named : row.username = user.username := by
            dsimp only at there
            rcases effect.2 with kept | wrote
            · rw [show s.db = _ from kept, stored] at there
              cases there
              rfl
            · rw [show s.db = _ from wrote, RowTable.get?_update, if_pos rfl, stored] at there
              cases there
              exact reactivate_username h.store.now _
          refine ⟨row, ?_, named, rfl, active⟩
          have same : h' = { h with store := s' } := (congrArg Prod.snd ran).symm
          rw [same]
          dsimp only
          rw [kept]
          exact there
    · cases ran

theorem adminAccountLevel_active {username : String} {level : PermissionLevel} {h h' : BbsHost}
    (ran : adminAccountLevel username h = (.ok (some level), h')) :
    ∃ id name, username? username = some name ∧ Active h'.store.db id name level := by
  unfold adminAccountLevel at ran
  cases name_ : username? username with
  | none =>
      rw [name_] at ran
      cases ran
  | some name =>
      rw [name_] at ran
      obtain ⟨found, h₁, read, ran⟩ := Program.bind_eq_ok ran
      obtain ⟨s, called, rfl⟩ := db_eq_ok read
      have same := (Reads.findUser name h.store).1
      rw [called] at same
      cases found with
      | none => cases ran
      | some user =>
          obtain ⟨stored, named⟩ := found_username called
          rw [← show s.db = h.store.db from same] at stored
          cases status : user.status with
          | active =>
              simp only [status] at ran
              cases ran
              exact ⟨user.id, name, rfl, user.toUserRow, stored, named, rfl, status⟩
          | deleted =>
              simp only [status] at ran
              cases ran
          | banned =>
              simp only [status] at ran
              obtain ⟨check, h₂, resolved, ran⟩ := Program.bind_eq_ok ran
              cases check with
              | allowed user' =>
                  cases ran
                  rw [← named]
                  exact ⟨user.id, user.username, rfl, resolveSuspension_active stored resolved⟩
              | suspended days => cases ran
              | permanentlyBanned => cases ran

theorem authorize_active {username : String} {caller : CurrentUser} {h h' : BbsHost}
    (served : authorize username h = (.ok (.yes caller), h')) :
    ∃ id name, username? username = some name ∧
      Active h'.store.db id name caller.permissionLevel := by
  unfold authorize at served
  rw [Program.bind_apply, Program.attempt_apply] at served
  rcases read : adminAccountLevel username h with ⟨r, h₁⟩
  rw [read] at served
  rcases r with e | level
  · cases served
  · rcases level with _ | level
    · cases served
    · dsimp only at served
      split at served
      · cases served
        exact adminAccountLevel_active read
      · cases served

def SysopNamed (d : Database) (name : Username) : Prop :=
  ∃ id row, d.users.get? id = some row ∧ row.username = name ∧ row.permissionLevel = .sysop

/-- What ordinary operations do makes nobody a Sysop. -/
theorem ranked_stable (d : Database) :
    Stable fun h => ∀ name, SysopNamed h.store.db name → SysopNamed d name where
  aside h s ranked aside _ name named := by
    obtain ⟨id, row', stored, same, level⟩ := named
    obtain ⟨row, before, eq⟩ := aside.before stored
    exact ranked name ⟨id, row, before, (congrArg (·.1) eq).trans same,
      (congrArg (·.2.1) eq).trans level⟩
  lift h s user ranked _ wrote name named := by
    obtain ⟨id, row', stored, same, level⟩ := named
    obtain ⟨row, before, rfl | ⟨-, rfl⟩⟩ := reactivated_row wrote stored
    · exact ranked name ⟨id, row', before, same, level⟩
    · exact ranked name ⟨id, row, before, same, level⟩

/-- A web user below Sysop does not take a Sysop's standing away, and no Sysop takes away their own,
which a name with an `@` in front would let them do. -/
def Allowed (input : Input) (h : BbsHost) : Prop :=
  match input with
  | .request username (.updateUser target body) => Bars body → ∀ name,
      username? target = some name → SysopNamed h.store.db name →
      ∃ other, username? username = some other ∧ other ≠ name ∧ SysopNamed h.store.db other
  | _ => True

theorem updateUser_staffs {username target : String} {body : UpdateUserBody} {caller : CurrentUser}
    {h h' : BbsHost} (coherent : Coherent h.store.db)
    (allowed : Allowed (.request username (.updateUser target body)) h)
    (known : CallerOf h username caller) (staffed : Staffed none h')
    (active : ∃ id name, username? username = some name ∧
      Active h'.store.db id name caller.permissionLevel)
    (ranked : ∀ name, SysopNamed h'.store.db name → SysopNamed h.store.db name) :
    Staffed none (apiUpdateUser caller target body h').2 := by
  by_cases bars : Bars body
  · obtain ⟨id, own, parsed, row, stored, named, level, active⟩ := active
    by_cases sysop : caller.permissionLevel = .sysop
    · have guarded : Staffed (username? target) h' := by
        refine ⟨id, row, stored, level.trans sysop, active, fun about => ?_⟩
        rw [named] at about
        obtain ⟨other, parsed', different, -⟩ := allowed bars own about
          (ranked own ⟨id, row, stored, named, level.trans sysop⟩)
        rw [parsed] at parsed'
        exact different (Option.some.inj parsed').symm
      exact (staffing_iff.mp apiUpdateUser_other h' guarded).anyone
    · apply apiUpdateUser_below staffed (lt_of_le_of_ne (le_sysop _) sysop)
      intro name i r about found named' f
      apply Manned.beneath staffed
      intro r' found' high
      rw [found] at found'
      cases found'
      obtain ⟨other, parsed', -, j, q, there, named'', level''⟩ :=
        allowed bars name about (ranked name ⟨i, r, found, named', high⟩)
      obtain ⟨-, again, p, parsed'', first, level'⟩ := known
      rw [parsed'] at parsed''
      cases parsed''
      have own_ : p.2.username = other := by simpa using List.find?_some first
      have same := coherent.names p.1 j p.2 q (RowTable.get?_of_find? first) there
        (own_.trans named''.symm)
      have row_ := RowTable.get?_of_find? first
      rw [same, there] at row_
      cases row_
      exact sysop (level'.trans level'')
  · exact staffing_iff.mp (apiUpdateUser_lifts bars) h' staffed

theorem serve_staffs {username : String} {request : WebRequest} {h : BbsHost}
    (staffed : Staffed none h) (coherent : Coherent h.store.db)
    (allowed : Allowed (.request username request) h) : Staffed none (serve username request h).2 := by
  have other (ordinary : ∀ p ∈ Conduct.takesRequest request, p ≠ .standing ∧ p ≠ .level) :
      Staffed none (serve username request h).2 :=
    staffing_iff.mp ((staffing none).serve fun _ => (staffing none).handleRequest ordinary) h staffed
  cases request with
  | updateUser target body =>
      have stable := (staffed_invariant none).toStable.and (ranked_stable h.store.db)
      have kept := stable.authorize username h ⟨staffed, fun _ => id⟩
      unfold serve
      rw [Program.bind_apply]
      rcases ran : authorize username h with ⟨r, h'⟩
      rw [ran] at kept
      rcases r with e | authorized
      · exact kept.1
      · cases authorized with
        | yes caller =>
            have known : CallerOf h username caller := authorize_spec (by rw [ran])
            exact updateUser_staffs coherent allowed known kept.1 (authorize_active ran) kept.2
        | no => exact kept.1
        | unavailable => exact kept.1
  | patchAccessPolicy patch =>
      apply other
      rintro p mem
      simp only [Conduct.takesRequest] at mem
      split at mem
      · simp only [List.mem_cons, List.not_mem_nil, or_false] at mem
        rcases mem with rfl | rfl <;> decide
      · cases mem
  | _ => exact other (by simp [Conduct.takesRequest])

/-! ## Runs -/

theorem staffed_next {input : Input} {h : BbsHost} (staffed : Staffed none h)
    (coherent : Coherent h.store.db) (allowed : Allowed input h) :
    Staffed none (deliver h input) := by
  have keeps {α : Type} {m : HostM α} (holds : (staffing none).holds m) : Staffed none (m h).2 :=
    staffing_iff.mp holds h staffed
  have free {p : Power} (other : p ≠ .standing ∧ p ≠ .level) : (staffing none).has p := other
  cases input with
  | connect transport => exact keeps ((staffing none).open_ transport)
  | disconnect session => exact keeps ((staffing none).close (free (by decide)) session)
  | command session cmd => exact processCommand_staffs cmd h staffed coherent
  | restoreNode session pubkey ttlDays =>
      exact keeps ((staffing none).meshNodeRestore (free (by decide)) session pubkey ttlDays)
  | bindNode session pubkey => exact keeps ((staffing none).meshNodeBind session pubkey)
  | unbindNode pubkey => exact keeps ((staffing none).meshNodeUnbind pubkey)
  | request username request => exact serve_staffs staffed coherent allowed
  | elapse now clock faults => exact staffed

/-- The board is never without an active Sysop, whatever is asked and whatever statement fails, as
long as every Sysop who is banned, deleted or suspended in the web panel is so by another Sysop. -/
theorem sysop_remains {h h' : BbsHost} (coherent : Coherent h.store.db)
    (staffed : ∃ id row, h.store.db.users.get? id = some row ∧ row.permissionLevel = .sysop ∧
      row.status = .active)
    (run : Reaches (fun input h h' => h' = deliver h input) Allowed h h') :
    ∃ id row, h'.store.db.users.get? id = some row ∧ row.permissionLevel = .sysop ∧
      row.status = .active := by
  have kept : Staffed none h' ∧ Coherent h'.store.db := by
    refine run.invariant (I := fun h => Staffed none h ∧ Coherent h.store.db) ⟨?_, coherent⟩ ?_
    · obtain ⟨id, row, stored, level, active⟩ := staffed
      exact ⟨id, row, stored, level, active, (Option.some_ne_none _).symm⟩
    · rintro input t _ ⟨staffed, coherent⟩ allowed rfl
      exact ⟨staffed_next staffed coherent allowed, Coherent.lasts.invariant.delivered input coherent
        fun _ _ _ => coherent⟩
  obtain ⟨id, row, stored, administers⟩ := kept.1
  exact ⟨id, row, stored, administers.level, administers.active⟩

/-- Alice, a Sysop, gives Bob a level, and Bob bans her in the web panel. -/
def coup (level : PermissionLevel) : List Input :=
  [.connect "telnet", .command 1 (.loginOneShot .alice "password"),
    .command 1 (.setUserLevel .bob level),
    .request "bob" (.updateUser "alice" ⟨some 1, none, none, none⟩)]

theorem staffed_coherent : Coherent Suspensions.staffed.store.db := by
  have empty : Suspensions.staffed.store.db.roomMessages = ∅ := by decide +kernel
  have nowhere {room : RoomId} {id : MessageId}
      (posted : (room, id) ∈ Suspensions.staffed.store.db.roomMessages) : False := by
    rw [empty] at posted
    exact Finset.notMem_empty _ posted
  refine ⟨fun i j row row' stored stored' same => ?_, fun _ _ posted => (nowhere posted).elim,
    fun _ _ posted => (nowhere posted).elim, fun _ _ _ posted => (nowhere posted).elim⟩
  have names : ∀ r ∈ Suspensions.staffed.store.db.users.rows,
      ∀ r' ∈ Suspensions.staffed.store.db.users.rows, r.2.username = r'.2.username → r.1 = r'.1 := by
    decide +kernel
  exact names (i, row) ((RowTable.mem_rows_iff _ i row).mpr stored) (j, row')
    ((RowTable.mem_rows_iff _ j row').mpr stored') same

theorem staffed_alice : ∃ id row, Suspensions.staffed.store.db.users.get? id = some row ∧
    row.permissionLevel = .sysop ∧ row.status = .active := by
  have alice : (Suspensions.staffed.store.db.users.get? 1).map
      (fun row => (row.permissionLevel, row.status)) = some (.sysop, .active) := by decide +kernel
  obtain ⟨row, stored, eq⟩ := Option.map_eq_some_iff.mp alice
  exact ⟨1, row, stored, congrArg Prod.fst eq, congrArg Prod.snd eq⟩

theorem sysop_remains_coup : ∃ id row,
    ((coup .sysop).foldl deliver Suspensions.staffed).store.db.users.get? id = some row ∧
      row.permissionLevel = .sysop ∧ row.status = .active := by
  have promoted : ((((coup .sysop).take 3).foldl deliver Suspensions.staffed).store.db.users.get? 2).map
      (fun row => (row.username, row.permissionLevel)) = some (.bob, .sysop) := by decide +kernel
  obtain ⟨row, stored, eq⟩ := Option.map_eq_some_iff.mp promoted
  have follows : Reaches.Follows deliver Allowed (coup .sysop) Suspensions.staffed := by
    refine ⟨trivial, trivial, trivial, fun _ name about _ => ?_, trivial⟩
    have alice : username? "alice" = some .alice := by decide +kernel
    rw [alice] at about
    cases about
    exact ⟨.bob, by decide +kernel, by decide, 2, row, stored, congrArg Prod.fst eq,
      congrArg Prod.snd eq⟩
  exact sysop_remains staffed_coherent staffed_alice (Reaches.follow follows)

/-- As an Aide Bob can ban her as well, and nobody is left. -/
theorem sysop_gone : ¬ ∃ id row,
    ((coup .aide).foldl deliver Suspensions.staffed).store.db.users.get? id = some row ∧
      row.permissionLevel = .sysop ∧ row.status = .active := by
  rintro ⟨id, row, stored, level, active⟩
  have none_ : ∀ r ∈ ((coup .aide).foldl deliver Suspensions.staffed).store.db.users.rows,
      ¬ (r.2.permissionLevel = .sysop ∧ r.2.status = .active) := by decide +kernel
  exact none_ (id, row) ((RowTable.mem_rows_iff _ id row).mpr stored) ⟨level, active⟩

end SupplyDrop.Proof.LastSysop
