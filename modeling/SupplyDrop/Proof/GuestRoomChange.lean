import Mathlib
import SupplyDrop.Host.System
import SupplyDrop.Proof.Reader
import SupplyDrop.Proof.Served

namespace SupplyDrop.Proof.GuestRoomChange
open Library Library.Program Store Host

/-! ## The guest room as the host keeps it -/

structure Setting where
  name : Option String
  id : Option RoomId
  config : Option ConfigFile

def settingOf (h : BbsHost) : Setting := ⟨h.accessPolicy.guestRoomName, h.guestRoomId, h.config⟩

inductive Change where
  | inBand (session : SessionId) (name : Option String)
  | admin (name : Option String)
deriving DecidableEq

def changed : Option String → Response
  | none => .text "Guest room disabled. Unverified users will see the pending-validation message."
  | some roomName =>
      .text s!"Guest room set to '{roomName}'. Unverified users will be placed there."

namespace Change

def after : Change → BbsHost → BbsHost
  | inBand session name, h => (handleSetGuestRoom session name h).2
  | admin name, h => (adminSetGuestRoom name h).2

def Fails : Change → BbsHost → Prop
  | inBand session name, h => (handleSetGuestRoom session name h).1 ≠ .ok (changed name)
  | admin name, h => ∃ e, (adminSetGuestRoom name h).1 = .error e

end Change

/-- The session is a Sysop's: by its account, or as far as it is known when that cannot be read. -/
def Sysops (h : BbsHost) (session : SessionId) : Prop :=
  ∃ r username id, h.sessions.get? session = some r ∧ r.username = some username ∧
    r.userId = some id ∧ accountLevel h id r.level = .sysop

/-- What a failing change leaves of the name is what there was. -/
def Undone : Change → BbsHost → Prop
  | .inBand session (some _), h => Sysops h session → h.accessPolicy.guestRoomName = none
  | .admin (some name), h => h.accessPolicy.guestRoomName = some name
  | _, _ => True

/-! ## What each step leaves of it -/

/-- Nothing of the setting has changed. -/
structure Alike (h h' : BbsHost) : Prop where
  policy : h'.accessPolicy = h.accessPolicy
  id : h'.guestRoomId = h.guestRoomId
  config : h'.config = h.config

namespace Alike
variable {h h' h'' : BbsHost}

theorem refl (h : BbsHost) : Alike h h := ⟨rfl, rfl, rfl⟩

theorem trans (first : Alike h h') (rest : Alike h' h'') : Alike h h'' :=
  ⟨rest.policy.trans first.policy, rest.id.trans first.id, rest.config.trans first.config⟩

theorem setting (same : Alike h h') : settingOf h' = settingOf h := by
  rw [settingOf, same.policy, same.id, same.config]
  rfl

end Alike

theorem tryDb_alike {α : Type} (m : StoreM α) (h : BbsHost) :
    ∃ r h', tryDb m h = (.ok r, h') ∧ Alike h h' :=
  ⟨_, _, tryDb_of rfl, rfl, rfl, rfl⟩

theorem fetchGuestRoom_alike (id : RoomId) (h : BbsHost) :
    (∃ e h', fetchGuestRoom id h = (.ok (.error e), h') ∧ Alike h h') ∨
      ∃ h', fetchGuestRoom id h = (.ok (.ok ()), h') := by
  obtain ⟨fetched, h', read, same⟩ := tryDb_alike (RoomStore.getById id) h
  unfold fetchGuestRoom
  rw [bind_ok read]
  rcases fetched with e | room
  · exact .inl ⟨_, h', rfl, same⟩
  · cases room with
    | none => exact .inl ⟨_, h', rfl, same⟩
    | some room => exact .inr ⟨_, rfl⟩

theorem createGuestRoom_alike (name : String) (h : BbsHost) :
    (∃ e h', createGuestRoom name h = (.ok (.error e), h') ∧ Alike h h') ∨
      ∃ h', createGuestRoom name h = (.ok (.ok ()), h') := by
  unfold createGuestRoom
  rw [bind_ok (now_apply h)]
  obtain ⟨created, h', ran, same⟩ := tryDb_alike (RoomStore.create name
    (some "Open room — all users welcome.") false .unvalidated h.store.now) h
  rw [bind_ok ran]
  rcases created with e | id
  · exact .inl ⟨_, h', rfl, same⟩
  · rcases fetchGuestRoom_alike id h' with ⟨e, h'', failed, same'⟩ | ⟨h'', fetched⟩
    · exact .inl ⟨e, h'', failed, same.trans same'⟩
    · exact .inr ⟨h'', fetched⟩

/-- A guest room that cannot be found or made is not cached. -/
theorem ensureGuestRoom_alike (h : BbsHost) :
    (∃ e h', ensureGuestRoom h = (.ok (.error e), h') ∧ Alike h h') ∨
      ∃ h', ensureGuestRoom h = (.ok (.ok ()), h') := by
  unfold ensureGuestRoom
  rw [bind_ok (peek_apply _ h)]
  cases h.accessPolicy.guestRoomName with
  | none => exact .inr ⟨h, rfl⟩
  | some name =>
      obtain ⟨found, h', read, same⟩ := tryDb_alike (RoomStore.getByName name) h
      dsimp only
      rw [bind_ok read]
      rcases found with e | room
      · exact .inl ⟨_, h', rfl, same⟩
      · cases room with
        | some room => exact .inr ⟨_, rfl⟩
        | none =>
            rcases createGuestRoom_alike name h' with ⟨e, h'', failed, same'⟩ | ⟨h'', made⟩
            · exact .inl ⟨e, h'', failed, same.trans same'⟩
            · exact .inr ⟨h'', made⟩

/-! ## Who may ask -/

theorem currentLevel_known (id : UserId) (cached : PermissionLevel) (h : BbsHost) :
    ∃ h', currentLevel id cached h = (.ok (accountLevel h id cached), h') ∧ Alike h h' := by
  unfold currentLevel accountLevel
  rcases read : UserStore.getById id h.store with ⟨found, s⟩
  rw [bind_ok (tryDb_of read)]
  refine ⟨{ h with store := s }, ?_, rfl, rfl, rfl⟩
  rcases found with e | user
  · rfl
  · cases user <;> rfl

theorem settleLevel (session : SessionId) (level cached : PermissionLevel) (h : BbsHost) :
    ∃ h', onlyIf (level ≠ cached) (onSession session fun r => r.setLevel level) h = (.ok (), h') ∧
      Alike h h' := by
  unfold onlyIf
  split
  · exact ⟨_, rfl, rfl, rfl, rfl⟩
  · exact ⟨h, rfl, .refl h⟩

/-- Whoever is served at the level of a Sysop is one, and serving leaves the setting as it is. -/
theorem sessionAuthUser_sysop (session : SessionId) (h : BbsHost) :
    ∃ served h', sessionAuthUser session h = (.ok served, h') ∧ Alike h h' ∧
      (Sysops h session ↔ ∃ auth, served = .ok auth ∧ .sysop ≤ auth.level) := by
  unfold sessionAuthUser
  rcases sessionAuth_apply session h with
    ⟨e, asked, nobody⟩ | ⟨r, username, id, found, named, known, asked⟩
  · rw [bind_ok asked]
    refine ⟨.error e, h, rfl, .refl h, ?_, nofun⟩
    rintro ⟨r, username, id, found, named, known, -⟩
    rw [nobody r found (by rw [named]; rfl)] at known
    cases known
  · have sysops : Sysops h session ↔ accountLevel h id r.level = .sysop := by
      constructor
      · rintro ⟨r', -, id', found', -, known', level⟩
        cases found.symm.trans found'
        cases known.symm.trans known'
        exact level
      · exact fun level => ⟨r, username, id, found, named, known, level⟩
    obtain ⟨h₁, ran, same₁⟩ := currentLevel_known id r.level h
    obtain ⟨h₂, settled, same₂⟩ := settleLevel session (accountLevel h id r.level) r.level h₁
    have same := same₁.trans same₂
    rw [bind_ok asked]
    dsimp only
    rw [bind_ok ran, bind_ok settled, sysops]
    generalize accountLevel h id r.level = level
    by_cases high : .user ≤ level
    · rw [if_pos high]
      refine ⟨_, h₂, rfl, same, fun sysop => ⟨_, rfl, sysop.ge⟩, ?_⟩
      rintro ⟨auth, eq, sysop⟩
      cases eq
      exact le_antisymm (le_sysop level) sysop
    · have other : level ≠ .sysop := by
        rintro rfl
        exact high (by decide)
      rw [if_neg high, bind_ok (peek_apply _ h₂)]
      split
      · exact ⟨_, h₂, rfl, same, fun sysop => absurd sysop other, nofun⟩
      · refine ⟨_, _, rfl, same.trans ⟨rfl, rfl, rfl⟩, fun sysop => absurd sysop other, ?_⟩
        rintro ⟨auth, eq, sysop⟩
        cases eq
        exact absurd sysop (not_le.mpr (show PermissionLevel.user < .sysop by decide))

theorem privileged_sysop (session : SessionId) (refusal : Response) (k : Auth → HostM Response)
    (h : BbsHost) :
    (¬ Sysops h session ∧ Alike h (privileged session .sysop refusal k h).2) ∨
      Sysops h session ∧ ∃ auth h', privileged session .sysop refusal k h = k auth h' ∧
        Alike h h' := by
  obtain ⟨served, h', ran, same, sysops⟩ := sessionAuthUser_sysop session h
  unfold privileged withAuth
  rw [bind_ok ran, sysops]
  rcases served with e | auth
  · exact .inl ⟨nofun, same⟩
  · dsimp only
    by_cases low : auth.level < .sysop
    · rw [if_pos low]
      refine .inl ⟨?_, same⟩
      rintro ⟨auth', eq, high⟩
      cases eq
      exact not_lt.mpr high low
    · rw [if_neg low]
      exact .inr ⟨⟨auth, rfl, not_lt.mp low⟩, auth, h', rfl, same⟩

def setGuestRoom (auth : Auth) : Option String → HostM Response
  | none => disableGuestRoom auth
  | some roomName => enableGuestRoom auth roomName

theorem handleSetGuestRoom_asked (session : SessionId) (name : Option String) (h : BbsHost) :
    (¬ Sysops h session ∧ Alike h (handleSetGuestRoom session name h).2) ∨
      Sysops h session ∧ ∃ auth h',
        handleSetGuestRoom session name h = setGuestRoom auth name h' ∧ Alike h h' := by
  have served : handleSetGuestRoom session name =
      privileged session .sysop sysopPermissionRequired (setGuestRoom · name) := by
    cases name <;> rfl
  rw [served]
  exact privileged_sysop session sysopPermissionRequired _ h

/-! ## Failing changes -/

theorem audit_alike (actor action : String) (target detail : Option String) (h : BbsHost) :
    ∃ h', audit actor action target detail h = (.ok (), h') ∧ Alike h h' := by
  obtain ⟨written, h', ran, same⟩ := tryDb_alike (AuditStore.write actor action target detail) h
  refine ⟨h', ?_, same⟩
  unfold audit
  rw [bind_ok ran]
  rfl

theorem saved_audited (actor action : String) (target : Option String) (response : Response)
    (h : BbsHost) : (((do
      persistAccessPolicy
      audit actor action target none
      pure response) : HostM Response) h).1 = .ok response := by
  obtain ⟨h', ran, -⟩ := audit_alike actor action target none
    { h with toMemory := h.toMemory.persistPolicy }
  unfold persistAccessPolicy
  rw [bind_ok (poke_apply _ h), bind_ok ran]
  rfl

theorem disableGuestRoom_done (auth : Auth) (h : BbsHost) :
    (disableGuestRoom auth h).1 = .ok (changed none) := by
  unfold disableGuestRoom setGuestRoomName setGuestRoomId
  rw [bind_ok (poke_apply _ h), bind_ok (poke_apply _ _)]
  exact saved_audited _ _ _ _ _

/-- The name the host falls back to is no name, whatever it was before. -/
theorem enableGuestRoom_undoes (auth : Auth) (roomName : String) (h : BbsHost)
    (failed : (enableGuestRoom auth roomName h).1 ≠ .ok (changed (some roomName))) :
    settingOf (enableGuestRoom auth roomName h).2 = { settingOf h with name := none } := by
  unfold enableGuestRoom setGuestRoomName at failed ⊢
  rw [bind_ok (poke_apply _ h)] at failed ⊢
  rcases ensureGuestRoom_alike
    { h with toMemory := h.toMemory.setPolicy fun p => { p with guestRoomName := some roomName } }
    with ⟨e, h', ran, same⟩ | ⟨h', ran⟩
  · rw [bind_ok ran]
    show (⟨none, h'.guestRoomId, h'.config⟩ : Setting) = _
    rw [same.id, same.config]
    rfl
  · rw [bind_ok ran] at failed
    exact absurd (saved_audited _ _ _ _ _) failed

theorem settleGuestRoom_alike (name : Option String) (h : BbsHost) :
    (∃ e h', settleGuestRoom name h = (.error e, h') ∧ name.isSome ∧ Alike h h') ∨
      ∃ h', settleGuestRoom name h = (.ok (), h') := by
  cases name with
  | none => exact .inr ⟨_, rfl⟩
  | some name =>
      unfold settleGuestRoom
      rcases ensureGuestRoom_alike h with ⟨e, h', ran, same⟩ | ⟨h', ran⟩
      · exact .inl ⟨.storage e, h', bind_ok ran, rfl, same⟩
      · exact .inr ⟨h', bind_ok ran⟩

/-- The name asked for stays. -/
theorem adminSetGuestRoom_leaves (name : Option String) (h : BbsHost) (e : HostError)
    (failed : (adminSetGuestRoom name h).1 = .error e) :
    name.isSome ∧ settingOf (adminSetGuestRoom name h).2 = { settingOf h with name } := by
  unfold adminSetGuestRoom setGuestRoomName at failed ⊢
  rw [bind_ok (poke_apply _ h)] at failed ⊢
  rcases settleGuestRoom_alike name
    { h with toMemory := h.toMemory.setPolicy fun p => { p with guestRoomName := name } }
    with ⟨e', h', ran, asked, same⟩ | ⟨h', ran⟩
  · rw [bind_error ran]
    refine ⟨asked, ?_⟩
    show settingOf h' = _
    rw [same.setting]
    rfl
  · rw [bind_ok ran] at failed
    cases failed

/-- A change that fails leaves the cached room and the file as they were; the name stays what it
was where the caller asked for the name there was, or none there was to lose. -/
theorem failed_change (change : Change) (h : BbsHost) (failed : change.Fails h) :
    settingOf (change.after h) = settingOf h ↔ Undone change h := by
  have named (name : Option String) :
      { settingOf h with name } = settingOf h ↔ h.accessPolicy.guestRoomName = name := by
    constructor
    · intro same
      exact (congrArg Setting.name same).symm
    · rintro rfl
      rfl
  cases change with
  | inBand session name =>
      unfold Change.Fails at failed
      unfold Change.after
      dsimp only at failed ⊢
      rcases handleSetGuestRoom_asked session name h with
        ⟨refused, same⟩ | ⟨sysop, auth, h', ran, same⟩
      · rw [same.setting]
        cases name with
        | none => exact iff_of_true rfl trivial
        | some name => exact iff_of_true rfl fun sysop => absurd sysop refused
      · rw [ran] at failed ⊢
        cases name with
        | none => exact absurd (disableGuestRoom_done auth h') failed
        | some name =>
            unfold setGuestRoom at failed ⊢
            rw [enableGuestRoom_undoes auth name h' failed, same.setting, named]
            exact ⟨fun none_ _ => none_, fun undone => undone sysop⟩
  | admin name =>
      obtain ⟨e, failed⟩ := failed
      obtain ⟨asked, left_⟩ := adminSetGuestRoom_leaves name h e failed
      cases name with
      | none => cases asked
      | some name =>
          show settingOf (adminSetGuestRoom (some name) h).2 = _ ↔ _
          rw [left_, named]
          rfl

def openToGuests : List Input :=
  [.connect "telnet", .command 1 (.loginOneShot .alice "password"),
    .command 1 (.setGuestRoom (some "Guests"))]

/-- The guest room is set, and the next two statements but one fail. -/
def diskFailing : BbsHost :=
  (openToGuests.foldl deliver (adminCreateUser "alice" "password" 100
    { BbsHost.fresh .fresh with config := some ⟨true, ⟨true, none⟩⟩ }).2).elapse 0 0
      [none, some "disk I/O error", some "disk I/O error"]

theorem failed_change_same_name :
    settingOf ((Change.admin (some "Guests")).after { diskFailing with
      store := { diskFailing.store with faults := [some "disk I/O error"] } }) =
    settingOf diskFailing :=
  (failed_change (.admin (some "Guests")) { diskFailing with
    store := { diskFailing.store with faults := [some "disk I/O error"] } }
    ⟨.storage "guest room lookup: database error: disk I/O error", by decide +kernel⟩).mpr
    (by show diskFailing.accessPolicy.guestRoomName = some "Guests"; decide +kernel)

theorem guest_room_lost : ¬ ∀ (change : Change) (h : BbsHost), change.Fails h →
    settingOf (change.after h) = settingOf h := by
  intro claim
  have same := claim (.inBand 1 (some "Den")) diskFailing
    (show (handleSetGuestRoom 1 (some "Den") diskFailing).1 ≠ _ by decide +kernel)
  have before : (settingOf diskFailing).name = some "Guests" := by decide +kernel
  have after : (settingOf ((Change.inBand 1 (some "Den")).after diskFailing)).name = none := by
    decide +kernel
  rw [same, before] at after
  cases after

end SupplyDrop.Proof.GuestRoomChange
