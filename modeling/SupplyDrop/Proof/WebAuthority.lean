import Mathlib
import SupplyDrop.Library.Run
import SupplyDrop.Host.System
import SupplyDrop.Host.WebSessions
import SupplyDrop.Proof.Served

namespace SupplyDrop.Proof.WebAuthority
open Library Store Host Host.Web

/-! ## What the claim asks of a request -/

def Unexpired (w : AppState) (token : String) : Prop :=
  ∃ s ∈ w.sessions.get? token, w.clock < s.expiresAt

instance (w : AppState) (token : String) : Decidable (Unexpired w token) :=
  inferInstanceAs (Decidable (∃ s ∈ w.sessions.get? token, w.clock < s.expiresAt))

def Session (r : Incoming) (username : String) : Prop :=
  ∃ s, r.arrival.sessions.get? r.token = some s ∧ s.username = username ∧
    r.arrival.clock < s.expiresAt

def ShownActive (account : Option UserId) (shown : Storage) (level : PermissionLevel) : Prop :=
  ∃ id row, account = some id ∧ shown.db.users.get? id = some row ∧ row.status = .active ∧
    row.permissionLevel = level

structure Authorised (r : Incoming) (user : CurrentUser) : Prop where
  arrived : Session r user.username
  settled : Unexpired r.settled r.token
  aide : .aide ≤ user.permissionLevel
  shown : ShownActive r.account r.shown user.permissionLevel

def answerTo (r : Incoming) : Option (Except Reply CurrentUser) :=
  match r.stage with
  | .reading _ _ => none
  | .answered answer => some answer

def Served (r : Incoming) (user : CurrentUser) : Prop := answerTo r = some (.ok user)

/-- Each request that is served is authorised by its account, and one whose account could not be
read is not served and ends no session. -/
def LiveAccounts (p : Server) : Prop :=
  ∀ r ∈ p.incoming, (∀ user, Served r user → Authorised r user) ∧
    ∀ e, r.result = some (.error e) → (∀ user, ¬ Served r user) ∧ r.ended = []

/-! ## The read -/

/-- What is known of the account while it is read. -/
def Tracks (account : Option UserId) (shown : Storage) : Reading → Prop
  | .byUsername _ => True
  | .endSuspension user _ => account = some user.id
  | .byId id _ => account = some id
  | .done (.ok (some level)) => .aide ≤ level → ShownActive account shown level
  | .done _ => True

/-- A timeout is lifted only where it has run out, and the rest of the account stays. -/
theorem endExpired_true {id : UserId} {now : Timestamp} {s s' : Storage}
    (ran : UserStore.endExpiredSuspension id now s = (.ok true, s')) :
    ∃ row, s.db.users.get? id = some row ∧ UserStore.expired now row ∧
      s'.db.users.get? id = some { row with status := .active, suspendedUntil := none } := by
  unfold UserStore.endExpiredSuspension at ran
  obtain ⟨hit, s₁, looked, ran⟩ := Program.bind_eq_ok ran
  obtain ⟨rfl, rfl⟩ := Program.gets_ok looked
  obtain ⟨_, s₂, wrote, ran⟩ := Program.bind_eq_ok ran
  have hit : (s₁.db.users.get? id).any (UserStore.expired now) = true :=
    Except.ok.inj (congrArg Prod.fst ran)
  have after : s₂ = s' := congrArg Prod.snd ran
  rw [after] at wrote
  cases stored : s₁.db.users.get? id with
  | none =>
      rw [stored] at hit
      cases hit
  | some row =>
      have lapsed : UserStore.expired now row = true := by simpa [stored] using hit
      refine ⟨row, rfl, lapsed, ?_⟩
      rw [execute_ok wrote, RowTable.get?_update, if_pos rfl, stored, Option.map_some,
        UserStore.reactivate, if_pos lapsed]

/-- The level that a lapsed timeout is lifted with is the one the account has. -/
def Current (s : Storage) : Reading → Prop
  | .endSuspension user now => .aide ≤ user.permissionLevel →
      ∀ row, s.db.users.get? user.id = some row → UserStore.expired now row →
        row.permissionLevel = user.permissionLevel
  | _ => True

theorem found_tracks {name : Username} {user : Option User} {s s' : Storage}
    (read : UserStore.getByUsername name s = (.ok user, s')) :
    Tracks ((s.db.users.rows.find? fun r => r.2.username = name).map (·.1)) s'
      (Reading.found s'.now user) := by
  have same := (Reads.findUser name s).1
  rw [read] at same
  cases user with
  | none => trivial
  | some user =>
      obtain ⟨r, first, rfl⟩ := Option.map_eq_some_iff.mp (getByUsername_ok read).symm
      rw [first, Option.map_some]
      unfold Reading.found
      dsimp only
      split
      · next active =>
        intro _
        refine ⟨r.1, r.2, rfl, ?_, active, rfl⟩
        rw [same]
        exact RowTable.get?_of_find? first
      · trivial
      · split
        · trivial
        · split
          · rfl
          · trivial

/-- Every statement but the first looks at the account that the first has found. -/
theorem next_tracks {account : Option UserId} {shown s : Storage} {progress : Reading}
    (tracks : Tracks account shown progress) (current : Current s progress)
    (later : ∀ name, progress ≠ .byUsername name) (reading : ∀ result, progress ≠ .done result) :
    Tracks account (progress.next s).2 (progress.next s).1 := by
  cases progress with
  | byUsername name => exact absurd rfl (later name)
  | done result => exact absurd rfl (reading result)
  | endSuspension user now =>
      rcases ran : UserStore.endExpiredSuspension user.id now s with ⟨_ | (_ | _), s'⟩
      · simp only [Reading.next, ran]
        trivial
      · simp only [Reading.next, ran]
        exact tracks
      · simp only [Reading.next, ran]
        intro high
        obtain ⟨row, stored, lapsed, lifted⟩ := endExpired_true ran
        exact ⟨user.id, _, tracks, lifted, rfl, current high row stored lapsed⟩
  | byId id now =>
      have same := (Reads.getUser id s).1
      rcases ran : UserStore.getById id s with ⟨_ | fresh, s'⟩
      · simp only [Reading.next, ran]
        trivial
      · simp only [Reading.next, ran]
        cases stands : standing now fresh with
        | allowed user =>
            intro _
            have there := standing_allowed stands
            obtain ⟨row, stored, rfl⟩ :=
              Option.map_eq_some_iff.mp ((getById_ok ran).symm.trans there)
            rw [ran] at same
            refine ⟨id, row, tracks, ?_, ?_, rfl⟩
            · rw [same]
              exact stored
            · rw [there] at stands
              unfold standing at stands
              dsimp only at stands
              split at stands
              · assumption
              · split at stands <;> cases stands
              · cases stands
        | _ => trivial

def turn (r : Reading × Storage) : Reading × Storage := r.1.next r.2

theorem suspension_whole (user : User) (h : BbsHost) (banned : user.status = .banned) :
    turn (turn (Reading.found h.store.now (some user), h.store)) =
      (.done ((resolveSuspension user h).1.map Reading.levelIf),
        (resolveSuspension user h).2.store) := by
  unfold Reading.found resolveSuspension
  simp only [banned]
  cases until_ : user.suspendedUntil with
  | none => rfl
  | some t =>
      dsimp only
      rw [Program.bind_apply, now_apply]
      dsimp only
      split
      · rcases ended : UserStore.endExpiredSuspension user.id h.store.now h.store with
          ⟨e | ended', s⟩
        · rw [Program.bind_error (db_error ended)]
          simp only [turn, Reading.next, ended]
          rfl
        · rw [Program.bind_ok (db_ok ended)]
          cases ended' with
          | true =>
              simp only [turn, Reading.next, ended]
              rfl
          | false =>
              simp only [turn, Reading.next, ended]
              rcases read : UserStore.getById user.id s with ⟨e | fresh, s'⟩
              · rw [if_neg (by decide), Program.bind_error (db_error read)]
                rfl
              · rw [if_neg (by decide), Program.bind_ok (db_ok read)]
                rfl
      · rfl

/-- A read that nothing comes between is the host's. -/
theorem read_whole (username : String) (h : BbsHost) :
    turn (turn (turn (.start username, h.store))) =
      (.done (adminAccountLevel username h).1, (adminAccountLevel username h).2.store) := by
  unfold adminAccountLevel Reading.start
  cases username? username with
  | none => rfl
  | some name =>
      dsimp only
      rcases read : UserStore.getByUsername name h.store with ⟨e | user, s⟩
      · rw [Program.bind_error (db_error read)]
        simp only [turn, Reading.next, read, Reading.unread]
      · rw [Program.bind_ok (db_ok read)]
        have first : turn (.byUsername name, h.store) = (Reading.found s.now user, s) := by
          simp only [turn, Reading.next, read]
        rw [first]
        cases user with
        | none => rfl
        | some user =>
            dsimp only
            cases status : user.status with
            | active =>
                simp only [Reading.found, status]
                rfl
            | deleted =>
                simp only [Reading.found, status]
                rfl
            | banned =>
                dsimp only
                rw [suspension_whole user { h with store := s } status]
                rw [Program.bind_apply]
                rcases resolveSuspension user { h with store := s } with ⟨_ | _, h'⟩
                · rfl
                · rfl

/-! ## Requests -/

/-- What is known of a request. -/
structure Sound (r : Incoming) : Prop where
  reading : ∀ cached progress, r.stage = .reading cached progress →
    Session r cached.username ∧ Tracks r.account r.shown progress ∧ r.result = none ∧ r.ended = []
  begun : ∀ cached name, r.stage = .reading cached (.byUsername name) →
    username? cached.username = some name
  served : ∀ user, Served r user → Authorised r user
  unread : ∀ e, r.result = some (.error e) → (∀ user, ¬ Served r user) ∧ r.ended = []

/-- What may go wrong next: the session has expired since the request came in, or the account that a
lapsed timeout is lifted from has another level by now. -/
def Falters (token : String) (w : AppState) : Reading → Prop
  | .done (.ok (some level)) => .aide ≤ level ∧
      ∃ s ∈ w.sessions.get? token, s.expiresAt ≤ w.clock
  | .endSuspension user now => .aide ≤ user.permissionLevel ∧
      ∃ row ∈ w.store.db.users.get? user.id, UserStore.expired now row = true ∧
        row.permissionLevel ≠ user.permissionLevel
  | _ => False

instance (r : Incoming) (user : CurrentUser) : Decidable (Served r user) :=
  inferInstanceAs (Decidable (answerTo r = some (.ok user)))

instance (token : String) (w : AppState) : ∀ progress, Decidable (Falters token w progress)
  | .done (.ok (some _)) | .endSuspension _ _ => inferInstanceAs (Decidable (_ ∧ _))
  | .done (.ok none) | .done (.error _) | .byUsername _ | .byId _ _ =>
      inferInstanceAs (Decidable False)

theorem endedBetween_self (w : AppState) : endedBetween w w = [] := by
  apply List.filter_eq_nil_iff.mpr
  intro token mem
  obtain ⟨s, there, rfl⟩ := List.mem_map.mp mem
  rw [KeyedTable.mem_entries.mp there]
  simp

theorem admitted_ok {authorized : Authorized} {user : CurrentUser}
    (ok : admitted authorized = .ok user) : authorized = .yes user := by
  cases authorized with
  | yes user' =>
      cases ok
      rfl
  | no => cases ok
  | unavailable => cases ok

theorem settle_yes {token : String} {cached user : CurrentUser} {w : AppState}
    {result : Except HostError (Option PermissionLevel)}
    (yes : (w.settle token cached result).1 = .yes user) :
    ∃ level s, result = .ok (some level) ∧ .aide ≤ level ∧ w.sessions.get? token = some s ∧
      user = ⟨cached.username, level⟩ := by
  rcases result with e | _ | level
  · cases yes
  · cases yes
  · simp only [AppState.settle] at yes
    split at yes
    · next high =>
      split at yes
      · next s there => exact ⟨level, s, rfl, high, there, (Authorized.yes.inj yes).symm⟩
      · cases yes
    · cases yes

theorem settled_sound {r : Incoming} {w : AppState} {cached : CurrentUser}
    {result : Except HostError (Option PermissionLevel)} (sound : Sound r)
    (stage : r.stage = .reading cached (.done result))
    (unfaltering : ¬ Falters r.token w (.done result)) :
    Sound (Server.resume r w).1 := by
  obtain ⟨session, tracks, -, unended⟩ := sound.reading cached _ stage
  have resumed : (Server.resume r w).1 = { r with
      stage := .answered (admitted (w.settle r.token cached result).1)
      settled := w
      result := some result
      ended := r.ended ++ endedBetween w (w.settle r.token cached result).2 } := by
    unfold Server.resume
    simp only [stage]
  have served (user : CurrentUser) (ok : Served (Server.resume r w).1 user) :
      (w.settle r.token cached result).1 = .yes user := by
    rw [Served, resumed] at ok
    exact admitted_ok (Option.some.inj ok)
  rw [resumed] at served ⊢
  refine ⟨fun _ _ => Stage.noConfusion, fun _ _ => Stage.noConfusion, ?_, ?_⟩
  · intro user ok
    obtain ⟨level, s, rfl, high, there, rfl⟩ := settle_yes (served user ok)
    refine ⟨session, ⟨s, there, ?_⟩, high, tracks high⟩
    show w.clock < s.expiresAt
    by_contra expired
    exact unfaltering ⟨high, s, there, not_lt.mp expired⟩
  · intro e failed
    cases failed
    refine ⟨fun user ok => (nomatch served user ok), ?_⟩
    show r.ended ++ endedBetween w w = []
    rw [unended, endedBetween_self]
    rfl

theorem later_statement (progress : Reading) (s : Storage) (name : Username) :
    (progress.next s).1 ≠ .byUsername name := by
  cases progress with
  | byUsername name' =>
      rcases ran : UserStore.getByUsername name' s with ⟨_ | user, s'⟩
      · simp [Reading.next, ran, Reading.unread]
      · simp only [Reading.next, ran, Reading.found]
        split
        · nofun
        · split
          · nofun
          · nofun
          · split
            · nofun
            · split <;> nofun
  | endSuspension user now =>
      rcases ran : UserStore.endExpiredSuspension user.id now s with ⟨_ | (_ | _), s'⟩ <;>
        simp [Reading.next, ran, Reading.unread]
  | byId id now =>
      rcases ran : UserStore.getById id s with ⟨_ | _, s'⟩ <;>
        simp [Reading.next, ran, Reading.unread]
  | done result => simp [Reading.next]

def progressOf (r : Incoming) : Option Reading :=
  match r.stage with
  | .reading _ progress => some progress
  | .answered _ => none

theorem resume_sound {r : Incoming} {w : AppState} (sound : Sound r)
    (unfaltering : ∀ progress ∈ progressOf r, ¬ Falters r.token w progress) :
    Sound (Server.resume r w).1 := by
  cases stage : r.stage with
  | answered answer =>
      have resumed : (Server.resume r w).1 = r := by
        unfold Server.resume
        simp only [stage]
      rwa [resumed]
  | reading cached progress =>
      obtain ⟨session, tracks, unknown, unended⟩ := sound.reading cached _ stage
      have going (account : Option UserId) (progress' : Reading × Storage)
          (tracks : Tracks account progress'.2 progress'.1)
          (later : ∀ name, progress'.1 ≠ .byUsername name) :
          Sound { r with stage := .reading cached progress'.1, account, shown := progress'.2 } := by
        refine ⟨?_, ?_, nofun, ?_⟩
        · intro cached' progress'' same
          cases same
          exact ⟨session, tracks, unknown, unended⟩
        · intro cached' name same
          exact absurd (Stage.reading.inj same).2 (later name)
        · intro e failed
          rw [show r.result = some (.error e) from failed] at unknown
          cases unknown
      have unfaltering := unfaltering progress (by simp [progressOf, stage])
      have stepped (later : ∀ name, progress ≠ .byUsername name)
          (reading : ∀ result, progress ≠ .done result) :
          Tracks r.account (progress.next w.store).2 (progress.next w.store).1 := by
        apply next_tracks tracks ?_ later reading
        cases progress with
        | endSuspension user now =>
            intro high row stored lapsed
            by_contra changed
            exact unfaltering ⟨high, row, stored, lapsed, changed⟩
        | _ => trivial
      cases progress with
      | done result => exact settled_sound sound stage unfaltering
      | byUsername name =>
          have resumed : (Server.resume r w).1 = { r with
              stage := .reading cached (Reading.next (.byUsername name) w.store).1
              account := Server.named cached.username w.store
              shown := (Reading.next (.byUsername name) w.store).2 } := by
            unfold Server.resume
            simp only [stage]
          rw [resumed]
          apply going _ _ ?_ (later_statement _ _)
          rw [Server.named, sound.begun cached name stage, Option.bind_some]
          rcases ran : UserStore.getByUsername name w.store with ⟨_ | user, s'⟩
          · simp only [Reading.next, ran]
            trivial
          · simp only [Reading.next, ran]
            exact found_tracks ran
      | endSuspension user now =>
          have resumed : (Server.resume r w).1 = { r with
              stage := .reading cached (Reading.next (.endSuspension user now) w.store).1
              shown := (Reading.next (.endSuspension user now) w.store).2 } := by
            unfold Server.resume
            simp only [stage]
          rw [resumed]
          exact going _ _ (stepped nofun nofun) (later_statement _ _)
      | byId id now =>
          have resumed : (Server.resume r w).1 = { r with
              stage := .reading cached (Reading.next (.byId id now) w.store).1
              shown := (Reading.next (.byId id now) w.store).2 } := by
            unfold Server.resume
            simp only [stage]
          rw [resumed]
          exact going _ _ (stepped nofun nofun) (later_statement _ _)

theorem cachedSession_some {token : String} {w w' : AppState} {cached : CurrentUser}
    (found : w.cachedSession token = (some cached, w')) : w' = w ∧
      ∃ s, w.sessions.get? token = some s ∧ s.username = cached.username ∧
        w.clock < s.expiresAt := by
  unfold AppState.cachedSession at found
  split at found
  · next s there =>
    cases found
    obtain ⟨stored, unexpired⟩ := Option.filter_eq_some_iff.mp there
    exact ⟨rfl, s, stored, rfl, by simpa using unexpired⟩
  · cases found

theorem arrival_refused (w : AppState) (token : String) (refusal : Reply) (ended : List String) :
    Sound (Server.arrival w token (.answered (.error refusal)) ended) where
  reading _ _ := Stage.noConfusion
  begun _ _ := Stage.noConfusion
  served _ ok := nomatch Option.some.inj ok
  unread _ failed := nomatch failed

theorem start_tracks (username : String) (shown : Storage) :
    Tracks none shown (.start username) ∧
      ∀ name, Reading.start username = .byUsername name → username? username = some name := by
  unfold Reading.start
  split
  · exact ⟨trivial, nofun⟩
  · next name known =>
    refine ⟨trivial, fun name' same => ?_⟩
    rw [known, Reading.byUsername.inj same]

theorem arrival_sound {token : String} {w w' : AppState} {cached : CurrentUser}
    (found : w.cachedSession token = (some cached, w')) :
    Sound (Server.arrival w token (.reading cached (.start cached.username))
      (endedBetween w w')) := by
  obtain ⟨rfl, s, stored, named, unexpired⟩ := cachedSession_some found
  obtain ⟨tracks, begun⟩ := start_tracks cached.username w'.store
  refine ⟨?_, ?_, nofun, nofun⟩
  · intro cached' progress same
    cases same
    refine ⟨⟨s, stored, named, unexpired⟩, ?_, rfl, ?_⟩
    · simp only [Server.arrival]
      -- the first reading is not to be evaluated
      with_reducible exact tracks
    show endedBetween w' w' = []
    exact endedBetween_self w'
  · intro cached' name same
    obtain ⟨rfl, start⟩ := Stage.reading.inj same
    exact begun name start

/-! ## Runs -/

def Stale (event : WebEvent) (p : Server) : Prop :=
  match event with
  | .advance i => ∃ r ∈ p.incoming[i]?, ∃ progress ∈ progressOf r,
      Falters r.token p.state progress
  | _ => False

instance (p : Server) : ∀ event, Decidable (Stale event p)
  | .advance _ => inferInstanceAs (Decidable (∃ _ ∈ _, _))
  | .login _ _ _ | .logout _ | .invalidate _ | .elapse _ | .storeChanged _ | .arrive _ _ =>
      inferInstanceAs (Decidable False)

def step (externalOrigin : Option String) (event : WebEvent) (p p' : Server) : Prop :=
  p' = p.next externalOrigin event

theorem next_sound {externalOrigin : Option String} {event : WebEvent} {p : Server}
    (sound : ∀ r ∈ p.incoming, Sound r) (fresh : ¬ Stale event p) :
    ∀ r ∈ (p.next externalOrigin event).incoming, Sound r := by
  cases event with
  | arrive origin token =>
      have joined {stage : Stage} {w : AppState}
          (new : Sound (Server.arrival p.state token stage (endedBetween p.state w))) :
          ∀ r ∈ p.incoming ++ [Server.arrival p.state token stage (endedBetween p.state w)],
            Sound r := by
        intro r mem
        rcases List.mem_append.mp mem with before | last
        · exact sound r before
        · rw [List.mem_singleton.mp last]
          exact new
      simp only [Server.next, Server.arrive]
      split
      · split
        · next cached w found => exact joined (arrival_sound found)
        · exact joined (arrival_refused _ _ _ _)
      · exact joined (arrival_refused _ _ _ _)
  | advance i =>
      simp only [Server.next, Server.advance]
      split
      · exact sound
      · next r found =>
        intro r' mem
        rcases List.mem_or_eq_of_mem_set mem with before | rfl
        · exact sound r' before
        · apply resume_sound (sound r (List.mem_of_getElem? found))
          exact fun progress reading falters => fresh ⟨r, found, progress, reading, falters⟩
  | _ => exact sound

/-- In whichever order things happen, a request is served only on a session that was unexpired
before and after the account was read, at the level that an active account was shown to have. -/
theorem live_accounts {externalOrigin : Option String} {p p' : Server} (idle : p.incoming = [])
    (run : Reaches (step externalOrigin) (fun event p => ¬ Stale event p) p p') :
    LiveAccounts p' := by
  have sound : ∀ r ∈ p'.incoming, Sound r := by
    apply run.invariant
    · simp [idle]
    · rintro event q _ sound fresh rfl
      exact next_sound sound fresh
  exact fun r mem => ⟨(sound r mem).served, (sound r mem).unread⟩

/-- Alice is the Sysop. -/
def staffed : Storage :=
  (([.connect "telnet", .command 1 (.registerOneShot "alice" "password")] : List Input).foldl
    deliver (.fresh .fresh)).store

def opening : Server := ⟨⟨.empty, 0, staffed⟩, []⟩

/-- She logs in, and her request is handled at once. -/
def visit : List WebEvent :=
  [.login "t" "alice" .sysop, .arrive none "t", .advance 0, .elapse 1, .advance 0]

theorem live_accounts_alice : LiveAccounts (visit.foldl (Server.next none) opening) := by
  have follows : Reaches.Follows (Server.next none) (fun event p => ¬ Stale event p) visit
      opening := by decide +kernel
  exact live_accounts rfl (Reaches.follow follows)

/-- Her session expires while her account is read. -/
def expiring : List WebEvent :=
  [.login "t" "alice" .sysop, .elapse (43199 * 1000000000), .arrive none "t", .advance 0,
    .elapse 1000000000, .advance 0]

theorem expired_session_served : ¬ ∀ (externalOrigin : Option String) (p p' : Server),
    p.incoming = [] → Reaches (step externalOrigin) (fun _ _ => True) p p' → LiveAccounts p' := by
  intro claim
  have live := claim none opening _ rfl (Reaches.follow_free (Server.next none) expiring opening)
  obtain ⟨r, mem, served, expired⟩ :
      ∃ r ∈ (expiring.foldl (Server.next none) opening).incoming,
        Served r ⟨"alice", .sysop⟩ ∧ ¬ Unexpired r.settled r.token := by decide +kernel
  exact expired ((live r mem).1 _ served).settled

end SupplyDrop.Proof.WebAuthority
