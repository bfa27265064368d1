import Mathlib
import SupplyDrop.Proof.RoomsExist.Runs

namespace SupplyDrop.Proof.BuiltInRooms
open Library Library.Program Store Host RoomsExist

def BuiltIn (id : RoomId) : Prop := 1 ≤ id ∧ id ≤ 5

def BuiltInsPresent (h : BbsHost) : Prop := ∀ id, BuiltIn id → Present h id

theorem present_rooms {h : BbsHost} {s : Storage} (present : BuiltInsPresent h)
    (rooms : s.db.rooms = h.store.db.rooms) : BuiltInsPresent { h with store := s } := by
  intro id builtIn
  unfold Present
  rw [rooms]
  exact present id builtIn

/-- Of what the handlers do, only a deletion takes a room away. -/
theorem present_invariant : Invariant BuiltInsPresent (· ≠ .raze) where
  aside h s present aside _ := present_rooms present aside.rooms
  lift h s id present _ wrote := present_rooms present (congrArg (·.rooms) wrote)
  quiet h m present _ := present
  powered powered other h present id builtIn :=
    effect_rooms (powered_effect powered h.store) other id (present id builtIn)
  patch id status level _ _ h present := by
    obtain ⟨-, kept | wrote⟩ := update_fields id status level h.store
    · exact present_rooms present (congrArg (·.rooms) kept)
    · exact present_rooms present (congrArg (·.rooms) wrote)
  bind _ _ _ _ _ _ _ present := present
  hold _ _ _ _ _ _ present := present
  guest _ _ _ present := present
  move _ _ _ _ present := present
  draft _ _ _ _ _ present := present
  conclude _ _ _ _ present := present

abbrev keepingBuiltIns : Conduct := present_invariant.conduct

theorem keepingBuiltIns_iff {α : Type} {m : HostM α} :
    keepingBuiltIns.holds m ↔ Keeps BuiltInsPresent m := Discipline.keeping_iff

theorem delete_others {id : RoomId} {h : BbsHost} {s : Storage} (other : ¬ BuiltIn id)
    (present : BuiltInsPresent { h with store := s }) :
    BuiltInsPresent { h with store := (RoomStore.delete id s).2 } := by
  intro i builtIn
  apply deleteRoom_others ?_ (present i builtIn)
  rintro rfl
  exact other builtIn

theorem not_builtIn {id : RoomId} (protected_ : isSystemRoom id = false) (sysops : id ≠ 4 ∧ id ≠ 5) :
    ¬ BuiltIn id := by
  unfold isSystemRoom lobby mail aides at protected_
  simp only [Bool.or_eq_false_iff, decide_eq_false_iff_not] at protected_
  rintro ⟨low, high⟩
  unfold RoomId at *
  omega

/-! ## Commands -/

/-- No Sysop asks for the deletion of the two rooms that the command does not protect. -/
def Spares (session : SessionId) (cmd : Command) (h : BbsHost) : Prop :=
  match cmd with
  | .deleteRoom name => Commands h session → ∀ id, Named h name id → id ≠ 4 ∧ id ≠ 5
  | _ => True

section Handlers
variable {session : SessionId}

theorem spares_of {h h' : BbsHost} {cmd : Command} (spares : Spares session cmd h)
    (commands : Commands h' session → Commands h session)
    (named : ∀ name id, Named h' name id → Named h name id) : Spares session cmd h' := by
  unfold Spares at spares ⊢
  split
  · exact fun sysop id there => spares (commands sysop) id (named _ id there)
  · trivial

theorem lasting_spares (cmd : Command) :
    Lasting fun h => BuiltInsPresent h ∧ Spares session cmd h where
  aside h s holds aside _ :=
    ⟨present_rooms holds.1 aside.rooms,
      spares_of holds.2 (commands_aside aside) fun _ _ => named_same aside.rooms⟩
  lift h s user holds _ wrote := by
    have rooms : s.db.rooms = h.store.db.rooms := congrArg (·.rooms) wrote
    exact ⟨present_rooms holds.1 rooms,
      spares_of holds.2 (commands_lift wrote) fun _ _ => named_same rooms⟩
  ready h m holds ready :=
    ⟨holds.1, spares_of holds.2 (commands_ready ready) fun _ _ named => named⟩

theorem handleDeleteRoom_spares (name : String) (h : BbsHost) (present : BuiltInsPresent h)
    (spares : Spares session (.deleteRoom name) h) :
    BuiltInsPresent (handleDeleteRoom session name h).2 := by
  have refreshed {h' : BbsHost} (refreshed : Refreshed session h h') : BuiltInsPresent h' := by
    intro id builtIn
    unfold Present
    rw [refreshed.db]
    exact present id builtIn
  apply handleDeleteRoom_razes present_invariant name h fun _ => refreshed
  intro sysop id named h' s same rooms
  apply delete_others (not_builtIn named.1 (spares sysop id named))
  exact present_rooms (refreshed same) (congrArg (·.rooms) rooms)

theorem restartAuth_spares (escape : AuthEscape) : keepingBuiltIns.holds (restartAuth session escape) :=
  keepingBuiltIns.restartAuth (keepingBuiltIns.createUserAndLogin nofun nofun nofun session)
    (keepingBuiltIns.finalizeLogin nofun session) nofun escape

theorem processCommand_spares (cmd : Command) (h : BbsHost) (present : BuiltInsPresent h)
    (spares : ∀ c, Asks h session cmd c → Spares session c h) :
    BuiltInsPresent (processCommand session cmd h).2 := by
  apply present_invariant.command lasting_spares ?_ ?_ ?_ ?_ h present spares
  · intro target
    exact keepingBuiltIns_iff.mp (keepingBuiltIns.handleChangeRoom nofun session target)
  · intro c onReply h fresh present spares
    have other (ordinary : ∀ p ∈ Conduct.takes c, p ≠ .raze) :
        BuiltInsPresent (dispatch onReply session c h).2 :=
      keepingBuiltIns_iff.mp (keepingBuiltIns.dispatch ordinary fun text same =>
        absurd same (fresh text)) h present
    cases c with
    | deleteRoom name => exact handleDeleteRoom_spares name h present spares
    | _ => exact other (by simp [Conduct.takes])
  · intro workflow reply h _ unlisted _ present _
    have ordinary : ∀ p ∈ Conduct.takesReply workflow, p ≠ .raze := by
      cases workflow <;> simp [Conduct.takesReply]
    exact keepingBuiltIns_iff.mp (keepingBuiltIns.dispatchReply
      (fun roomIds next same => absurd same (unlisted roomIds next)) ordinary reply) h present
  · intro escape h present _
    exact keepingBuiltIns_iff.mp (restartAuth_spares escape) h present

/-! ## Requests -/

theorem adminDeleteRoom_spares (roomId : RoomId) :
    keepingBuiltIns.holds (adminDeleteRoom roomId) := by
  unfold adminDeleteRoom
  split
  · exact keepingBuiltIns.refuse _
  · next other =>
    have deleted : keepingBuiltIns.holds (tryDb (RoomStore.delete roomId)) :=
      keepingBuiltIns_iff.mpr fun h present =>
        delete_others (fun builtIn => other builtIn.2) present
    apply keepingBuiltIns.seq deleted
    intro result
    split
    · exact keepingBuiltIns.reply _
    · exact keepingBuiltIns.reply _
    · exact keepingBuiltIns.refuse _

theorem handleRequest_spares (caller : CurrentUser) (request : WebRequest) :
    keepingBuiltIns.holds (handleRequest caller request) := by
  have other (ordinary : ∀ p ∈ Conduct.takesRequest request, p ≠ .raze) :
      keepingBuiltIns.holds (handleRequest caller request) := keepingBuiltIns.handleRequest ordinary
  cases request with
  | deleteRoom id =>
      apply keepingBuiltIns.sysopOnly
      apply keepingBuiltIns.onResult (adminDeleteRoom_spares id)
      intro deleted
      apply keepingBuiltIns.ite
      · exact fun _ => keepingBuiltIns.seq (keepingBuiltIns.webAudit _ _ _ _) fun _ =>
          keepingBuiltIns.reply _
      · exact fun _ => keepingBuiltIns.reply _
  | updateUser target body =>
      apply other
      rintro p mem rfl
      simp only [Conduct.takesRequest, List.mem_append] at mem
      rcases mem with standing | level
      · split at standing <;> simp at standing
      · split at level <;> simp at level
  | patchAccessPolicy patch =>
      apply other
      rintro p mem rfl
      simp only [Conduct.takesRequest] at mem
      split at mem <;> simp at mem
  | _ => exact other (by simp [Conduct.takesRequest])

end Handlers

/-! ## Runs -/

/-- No Sysop types `.DR` for room 4 or room 5. -/
def Allowed (input : Input) (h : BbsHost) : Prop :=
  match input with
  | .command session cmd => ∀ c, Asks h session cmd c → Spares session c h
  | _ => True

def step (input : Input) (h h' : BbsHost) : Prop := h' = deliver h input

theorem present_next {input : Input} {h : BbsHost} (present : BuiltInsPresent h)
    (allowed : Allowed input h) : BuiltInsPresent (deliver h input) := by
  have keeps {α : Type} {m : HostM α} (holds : keepingBuiltIns.holds m) : BuiltInsPresent (m h).2 :=
    keepingBuiltIns_iff.mp holds h present
  cases input with
  | connect transport => exact keeps (keepingBuiltIns.open_ transport)
  | disconnect session => exact keeps (keepingBuiltIns.close nofun session)
  | command session cmd => exact processCommand_spares cmd h present allowed
  | restoreNode session pubkey ttlDays =>
      exact keeps (keepingBuiltIns.meshNodeRestore nofun session pubkey ttlDays)
  | bindNode session pubkey => exact keeps (keepingBuiltIns.meshNodeBind session pubkey)
  | unbindNode pubkey => exact keeps (keepingBuiltIns.meshNodeUnbind pubkey)
  | request username request =>
      exact keeps (keepingBuiltIns.serve fun caller => handleRequest_spares caller request)
  | elapse now clock faults => exact present

/-- From a host with the five rooms of the migrations, whatever is asked of it and by whom, they are
there yet, as long as nobody has `.DR` delete one of the two that it does not protect. -/
theorem built_in_rooms_survive {h h' : BbsHost} (present : ∀ id, BuiltIn id → Present h id)
    (run : Reaches step Allowed h h') (id : RoomId) (builtIn : BuiltIn id) : Present h' id := by
  have kept : BuiltInsPresent h' := by
    apply run.invariant present
    rintro input t _ present allowed rfl
    exact present_next present allowed
  exact kept id builtIn

theorem fresh_built_ins (id : RoomId) (builtIn : BuiltIn id) : Present (.fresh .fresh) id := by
  obtain ⟨low, high⟩ := builtIn
  unfold RoomId at *
  interval_cases id <;> rfl

/-- Alice, the Sysop, tries to delete the room of the Aides. -/
def aidesTried : List Input :=
  [.connect "telnet", .command 1 (.registerOneShot "alice" "password"),
    .command 1 (.deleteRoom "Aides")]

theorem built_in_rooms_survive_aides : Present (aidesTried.foldl deliver (.fresh .fresh)) aides := by
  have named : Allowed (.command 1 (.deleteRoom "Aides"))
      ((aidesTried.take 2).foldl deliver (.fresh .fresh)) := by
    rintro c (rfl | ⟨reply, replied, -, -⟩)
    · rintro - id ⟨-, named⟩
      have third : (((aidesTried.take 2).foldl deliver (.fresh .fresh)).store.db.rooms.rows.find?
          fun r => Text.eqIgnoreAsciiCase r.2.name "Aides").map (·.1) = some 3 := by decide +kernel
      rw [third] at named
      cases named
      decide
    · cases replied
  have plain : Allowed (.command 1 (.registerOneShot "alice" "password"))
      ((aidesTried.take 1).foldl deliver (.fresh .fresh)) := by
    rintro c (rfl | ⟨reply, replied, -, -⟩)
    · trivial
    · cases replied
  have follows : Reaches.Follows deliver Allowed aidesTried (.fresh .fresh) :=
    ⟨trivial, plain, named, trivial⟩
  exact built_in_rooms_survive fresh_built_ins (Reaches.follow follows) aides ⟨by decide, by decide⟩

/-- She deletes that of the Sysops. -/
def sysopDeleted : List Input :=
  [.connect "telnet", .command 1 (.registerOneShot "alice" "password"),
    .command 1 (.deleteRoom "Sysop")]

theorem built_in_room_lost : ¬ ∀ h h' : BbsHost, (∀ id, BuiltIn id → Present h id) →
    Reaches step (fun _ _ => True) h h' → ∀ id, BuiltIn id → Present h' id := by
  intro claim
  have present := claim (.fresh .fresh) _ fresh_built_ins
    (Reaches.follow_free deliver sysopDeleted (.fresh .fresh)) 4 ⟨by decide, by decide⟩
  have gone : (sysopDeleted.foldl deliver (.fresh .fresh)).store.db.rooms.get? 4 = none := by
    decide +kernel
  rw [Present, gone] at present
  cases present

end SupplyDrop.Proof.BuiltInRooms
