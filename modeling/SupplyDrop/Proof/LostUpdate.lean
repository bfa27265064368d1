import Mathlib
import SupplyDrop.Library.ReadModifyWrite
import SupplyDrop.Store.Rooms
import SupplyDrop.Store.Users

namespace SupplyDrop.Proof.LostUpdate
open Library Library.ReadModifyWrite Store Store.UserStore

/-! ## Two calls in flight -/

/-- How far a call of `update` has come. -/
inductive Call where
  | ready
  | loaded (current : UserRow)
  | finished (r : Except StoreError Unit)

def step (id : UserId) (changes : Changes) : Call → Storage → Call × Storage
  | .ready, s =>
      match selectRow id s with
      | (.ok current, s') => (.loaded current, s')
      | (.error e, s') => (.finished (.error e), s')
  | .loaded current, s =>
      (.finished (writeRow id changes current s).1, (writeRow id changes current s).2)
  | .finished r, s => (.finished r, s)

theorem update_eq_steps (id : UserId) (changes : Changes) (s : Storage) :
    let once := step id changes .ready s
    let twice := step id changes once.1 once.2
    twice.1 = .finished (update id changes.displayName changes.status changes.permissionLevel
        changes.lastLoginAt s).1 ∧
      twice.2 = (update id changes.displayName changes.status changes.permissionLevel
        changes.lastLoginAt s).2 := by
  unfold update
  rw [Program.bind_apply]
  simp only [step]
  rcases selectRow id s with ⟨r, s'⟩
  cases r with
  | ok current => exact ⟨rfl, rfl⟩
  | error e => exact ⟨rfl, rfl⟩

structure Calls where
  first : Call
  second : Call
  storage : Storage

section Interleavings
variable (id : UserId) (one two : Changes)

def turnOf (c : Calls) : Caller → Calls
  | .first =>
      { c with
        first := (step id one c.first c.storage).1
        storage := (step id one c.first c.storage).2 }
  | .second =>
      { c with
        second := (step id two c.second c.storage).1
        storage := (step id two c.second c.storage).2 }

def runCalls (schedule : List Caller) (s : Storage) : Calls :=
  schedule.foldl (turnOf id one two) ⟨.ready, .ready, s⟩

end Interleavings

/-! ## What a row carries -/

def Carries (changes : Changes) (row : UserRow) : Prop :=
  (∀ name, changes.displayName = some name → row.displayName = name) ∧
  (∀ status, changes.status = some status → row.status = status) ∧
  (∀ level, changes.permissionLevel = some level → row.permissionLevel = level) ∧
  (∀ t, changes.lastLoginAt = some t → row.lastLoginAt = some t)

def SetDisjoint (one two : Changes) : Prop :=
  (one.displayName = none ∨ two.displayName = none) ∧
  (one.status = none ∨ two.status = none) ∧
  (one.permissionLevel = none ∨ two.permissionLevel = none) ∧
  (one.lastLoginAt = none ∨ two.lastLoginAt = none)

theorem SetDisjoint.symm {one two : Changes} (h : SetDisjoint one two) : SetDisjoint two one :=
  ⟨h.1.symm, h.2.1.symm, h.2.2.1.symm, h.2.2.2.symm⟩

theorem carries_onto (changes : Changes) (current row : UserRow) :
    Carries changes (changes.onto current row) := by
  refine ⟨?_, ?_, ?_, ?_⟩ <;> intro v set <;> simp [Changes.onto, set]

/-- Writing back a row read earlier restores what it held in every column the call does not set. -/
theorem carries_onto_iff {one two : Changes} (disjoint : SetDisjoint one two)
    (current row : UserRow) :
    Carries one (two.onto current row) ↔ Carries one current := by
  obtain ⟨name, status, level, login⟩ := disjoint
  unfold Carries Changes.onto
  refine and_congr ?_ (and_congr ?_ (and_congr ?_ ?_))
  · rcases name with unset | unset <;> simp [unset]
  · rcases status with unset | unset <;> simp [unset]
  · rcases level with unset | unset <;> simp [unset]
  · rcases login with unset | unset <;> simp [unset]

/-! ## The calls as a read-modify-write of one row -/

def Failed (c : Call) : Prop := ∃ e, c = .finished (.error e)

/-- A call that has not failed is in the same phase as its abstract counterpart. -/
def Tracks : Call → Phase UserRow → Prop
  | .ready, .ready => True
  | .loaded current, .loaded seen => current = seen
  | .finished (.ok _), .finished => True
  | _, _ => False

theorem step_failed {id : UserId} {changes : Changes} {c : Call} (s : Storage) (h : Failed c) :
    Failed (step id changes c s).1 := by
  obtain ⟨e, rfl⟩ := h
  exact ⟨e, rfl⟩

theorem step_tracks {id : UserId} (changes : Changes) {c : Call} {phase : Phase UserRow}
    {s : Storage} {row : UserRow} (h : Tracks c phase) (stored : s.db.users.get? id = some row) :
    Failed (step id changes c s).1 ∨
      Tracks (step id changes c s).1 (advance changes.onto phase row).1 ∧
      (step id changes c s).2.db.users.get? id = some (advance changes.onto phase row).2 := by
  cases c with
  | ready =>
      cases phase with
      | loaded _ | finished => exact False.elim h
      | ready =>
          have selected : selectRow id s = _ := Program.bind_apply _ _ s
          rcases read : query (fun db => db.users.get? id) s with ⟨r, s'⟩
          rw [read] at selected
          simp only [step, selected]
          cases r with
          | error e => exact .inl ⟨e, rfl⟩
          | ok found =>
              obtain ⟨rfl, kept⟩ := query_ok read
              rw [stored]
              exact .inr ⟨rfl, (congrArg (fun db => db.users.get? id) kept).trans stored⟩
  | loaded current =>
      cases phase with
      | ready | finished => exact False.elim h
      | loaded seen =>
          obtain rfl : current = seen := h
          rcases wrote : writeRow id changes current s with ⟨r, s'⟩
          simp only [step, wrote]
          cases r with
          | error e => exact .inl ⟨e, rfl⟩
          | ok u =>
              have written : s'.db = _ := execute_ok wrote
              refine .inr ⟨trivial, ?_⟩
              simp [advance, written, RowTable.get?_update, stored]
  | finished outcome =>
      cases outcome with
      | error e => cases phase <;> exact False.elim h
      | ok u =>
          cases phase with
          | ready | loaded _ => exact False.elim h
          | finished => exact .inr ⟨trivial, stored⟩

section Refinement
variable (id : UserId) (one two : Changes)

/-- Unless a call has failed, the calls stand as the abstract cell does, which holds their row. -/
def Refines (c : Calls) (cell : Cell UserRow) : Prop :=
  (Failed c.first ∨ Failed c.second) ∨
    Tracks c.first cell.first ∧ Tracks c.second cell.second ∧
      c.storage.db.users.get? id = some cell.value

theorem turn_refines {c : Calls} {cell : Cell UserRow} (caller : Caller)
    (h : Refines id c cell) :
    Refines id (turnOf id one two c caller) (turn one.onto two.onto cell caller) := by
  cases caller with
  | first =>
      rcases h with (failed | failed) | ⟨first, second, stored⟩
      · exact .inl (.inl (step_failed _ failed))
      · exact .inl (.inr failed)
      · rcases step_tracks one first stored with failed | ⟨first, stored⟩
        · exact .inl (.inl failed)
        · exact .inr ⟨first, second, stored⟩
  | second =>
      rcases h with (failed | failed) | ⟨first, second, stored⟩
      · exact .inl (.inl failed)
      · exact .inl (.inr (step_failed _ failed))
      · rcases step_tracks two second stored with failed | ⟨second, stored⟩
        · exact .inl (.inr failed)
        · exact .inr ⟨first, second, stored⟩

theorem run_refines (schedule : List Caller) {s : Storage} {row : UserRow}
    (stored : s.db.users.get? id = some row) :
    Refines id (runCalls id one two schedule s) (interleave one.onto two.onto schedule row) := by
  have start : Refines id ⟨.ready, .ready, s⟩ ⟨.ready, .ready, row⟩ :=
    .inr ⟨trivial, trivial, stored⟩
  unfold runCalls interleave
  generalize (⟨.ready, .ready, s⟩ : Calls) = c at start ⊢
  generalize (⟨.ready, .ready, row⟩ : Cell UserRow) = cell at start ⊢
  induction schedule generalizing c cell with
  | nil => exact start
  | cons caller schedule ih => exact ih _ _ (turn_refines id one two caller start)

end Refinement

/-! ## Lost updates -/

/-- The changes of the call whose write comes first in an overlapping interleaving. -/
def earlierWrite (one two : Changes) (schedule : List Caller) : Changes :=
  if schedule.getLast? = some .second then one else two

theorem update_carried_iff (id : UserId) (one two : Changes) (disjoint : SetDisjoint one two)
    {schedule : List Caller} (first : schedule.count .first = 2)
    (second : schedule.count .second = 2) {s : Storage} {row : UserRow}
    (stored : s.db.users.get? id = some row)
    (ok₁ : (runCalls id one two schedule s).first = .finished (.ok ()))
    (ok₂ : (runCalls id one two schedule s).second = .finished (.ok ())) :
    ∃ row', (runCalls id one two schedule s).storage.db.users.get? id = some row' ∧
      ((Carries one row' ∧ Carries two row') ↔
        (schedule = [.first, .first, .second, .second] ∨
          schedule = [.second, .second, .first, .first]) ∨
        Carries (earlierWrite one two schedule) row) := by
  have final : (runCalls id one two schedule s).storage.db.users.get? id =
      some (interleave one.onto two.onto schedule row).value := by
    rcases run_refines id one two schedule stored with (⟨e, failed⟩ | ⟨e, failed⟩) | ⟨-, -, h⟩
    · rw [ok₁] at failed
      cases failed
    · rw [ok₂] at failed
      cases failed
    · exact h
  refine ⟨_, final, ?_⟩
  rcases interleave_value one.onto two.onto first second row with
    ⟨rfl, value⟩ | ⟨rfl, value⟩ | ⟨other, last, value⟩ | ⟨other, last, value⟩
  · rw [value, carries_onto_iff disjoint]
    simp [carries_onto]
  · rw [value, carries_onto_iff disjoint.symm]
    simp [carries_onto]
  · have notLater : schedule ≠ [.second, .second, .first, .first] := by
      rintro rfl
      cases last
    rw [value, carries_onto_iff disjoint, earlierWrite, if_pos last]
    simp [carries_onto, other, notLater]
  · have notLater : schedule ≠ [.first, .first, .second, .second] := by
      rintro rfl
      cases last
    rw [value, carries_onto_iff disjoint.symm, earlierWrite, if_neg (by simp [last])]
    simp [carries_onto, other, notLater]

/-- One account, signed in while it is being banned. -/
def aliceRow : UserRow where
  username := .alice
  displayName := none
  status := .active
  permissionLevel := .user
  createdAt := 0
  lastLoginAt := none
  suspendedUntil := none

def aliceStorage : Storage :=
  { Storage.fresh with db := { Storage.fresh.db with users := (RowTable.empty 0).insert aliceRow } }

def ban : Changes := ⟨none, some .banned, none, none⟩
def stamp : Changes := ⟨none, none, none, some 7⟩

theorem update_carried_in_turn :
    ∃ row', (runCalls 1 ban stamp [.first, .first, .second, .second]
        aliceStorage).storage.db.users.get? 1 = some row' ∧
      ((Carries ban row' ∧ Carries stamp row') ↔
        ([Caller.first, .first, .second, .second] = [.first, .first, .second, .second] ∨
          [Caller.first, .first, .second, .second] = [.second, .second, .first, .first]) ∨
        Carries (earlierWrite ban stamp [.first, .first, .second, .second]) aliceRow) :=
  update_carried_iff 1 ban stamp (by simp [SetDisjoint, ban, stamp]) (by decide) (by decide) rfl
    rfl rfl

-- both calls read before either writes: the ban is written and then overwritten
theorem update_lost :
    let calls := runCalls 1 ban stamp [.first, .second, .first, .second] aliceStorage
    SetDisjoint ban stamp ∧ calls.first = .finished (.ok ()) ∧ calls.second = .finished (.ok ()) ∧
      ∃ row', calls.storage.db.users.get? 1 = some row' ∧ ¬ Carries ban row' := by
  refine ⟨by simp [SetDisjoint, ban, stamp], rfl, rfl, _, rfl, ?_⟩
  intro carried
  exact absurd (carried.2.1 .banned rfl) (by decide)

end SupplyDrop.Proof.LostUpdate
