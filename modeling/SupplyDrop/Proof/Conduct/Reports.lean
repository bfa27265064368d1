import Mathlib
import SupplyDrop.Host.Auth

namespace SupplyDrop.Host
open Library Store

/-! ## What the host reports of its sessions -/

def endsSession (id : SessionId) : DomainEvent → Bool
  | .sessionEnded session _ => session = id
  | _ => false

/-- An event that neither opens a session nor ends one. -/
def Passing : DomainEvent → Prop
  | .sessionCreated _ _ | .sessionEnded _ _ => False
  | _ => True

/-- How often the session is in the table or reported as ended. -/
def tally (id : SessionId) (m : Memory) : Nat :=
  (m.sessions.get? id).toList.length + m.events.countP (endsSession id)

/-- What sessions are there no more are reported as ended, and none that is new is reported. -/
structure Reported (m m' : Memory) : Prop where
  seq : m'.sessions.seq = m.sessions.seq
  opened : ∀ id transport, .sessionCreated id transport ∈ m'.events →
    .sessionCreated id transport ∈ m.events
  tally : ∀ id, tally id m' = tally id m

namespace Reported
variable {m m' m'' : Memory}

theorem same (seq : m'.sessions.seq = m.sessions.seq)
    (sessions : ∀ id, (m'.sessions.get? id).isSome = (m.sessions.get? id).isSome)
    (events : m'.events = m.events) : Reported m m' where
  seq := seq
  opened id transport := by
    rw [events]
    exact fun reported => reported
  tally id := by
    have there := sessions id
    unfold Host.tally
    rw [events]
    cases before : m.sessions.get? id <;> cases after : m'.sessions.get? id <;> simp_all

theorem refl (m : Memory) : Reported m m := .same rfl (fun _ => rfl) rfl

theorem trans (first : Reported m m') (rest : Reported m' m'') : Reported m m'' where
  seq := rest.seq.trans first.seq
  opened id transport reported := first.opened id transport (rest.opened id transport reported)
  tally id := (rest.tally id).trans (first.tally id)

theorem map {f : SessionId → SessionRecord → SessionRecord} :
    Reported m { m with sessions := m.sessions.map f } :=
  .same rfl (fun id => by simp) rfl

theorem update {session : SessionId} {f : SessionRecord → SessionRecord} :
    Reported m (m.update session f) := map

theorem emit {event : DomainEvent} (passing : Passing event) : Reported m (m.emit event) where
  seq := rfl
  opened id transport reported := by
    rcases List.mem_append.mp reported with before | new
    · exact before
    · cases List.mem_singleton.mp new
      exact nomatch passing
  tally id := by
    have other : endsSession id event = false := by
      cases event <;> first | rfl | exact nomatch passing
    simp [Host.tally, Memory.emit, other]

theorem endSessions {p : SessionId → SessionRecord → Bool} {reason : String} :
    Reported m (m.endSessions p reason) where
  seq := rfl
  opened id transport reported := by
    rcases List.mem_append.mp reported with before | new
    · exact before
    · obtain ⟨r, -, impossible⟩ := List.mem_map.mp new
      cases impossible
  tally id := by
    have ended : ((m.sessions.filter p).rows.map fun r => DomainEvent.sessionEnded r.1 reason).countP
        (endsSession id) = ((m.sessions.filter p).get? id).toList.length := by
      rw [List.countP_map, ← RowTable.countP_key]
      rfl
    unfold Host.tally Memory.endSessions
    rw [List.countP_append, ended, RowTable.get?_filter, RowTable.get?_filter]
    cases m.sessions.get? id with
    | none => rfl
    | some r =>
        cases leaves : p id r with
        | false => simp [leaves, Option.filter]
        | true =>
            simp [leaves, Option.filter]
            omega

theorem close {session : SessionId} {reason : String} (there : (m.sessions.get? session).isSome) :
    Reported m (({ m with sessions := m.sessions.erase session } : Memory).emit
      (.sessionEnded session reason)) where
  seq := rfl
  opened id transport reported := by
    rcases List.mem_append.mp reported with before | new
    · exact before
    · cases List.mem_singleton.mp new
  tally id := by
    unfold Host.tally Memory.emit
    rw [List.countP_append, RowTable.get?_erase]
    by_cases same : id = session
    · obtain ⟨r, found⟩ := Option.isSome_iff_exists.mp there
      simp [same, found, endsSession]
      omega
    · simp [same, Ne.symm same, endsSession]

/-- Where a session is left out only if it is not there. -/
theorem filter {p : SessionId → SessionRecord → Bool}
    (all : ∀ id r, m.sessions.get? id = some r → p id r = true) :
    Reported m { m with sessions := m.sessions.filter p } := by
  refine .same rfl (fun id => ?_) rfl
  rw [RowTable.get?_filter]
  cases found : m.sessions.get? id with
  | none => rfl
  | some r => simp [Option.filter, all id r found]

theorem logOutAccount {userId : UserId} {keep : SessionId} {reason : String} :
    Reported m (m.logOutAccount userId keep reason) :=
  endSessions.trans update

end Reported
end SupplyDrop.Host
