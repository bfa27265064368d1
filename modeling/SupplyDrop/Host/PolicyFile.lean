import Mathlib
import SupplyDrop.Host.Policy
import SupplyDrop.Restore.Config

namespace SupplyDrop.Host.PolicyFile
open Library Store Restore KeyTree

/-! ## The document -/

inductive Scalar (Other : Type) where
  | string (s : String)
  | boolean (b : Bool)
  -- a number, a date, an array or an array of tables
  | other (v : Other)
deriving DecidableEq

/-- A table in braces is an `Item::Value`, which the edit treats otherwise than an `Item::Table`. -/
inductive Leaf (Other : Type) where
  | value (v : Scalar Other)
  | inline (keys : List (String × KeyTree String (Leaf Other)))

abbrev Item (Other : Type) := KeyTree String (Leaf Other)
abbrev Doc (Other : Type) := Document (Leaf Other)

variable {Other Text : Type}

def asTableLike : Item Other → Option (Doc Other)
  | .node keys => some keys
  | .leaf (.inline keys) => some keys
  | .leaf (.value _) => none

def bbsKey (doc : Doc Other) (key : String) : Option (Item Other) :=
  ((get doc "bbs").bind asTableLike).bind fun keys => get keys key

def requireVerifyOf : Option (Item Other) → Option Bool
  | none => some true
  | some (.leaf (.value (.boolean b))) => some b
  | some _ => none

def guestRoomOf : Option (Item Other) → Option (Option String)
  | none => some none
  | some (.leaf (.value (.string s))) => some (some s)
  | some _ => none

/-- The policy that the config gives, unless these keys of it do not load. -/
def policyOf (doc : Doc Other) : Option AccessPolicy := do
  let requireVerify ← requireVerifyOf (bbsKey doc "require_verify")
  let guestRoomName ← guestRoomOf (bbsKey doc "guest_room")
  match get doc "bbs" with
  | some (.leaf (.value _)) => none
  | _ => some ⟨requireVerify, guestRoomName⟩

/-! ## The edit -/

def ensureSection (doc : Doc Other) : Doc Other :=
  match get doc "bbs" with
  | none => insert "bbs" (.node []) doc
  | some _ => doc

/-- `doc["bbs"][key] = value`, which panics where the section is no table. -/
def assign (doc : Doc Other) (key : String) (v : Scalar Other) : Option (Doc Other) :=
  match get doc "bbs" with
  | some (.node keys) => some (insert "bbs" (.node (insert key (.leaf (.value v)) keys)) doc)
  | some (.leaf (.inline keys)) =>
      some (insert "bbs" (.leaf (.inline (insert key (.leaf (.value v)) keys))) doc)
  | some (.leaf (.value _)) => none
  -- the index makes a table in braces
  | none => some (insert "bbs" (.leaf (.inline [(key, .leaf (.value v))])) doc)

/-- Through `as_table_mut`, which sees no table in braces. -/
def removeKey (doc : Doc Other) (key : String) : Doc Other :=
  match get doc "bbs" with
  | some (.node keys) => insert "bbs" (.node (remove keys key)) doc
  | _ => doc

/-- The document that is written back, unless the edit panics. -/
def editPolicy (policy : AccessPolicy) (doc : Doc Other) : Option (Doc Other) := do
  let doc ← assign (ensureSection doc) "require_verify" (.boolean policy.requireVerify)
  match policy.guestRoomName with
  | some name => assign doc "guest_room" (.string name)
  | none => some (removeKey doc "guest_room")

/-! ## The operations, each in its own task -/

inductive Operation where
  | openAccess
  | closeAccess
  | guestRoom (name : Option String)
  | adminSetRequireVerify (requireVerify : Bool)
  | adminSetGuestRoom (name : Option String)
deriving DecidableEq

inductive Stage where
  -- the guest room id is to be forgotten
  | clearing
  -- `ensure_guest_room` is to read the name
  | ensuring
  -- it is to find the room, or to create it
  | finding (name : String)
  -- `persist_access_policy` is to read the policy
  | persisting
  -- it waits for the lock of the file
  | saving (policy : AccessPolicy)
  | returned
deriving DecidableEq

structure Call where
  operation : Operation
  stage : Stage
deriving DecidableEq

/-- What the operation sets at once. -/
def Operation.change : Operation → AccessPolicy → AccessPolicy
  | .openAccess, p => { p with requireVerify := false }
  | .closeAccess, p => { p with requireVerify := true }
  | .guestRoom name, p => { p with guestRoomName := name }
  | .adminSetRequireVerify requireVerify, p => { p with requireVerify }
  | .adminSetGuestRoom name, p => { p with guestRoomName := name }

def Operation.first : Operation → Stage
  | .guestRoom (some _) => .ensuring
  | .guestRoom none => .clearing
  | .adminSetGuestRoom (some _) => .ensuring
  | .adminSetGuestRoom none => .clearing
  | _ => .persisting

/-- What the operation does where there is no guest room to be had. -/
def Operation.rollBack : Operation → AccessPolicy → AccessPolicy
  | .guestRoom _, p => { p with guestRoomName := none }
  | _, p => p

/-- A host with a config file, which it can read and write. -/
structure PolicyHost (Text : Type) where
  policy : AccessPolicy
  guestRoomId : Option RoomId
  file : Text
  calls : List Call
  panicked : Bool
  -- for reasoning only: what was last read to be saved, at first what the file says
  latest : Option AccessPolicy

variable (toml : TomlEdit Text (Leaf Other))

def readBack (file : Text) : Option AccessPolicy :=
  match toml.parse file with
  | .ok doc => policyOf doc
  | .error _ => none

def start (policy : AccessPolicy) (guestRoomId : Option RoomId) (file : Text) : PolicyHost Text :=
  ⟨policy, guestRoomId, file, [], false, readBack toml file⟩

namespace PolicyHost

/-- What happens under the lock. A panic does not get out of the blocking task. -/
def save (h : PolicyHost Text) (policy : AccessPolicy) : PolicyHost Text :=
  match toml.parse h.file with
  | .error _ => h
  | .ok doc =>
      match editPolicy policy doc with
      | some doc => { h with file := toml.print doc }
      | none => { h with panicked := true }

def move (h : PolicyHost Text) (i : Nat) (operation : Operation) (stage : Stage) : PolicyHost Text :=
  { h with calls := h.calls.set i ⟨operation, stage⟩ }

/-- `found` is what the database answers where it is asked for the guest room. -/
def advance (h : PolicyHost Text) (i : Nat) (operation : Operation) (found : Except String RoomId) :
    Stage → Option (PolicyHost Text)
  | .clearing => some ({ h with guestRoomId := none }.move i operation .persisting)
  | .ensuring =>
      match h.policy.guestRoomName with
      | none => some (h.move i operation .persisting)
      | some name => some (h.move i operation (.finding name))
  | .finding _ =>
      match found with
      | .ok id => some ({ h with guestRoomId := some id }.move i operation .persisting)
      | .error _ => some ({ h with policy := operation.rollBack h.policy }.move i operation .returned)
  | .persisting => some ({ h with latest := some h.policy }.move i operation (.saving h.policy))
  | .saving policy => some ((h.save toml policy).move i operation .returned)
  | .returned => none

inductive Label where
  | begin (operation : Operation)
  | proceed (i : Nat) (found : Except String RoomId)

def step (h : PolicyHost Text) : Label → Option (PolicyHost Text)
  | .begin operation => some { h with
      policy := operation.change h.policy
      calls := h.calls ++ [⟨operation, operation.first⟩] }
  | .proceed i found =>
      match h.calls[i]? with
      | some call => h.advance toml i call.operation found call.stage
      | none => none

def Steps (label : Label) (h h' : PolicyHost Text) : Prop := h.step toml label = some h'

end PolicyHost
end SupplyDrop.Host.PolicyFile
