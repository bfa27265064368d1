import Mathlib
import SupplyDrop.Host.PolicyFile
import SupplyDrop.Library.Run

namespace SupplyDrop.Proof.PolicyPersisted
open Library KeyTree Host.PolicyFile Host.PolicyFile.PolicyHost
open SupplyDrop.Host (AccessPolicy)
open SupplyDrop.Restore

variable {Other Text : Type}

/-! ## One edit -/

/-- Both keys can be set, and the guest room can go if it has to. -/
def Editable (policy : AccessPolicy) (doc : Doc Other) : Prop :=
  match get doc "bbs" with
  | none => True
  | some (.node _) => True
  | some (.leaf (.inline keys)) => policy.guestRoomName ≠ none ∨ get keys "guest_room" = none
  | some (.leaf (.value _)) => False

/-- Whatever is not one of the two keys of the policy is as it was. -/
def OthersKept (doc doc' : Doc Other) : Prop :=
  (∀ key, key ≠ "bbs" → get doc' key = get doc key) ∧
  ∀ key, key ≠ "require_verify" → key ≠ "guest_room" → bbsKey doc' key = bbsKey doc key

theorem OthersKept.refl (doc : Doc Other) : OthersKept doc doc := ⟨fun _ _ => rfl, fun _ _ _ => rfl⟩

theorem OthersKept.trans {doc doc' doc'' : Doc Other} (first : OthersKept doc doc')
    (second : OthersKept doc' doc'') : OthersKept doc doc'' :=
  ⟨fun key other => (second.1 key other).trans (first.1 key other),
    fun key verify room => (second.2 key verify room).trans (first.2 key verify room)⟩

def isTable : Item Other → Bool
  | .node _ => true
  | .leaf _ => false

/-- The keys of the section after the edit. -/
def editKeys (policy : AccessPolicy) (table : Bool) (keys : Doc Other) : Doc Other :=
  let keys := insert "require_verify" (.leaf (.value (.boolean policy.requireVerify))) keys
  match policy.guestRoomName with
  | some name => insert "guest_room" (.leaf (.value (.string name))) keys
  | none => if table then remove keys "guest_room" else keys

variable {doc keys : Doc Other} {item : Item Other} {policy : AccessPolicy}

theorem bbsKey_of (held : get doc "bbs" = some item) (table : asTableLike item = some keys)
    (key : String) : bbsKey doc key = get keys key := by
  simp [bbsKey, held, table]

/-- The section with other keys, and nothing else touched. -/
structure Reseated (doc : Doc Other) (item : Item Other) (keys : Doc Other) (doc' : Doc Other) : Prop where
  seat : ∃ item', get doc' "bbs" = some item' ∧ asTableLike item' = some keys ∧
    isTable item' = isTable item
  rest : ∀ key, key ≠ "bbs" → get doc' key = get doc key

theorem reseated_insert {item' : Item Other} (table : asTableLike item' = some keys)
    (same : isTable item' = isTable item) (doc : Doc Other) :
    Reseated doc item keys (insert "bbs" item' doc) :=
  ⟨⟨item', get_insert_self _ _ _, table, same⟩, fun _ other => get_insert_ne _ _ (Ne.symm other)⟩

theorem assign_reseats (held : get doc "bbs" = some item) (table : asTableLike item = some keys)
    (key : String) (v : Scalar Other) : ∃ doc', assign doc key v = some doc' ∧
      Reseated doc item (insert key (.leaf (.value v)) keys) doc' := by
  unfold assign
  rw [held]
  cases item with
  | node entries =>
      cases table
      exact ⟨_, rfl, reseated_insert (by rfl) (by rfl) doc⟩
  | leaf leaf =>
      cases leaf with
      | inline entries =>
          cases table
          exact ⟨_, rfl, reseated_insert (by rfl) (by rfl) doc⟩
      | value v => cases table

theorem removeKey_reseats (held : get doc "bbs" = some item) (table : asTableLike item = some keys)
    (key : String) :
    Reseated doc item (if isTable item then remove keys key else keys) (removeKey doc key) := by
  unfold removeKey
  rw [held]
  cases item with
  | node entries =>
      cases table
      exact reseated_insert (by rfl) (by rfl) doc
  | leaf leaf => exact ⟨⟨.leaf leaf, held, table, rfl⟩, fun _ _ => rfl⟩

theorem editPolicy_reseats (held : get doc "bbs" = some item) (table : asTableLike item = some keys)
    (policy : AccessPolicy) : ∃ doc', editPolicy policy doc = some doc' ∧
      Reseated doc item (editKeys policy (isTable item) keys) doc' := by
  have settled : ensureSection doc = doc := by
    unfold ensureSection
    rw [held]
  obtain ⟨first, assigned, ⟨item', held', table', same⟩, rest⟩ :=
    assign_reseats held table "require_verify" (.boolean policy.requireVerify)
  unfold editPolicy editKeys
  rw [settled, assigned]
  cases policy.guestRoomName with
  | some name =>
      obtain ⟨doc', assigned', ⟨item'', held'', table'', same'⟩, rest'⟩ :=
        assign_reseats held' table' "guest_room" (.string name)
      exact ⟨doc', assigned', ⟨item'', held'', table'', same'.trans same⟩,
        fun key other => (rest' key other).trans (rest key other)⟩
  | none =>
      obtain ⟨⟨item'', held'', table'', same'⟩, rest'⟩ := removeKey_reseats held' table' "guest_room"
      rw [same] at table''
      exact ⟨_, rfl, ⟨item'', held'', table'', same'.trans same⟩,
        fun key other => (rest' key other).trans (rest key other)⟩

theorem get_editKeys (policy : AccessPolicy) (table : Bool) (keys : Doc Other) {key : String}
    (verify : key ≠ "require_verify") (room : key ≠ "guest_room") :
    get (editKeys policy table keys) key = get keys key := by
  have kept := get_insert_ne (.leaf (.value (.boolean policy.requireVerify))) keys (Ne.symm verify)
  unfold editKeys
  dsimp only
  split
  · exact (get_insert_ne _ _ (Ne.symm room)).trans kept
  · split
    · rw [get_remove, if_neg (Ne.symm room)]
      exact kept
    · exact kept

/-- What the section says, where it is a table of either kind. -/
theorem policyOf_table (held : get doc "bbs" = some item) (table : asTableLike item = some keys) :
    policyOf doc = (requireVerifyOf (get keys "require_verify")).bind fun requireVerify =>
      (guestRoomOf (get keys "guest_room")).map fun guestRoomName => ⟨requireVerify, guestRoomName⟩ := by
  unfold policyOf
  rw [bbsKey_of held table, bbsKey_of held table, held]
  cases item with
  | node entries =>
      cases requireVerifyOf (get keys "require_verify") with
      | none => rfl
      | some requireVerify => cases guestRoomOf (get keys "guest_room") <;> rfl
  | leaf leaf =>
      cases leaf with
      | inline entries =>
          cases requireVerifyOf (get keys "require_verify") with
          | none => rfl
          | some requireVerify => cases guestRoomOf (get keys "guest_room") <;> rfl
      | value v => cases table

theorem editKeys_verify (policy : AccessPolicy) (table : Bool) (keys : Doc Other) :
    get (editKeys policy table keys) "require_verify" =
      some (.leaf (.value (.boolean policy.requireVerify))) := by
  unfold editKeys
  dsimp only
  split
  · rw [get_insert_ne _ _ (by decide), get_insert_self]
  · split
    · rw [get_remove, if_neg (by decide), get_insert_self]
    · rw [get_insert_self]

theorem editKeys_room (policy : AccessPolicy) (table : Bool) (keys : Doc Other) :
    guestRoomOf (get (editKeys policy table keys) "guest_room") = some policy.guestRoomName ↔
      (policy.guestRoomName ≠ none ∨ table = true ∨ get keys "guest_room" = none) := by
  have kept : get (insert "require_verify" (.leaf (.value (.boolean policy.requireVerify))) keys)
      "guest_room" = get keys "guest_room" := get_insert_ne _ _ (by decide)
  unfold editKeys
  cases policy.guestRoomName with
  | some name => simp [guestRoomOf]
  | none =>
      cases table with
      | true => simp [get_remove, guestRoomOf]
      | false =>
          dsimp only
          rw [if_neg (by decide), kept]
          cases get keys "guest_room" with
          | none => simp [guestRoomOf]
          | some held =>
              simp only [reduceCtorEq, ne_eq, not_true_eq_false, Bool.false_eq_true, or_self, iff_false]
              unfold guestRoomOf
              split <;> simp_all

theorem reads_back (held : get doc "bbs" = some item)
    (table : asTableLike item = some (editKeys policy (isTable item) keys)) :
    policyOf doc = some policy ↔
      (policy.guestRoomName ≠ none ∨ isTable item = true ∨ get keys "guest_room" = none) := by
  rw [policyOf_table held table, editKeys_verify, ← editKeys_room policy (isTable item) keys]
  simp only [requireVerifyOf, Option.bind_some, Option.map_eq_some_iff]
  constructor
  · rintro ⟨room, same, whole⟩
    rw [same, ← whole]
  · intro same
    exact ⟨_, same, rfl⟩

theorem Reseated.others {doc' : Doc Other} {table : Bool} (held : get doc "bbs" = some item)
    (before : asTableLike item = some keys)
    (reseated : Reseated doc item (editKeys policy table keys) doc') : OthersKept doc doc' := by
  obtain ⟨⟨item', held', table', _⟩, rest⟩ := reseated
  refine ⟨rest, fun key verify room => ?_⟩
  rw [bbsKey_of held' table', bbsKey_of held before, get_editKeys policy table keys verify room]

/-- In a section that is a table of either kind. -/
theorem edit_table (held : get doc "bbs" = some item) (table : asTableLike item = some keys)
    (policy : AccessPolicy) : ∃ doc', editPolicy policy doc = some doc' ∧ OthersKept doc doc' ∧
      (policyOf doc' = some policy ↔
        (policy.guestRoomName ≠ none ∨ isTable item = true ∨ get keys "guest_room" = none)) := by
  obtain ⟨doc', edited, reseated⟩ := editPolicy_reseats held table policy
  refine ⟨doc', edited, reseated.others held table, ?_⟩
  obtain ⟨item', held', table', same⟩ := reseated.seat
  rw [← same] at table' ⊢
  exact reads_back held' table'

theorem edit_absent (absent : get doc "bbs" = none) (policy : AccessPolicy) :
    ∃ doc', editPolicy policy doc = some doc' ∧ OthersKept doc doc' ∧ policyOf doc' = some policy := by
  have created : get (insert "bbs" (.node []) doc : Doc Other) "bbs" = some (.node []) :=
    get_insert_self _ _ _
  have opened_doc : ensureSection doc = insert "bbs" (.node []) doc := by
    unfold ensureSection
    rw [absent]
  have again : ensureSection (insert "bbs" (.node []) doc : Doc Other) = insert "bbs" (.node []) doc := by
    unfold ensureSection
    rw [created]
  have same : editPolicy policy doc = editPolicy policy (insert "bbs" (.node []) doc) := by
    unfold editPolicy
    rw [opened_doc, again]
  obtain ⟨doc', edited, others, reads⟩ := edit_table created rfl policy
  have opened : OthersKept doc (insert "bbs" (.node []) doc) := by
    refine ⟨fun key other => get_insert_ne _ _ (Ne.symm other), fun key _ _ => ?_⟩
    rw [bbsKey_of created rfl]
    simp [bbsKey, absent]
  exact ⟨doc', same.trans edited, opened.trans others, reads.mpr (.inr (.inl rfl))⟩

/-- The edit does what it is for in exactly the documents that it can edit. -/
theorem edit_iff (policy : AccessPolicy) (doc : Doc Other) :
    (∃ doc', editPolicy policy doc = some doc' ∧ OthersKept doc doc' ∧ policyOf doc' = some policy) ↔
      Editable policy doc := by
  unfold Editable
  cases held : get doc "bbs" with
  | none => exact ⟨fun _ => trivial, fun _ => edit_absent held policy⟩
  | some item =>
      cases item with
      | node entries =>
          obtain ⟨doc', edited, others, reads⟩ := edit_table held rfl policy
          exact ⟨fun _ => trivial, fun _ => ⟨doc', edited, others, reads.mpr (.inr (.inl rfl))⟩⟩
      | leaf leaf =>
          cases leaf with
          | inline entries =>
              obtain ⟨doc', edited, others, reads⟩ := edit_table held rfl policy
              have reads : policyOf doc' = some policy ↔
                  (policy.guestRoomName ≠ none ∨ get entries "guest_room" = none) := by
                simpa [isTable] using reads
              constructor
              · rintro ⟨other, edited', _, given⟩
                cases edited.symm.trans edited'
                exact reads.mp given
              · exact fun fits => ⟨doc', edited, others, reads.mpr fits⟩
          | value v =>
              refine ⟨?_, nofun⟩
              rintro ⟨doc', edited, _⟩
              have settled : ensureSection doc = doc := by
                unfold ensureSection
                rw [held]
              unfold editPolicy assign at edited
              rw [settled, held] at edited
              cases edited

/-! ## Interleavings -/

variable {toml : TomlEdit Text (Leaf Other)} {h h' : PolicyHost Text}

/-- What is printed after an edit is read as it was. -/
def ReadsBack (toml : TomlEdit Text (Leaf Other)) : Prop :=
  ∀ text doc policy doc', toml.parse text = .ok doc → editPolicy policy doc = some doc' →
    toml.parse (toml.print doc') = .ok doc'

/-- The policy in memory is still to be read by the call. -/
def owes (call : Call) : Bool :=
  match call.stage with
  | .clearing => true
  | .ensuring => true
  | .finding _ => true
  | .persisting => true
  | .saving _ => false
  | .returned => false

/-- The call is about to save what was read last. -/
def Carries (h : PolicyHost Text) (call : Call) : Prop :=
  ∃ policy, call.stage = .saving policy ∧ some policy = h.latest

/-- Among the calls but the `i`th. -/
def Elsewhere (h : PolicyHost Text) (i : Nat) (P : Call → Prop) : Prop :=
  ∃ j call, j ≠ i ∧ h.calls[j]? = some call ∧ P call

/-- A save that is of the latest policy, or that another one is to follow. -/
structure SaveFits (toml : TomlEdit Text (Leaf Other)) (h : PolicyHost Text) (i : Nat)
    (policy : AccessPolicy) : Prop where
  editable : ∀ doc, toml.parse h.file = .ok doc → Editable policy doc
  latest : some policy = h.latest ∨ Elsewhere h i fun call => owes call = true ∨ Carries h call

/-- A guest room that fails where the policy left in memory is the one that is saved, or where another
call is still to save it. -/
def FailFits (toml : TomlEdit Text (Leaf Other)) (h : PolicyHost Text) (i : Nat)
    (operation : Operation) : Prop :=
  Elsewhere h i (fun call => owes call = true) ∨ some (operation.rollBack h.policy) = h.latest ∧
    (readBack toml h.file = h.latest ∨ Elsewhere h i (Carries h))

def Orderly (toml : TomlEdit Text (Leaf Other)) : Label → PolicyHost Text → Prop
  | .begin _, _ => True
  | .proceed i found, h => ∀ operation stage, h.calls[i]? = some ⟨operation, stage⟩ →
      (∀ policy, stage = .saving policy → SaveFits toml h i policy) ∧
      ∀ name e, stage = .finding name → found = .error e → FailFits toml h i operation

structure Settling (toml : TomlEdit Text (Leaf Other)) (doc : Doc Other) (h : PolicyHost Text) : Prop where
  parsed : ∃ doc', toml.parse h.file = .ok doc' ∧ OthersKept doc doc'
  calm : h.panicked = false
  memory : h.calls = [] ∨ some h.policy = h.latest ∨ ∃ call ∈ h.calls, owes call = true
  file : readBack toml h.file = h.latest ∨ ∃ call ∈ h.calls, owes call = true ∨ Carries h call

theorem settling_start {file : Text} (parsed : toml.parse file = .ok doc) (policy : AccessPolicy)
    (guestRoomId : Option Store.RoomId) : Settling toml doc (start toml policy guestRoomId file) :=
  ⟨⟨doc, parsed, .refl doc⟩, rfl, .inl rfl, .inl rfl⟩

theorem mem_move {i : Nat} {call : Call} (found : h.calls[i]? = some call) (operation : Operation)
    (stage : Stage) : (⟨operation, stage⟩ : Call) ∈ (h.move i operation stage).calls :=
  List.mem_set (List.getElem?_eq_some_iff.mp found).1 _

theorem Elsewhere.move {i : Nat} {P : Call → Prop} (other : Elsewhere h i P) (operation : Operation)
    (stage : Stage) : ∃ call ∈ (h.move i operation stage).calls, P call := by
  obtain ⟨j, call, apart, at_j, holds⟩ := other
  refine ⟨call, List.mem_of_getElem? (i := j) ?_, holds⟩
  rw [PolicyHost.move, List.getElem?_set_ne (Ne.symm apart)]
  exact at_j

theorem other_of_mem {i : Nat} {call : Call} {P : Call → Prop} (found : h.calls[i]? = some call)
    (not_own : ¬P call) {one : Call} (mem : one ∈ h.calls) (holds : P one) : Elsewhere h i P := by
  obtain ⟨j, at_j⟩ := List.mem_iff_getElem?.mp mem
  refine ⟨j, one, ?_, at_j, holds⟩
  rintro rfl
  cases found.symm.trans at_j
  exact not_own holds

/-- The call that moved is still to read the policy. -/
theorem settling_owed {i : Nat} {call : Call} {operation : Operation} {stage : Stage}
    (settling : Settling toml doc h) (found : h.calls[i]? = some call) (file : h'.file = h.file)
    (panicked : h'.panicked = h.panicked) (calls : h'.calls = h.calls)
    (owed : owes ⟨operation, stage⟩ = true) : Settling toml doc (h'.move i operation stage) where
  parsed := by
    show ∃ doc', toml.parse h'.file = .ok doc' ∧ OthersKept doc doc'
    rw [file]
    exact settling.parsed
  calm := panicked.trans settling.calm
  memory := .inr (.inr ⟨_, mem_move (calls ▸ found) operation stage, owed⟩)
  file := .inr ⟨_, mem_move (calls ▸ found) operation stage, .inl owed⟩

theorem Settling.fail {i : Nat} {operation : Operation} (settling : Settling toml doc h)
    (fits : FailFits toml h i operation) :
    Settling toml doc ({ h with policy := operation.rollBack h.policy }.move i operation .returned) where
  parsed := settling.parsed
  calm := settling.calm
  memory := by
    rcases fits with owed | ⟨same, _⟩
    · exact .inr (.inr (Elsewhere.move (h := { h with policy := operation.rollBack h.policy }) owed _ _))
    · exact .inr (.inl same)
  file := by
    rcases fits with owed | ⟨_, said | carried⟩
    · obtain ⟨one, mem, owed⟩ :=
        Elsewhere.move (h := { h with policy := operation.rollBack h.policy }) owed operation .returned
      exact .inr ⟨one, mem, .inl owed⟩
    · exact .inl said
    · obtain ⟨one, mem, carried⟩ :=
        Elsewhere.move (h := { h with policy := operation.rollBack h.policy }) carried operation .returned
      exact .inr ⟨one, mem, .inr carried⟩

theorem Settling.read {i : Nat} {call : Call} {operation : Operation} (settling : Settling toml doc h)
    (found : h.calls[i]? = some call) :
    Settling toml doc ({ h with latest := some h.policy }.move i operation (.saving h.policy)) where
  parsed := settling.parsed
  calm := settling.calm
  memory := .inr (.inl rfl)
  file := .inr ⟨_, mem_move (h := { h with latest := some h.policy }) found operation _,
    .inr ⟨h.policy, rfl, rfl⟩⟩

theorem save_ok (faithful : ReadsBack toml) {policy : AccessPolicy} {now : Doc Other}
    (parsed : toml.parse h.file = .ok now) (editable : Editable policy now) :
    ∃ text doc', h.save toml policy = { h with file := text } ∧ toml.parse text = .ok doc' ∧
      OthersKept now doc' ∧ policyOf doc' = some policy := by
  obtain ⟨doc', edited, others, reads⟩ := (edit_iff policy now).mpr editable
  refine ⟨toml.print doc', doc', ?_, faithful h.file now policy doc' parsed edited, others, reads⟩
  unfold PolicyHost.save
  rw [parsed]
  dsimp only
  rw [edited]

/-- One operation after the other, the file gives what the memory had when it was saved. -/
theorem save_refines (faithful : ReadsBack toml) {m : Host.Memory} {c : Host.ConfigFile}
    {now : Doc Other} (config : m.config = some c) (writable : c.writable = true)
    (parsed : toml.parse h.file = .ok now) (editable : Editable m.accessPolicy now) :
    readBack toml (h.save toml m.accessPolicy).file = m.persistPolicy.config.map (·.saved) := by
  obtain ⟨text, doc', saved, written, _, reads⟩ := save_ok faithful parsed editable
  rw [saved, readBack, written]
  dsimp only
  rw [reads, Host.Memory.persistPolicy, config]
  simp [writable]

theorem Settling.save {i : Nat} {operation : Operation} {policy : AccessPolicy}
    (faithful : ReadsBack toml) (settling : Settling toml doc h)
    (found : h.calls[i]? = some ⟨operation, .saving policy⟩) (fits : SaveFits toml h i policy) :
    Settling toml doc ((h.save toml policy).move i operation .returned) := by
  obtain ⟨now, parsed, kept⟩ := settling.parsed
  obtain ⟨text, doc', saved, written, others, reads⟩ := save_ok faithful parsed (fits.editable now parsed)
  have given : readBack toml text = some policy := by
    unfold readBack
    rw [written]
    exact reads
  rw [saved]
  refine ⟨⟨doc', written, kept.trans others⟩, settling.calm, ?_, ?_⟩
  · rcases settling.memory with none | same | ⟨one, mem, owed⟩
    · rw [none] at found
      cases found
    · exact .inr (.inl same)
    · have other : Elsewhere h i fun call => owes call = true := other_of_mem found (by simp [owes]) mem owed
      exact .inr (.inr (Elsewhere.move (h := { h with file := text }) other operation .returned))
  · rcases fits.latest with same | other
    · exact .inl (given.trans same)
    · exact .inr (Elsewhere.move (h := { h with file := text }) other operation .returned)

theorem Settling.proceed {i : Nat} {operation : Operation} {stage : Stage}
    {found : Except String Store.RoomId} (faithful : ReadsBack toml) (settling : Settling toml doc h)
    (call : h.calls[i]? = some ⟨operation, stage⟩) (orderly : Orderly toml (.proceed i found) h)
    (next : h.advance toml i operation found stage = some h') : Settling toml doc h' := by
  obtain ⟨saves, fails⟩ := orderly operation stage call
  cases stage with
  | clearing =>
      cases next
      exact settling_owed settling call rfl rfl rfl rfl
  | ensuring =>
      simp only [advance] at next
      split at next
      · cases next
        exact settling_owed settling call rfl rfl rfl rfl
      · cases next
        exact settling_owed settling call rfl rfl rfl rfl
  | finding name =>
      cases found with
      | ok id =>
          cases next
          exact settling_owed settling call rfl rfl rfl rfl
      | error e =>
          cases next
          exact settling.fail (fails name e rfl rfl)
  | persisting =>
      cases next
      exact settling.read call
  | saving policy =>
      cases next
      exact settling.save faithful call (saves policy rfl)
  | returned => cases next

theorem Settling.step {label : Label} (faithful : ReadsBack toml) (settling : Settling toml doc h)
    (orderly : Orderly toml label h) (next : Steps toml label h h') : Settling toml doc h' := by
  cases label with
  | begin operation =>
      cases next
      have owed : owes ⟨operation, operation.first⟩ = true := by
        unfold Operation.first
        split <;> rfl
      have mem : (⟨operation, operation.first⟩ : Call) ∈ h.calls ++ [⟨operation, operation.first⟩] :=
        List.mem_append_right _ (List.mem_singleton_self _)
      exact ⟨settling.parsed, settling.calm, .inr (.inr ⟨_, mem, owed⟩), .inr ⟨_, mem, .inl owed⟩⟩
  | proceed i found =>
      simp only [Steps, PolicyHost.step] at next
      split at next
      · next call at_i => exact settling.proceed faithful at_i orderly next
      · cases next

/-- Once the operations of an orderly run have all returned, the file gives the policy in memory. -/
theorem policy_persisted (faithful : ReadsBack toml) {file : Text} (parsed : toml.parse file = .ok doc)
    {policy : AccessPolicy} {guestRoomId : Option Store.RoomId}
    (run : Reaches (Steps toml) (Orderly toml) (start toml policy guestRoomId file) h) :
    h.panicked = false ∧ (∃ doc', toml.parse h.file = .ok doc' ∧ OthersKept doc doc') ∧
      (h.calls ≠ [] → (∀ call ∈ h.calls, call.stage = .returned) →
        readBack toml h.file = some h.policy) := by
  have settling := run.invariant (settling_start parsed policy guestRoomId)
    fun _ _ _ settling orderly next => settling.step faithful orderly next
  refine ⟨settling.calm, settling.parsed, fun some_begun returned => ?_⟩
  have paid (call : Call) (mem : call ∈ h.calls) : owes call = false := by
    simp [owes, returned call mem]
  have saved : readBack toml h.file = h.latest := by
    rcases settling.file with said | ⟨call, mem, owed | ⟨policy, stage, _⟩⟩
    · exact said
    · rw [paid call mem] at owed
      cases owed
    · rw [returned call mem] at stage
      cases stage
  rcases settling.memory with none | same | ⟨call, mem, owed⟩
  · exact absurd none some_begun
  · exact saved.trans same.symm
  · rw [paid call mem] at owed
    cases owed

/-! ## Runs -/

/-- Trees stand for their own texts. -/
def asWritten : TomlEdit (Doc Unit) (Leaf Unit) := ⟨.ok, id⟩

def held (v : Scalar Unit) : Item Unit := .leaf (.value v)

def outcome (file : Doc Unit) (policy : AccessPolicy) (labels : List Label) : PolicyHost (Doc Unit) :=
  labels.foldl (fun h label => (h.step asWritten label).getD h) (start asWritten policy none file)

def proceed (i : Nat) : Label := .proceed i (.error "database is locked")

theorem orderly_move {i : Nat} {found : Except String Store.RoomId} (operation : Operation)
    (stage : Stage) (call : h.calls[i]? = some ⟨operation, stage⟩) (saves : ∀ policy, stage ≠ .saving policy)
    (finds : ∀ name, stage ≠ .finding name) : Orderly toml (.proceed i found) h := by
  intro _ _ same
  cases call.symm.trans same
  exact ⟨fun policy own => absurd own (saves policy), fun name _ own => absurd own (finds name)⟩

theorem orderly_save {i : Nat} {found : Except String Store.RoomId} (operation : Operation)
    (policy : AccessPolicy) (call : h.calls[i]? = some ⟨operation, .saving policy⟩)
    (fits : SaveFits toml h i policy) : Orderly toml (.proceed i found) h := by
  intro _ _ same
  cases call.symm.trans same
  refine ⟨fun _ own => ?_, nofun⟩
  cases own
  exact fits

def named : Doc Unit := [("bbs", .node [("name", held (.string "Depot"))])]

/-- CLOSEACCESS begins before OPENACCESS has saved, and saves after it. -/
def inTurn : PolicyHost (Doc Unit) := outcome named ⟨true, none⟩
  [.begin .openAccess, proceed 0, .begin .closeAccess, proceed 0, proceed 1, proceed 1]

theorem inTurn_reached :
    Reaches (Steps asWritten) (Orderly asWritten) (start asWritten ⟨true, none⟩ none named) inTurn :=
  .follow_taken ⟨⟨trivial, rfl⟩, ⟨orderly_move .openAccess .persisting (by rfl) nofun nofun, rfl⟩,
    ⟨trivial, rfl⟩,
    ⟨orderly_save .openAccess ⟨false, none⟩ (by rfl)
      ⟨fun _ parsed => by cases parsed; trivial,
        .inr ⟨1, ⟨.closeAccess, .persisting⟩, by decide, by rfl, .inl rfl⟩⟩, rfl⟩,
    ⟨orderly_move .closeAccess .persisting (by rfl) nofun nofun, rfl⟩,
    ⟨orderly_save .closeAccess ⟨true, none⟩ (by rfl)
      ⟨fun _ parsed => by cases parsed; trivial, .inl rfl⟩, rfl⟩, trivial⟩

theorem policy_persisted_inTurn :
    inTurn.panicked = false ∧ readBack asWritten inTurn.file = some inTurn.policy := by
  have faithful : ReadsBack asWritten := fun _ _ _ _ _ _ => rfl
  obtain ⟨calm, _, given⟩ := policy_persisted faithful (by rfl) inTurn_reached
  exact ⟨calm, given (by decide +kernel) (by decide +kernel)⟩

def guarded : Doc Unit :=
  [("bbs", .node [("require_verify", held (.boolean true)), ("guest_room", held (.string "Den"))])]

def inBraces : Doc Unit :=
  [("bbs", .leaf (.inline [("require_verify", held (.boolean true)),
    ("guest_room", held (.string "Den"))]))]

/-- OPENACCESS saves what it has read over what CLOSEACCESS has saved. -/
def overtaken : PolicyHost (Doc Unit) := outcome named ⟨true, none⟩
  [.begin .openAccess, proceed 0, .begin .closeAccess, proceed 1, proceed 1, proceed 0]

/-- GUESTROOM OFF leaves the guest room in a table in braces. -/
def leftInBraces : PolicyHost (Doc Unit) := outcome inBraces ⟨true, some "Den"⟩
  [.begin (.guestRoom none), proceed 0, proceed 0, proceed 0]

/-- GUESTROOM takes the room back that was set before it. -/
def rolledBack : PolicyHost (Doc Unit) := outcome guarded ⟨true, some "Den"⟩
  [.begin (.guestRoom (some "Hall")), proceed 0, proceed 0]

/-- The web admin's operation takes nothing back. -/
def keptBack : PolicyHost (Doc Unit) := outcome guarded ⟨true, some "Den"⟩
  [.begin (.adminSetGuestRoom (some "Hall")), proceed 0, proceed 0]

/-- A section that is no table. -/
def overScalar : PolicyHost (Doc Unit) := outcome [("bbs", held (.other ()))] ⟨true, none⟩
  [.begin .openAccess, proceed 0, proceed 0]

theorem reached (file : Doc Unit) (policy : AccessPolicy) (labels : List Label)
    (taken : Reaches.Follows (fun h label => (step asWritten h label).getD h)
      (fun label h => True ∧ (step asWritten h label).isSome) labels (start asWritten policy none file)) :
    Reaches (Steps asWritten) (fun _ _ => True) (start asWritten policy none file)
      (outcome file policy labels) := .follow_taken taken

/-- Four ways to a file that gives another policy than the one in memory, and one to a panic. -/
theorem policy_not_persisted :
    (∀ h ∈ [overtaken, leftInBraces, rolledBack, keptBack],
      (∃ file policy, readBack asWritten file = some policy ∧
        Reaches (Steps asWritten) (fun _ _ => True) (start asWritten policy none file) h) ∧
      (∀ call ∈ h.calls, call.stage = .returned) ∧ readBack asWritten h.file ≠ some h.policy) ∧
    (∃ file policy, Reaches (Steps asWritten) (fun _ _ => True) (start asWritten policy none file)
      overScalar) ∧ overScalar.panicked = true := by
  refine ⟨fun h mem => ?_, ⟨_, _, reached _ _ _ (by decide +kernel)⟩, by decide +kernel⟩
  simp only [List.mem_cons, List.not_mem_nil, or_false] at mem
  rcases mem with rfl | rfl | rfl | rfl
  · refine ⟨⟨named, ⟨true, none⟩, by decide +kernel, reached _ _ _ ?_⟩, ?_, ?_⟩ <;> decide +kernel
  · refine ⟨⟨inBraces, ⟨true, some "Den"⟩, by decide +kernel, reached _ _ _ ?_⟩, ?_, ?_⟩ <;>
      decide +kernel
  · refine ⟨⟨guarded, ⟨true, some "Den"⟩, by decide +kernel, reached _ _ _ ?_⟩, ?_, ?_⟩ <;>
      decide +kernel
  · refine ⟨⟨guarded, ⟨true, some "Den"⟩, by decide +kernel, reached _ _ _ ?_⟩, ?_, ?_⟩ <;>
      decide +kernel

end SupplyDrop.Proof.PolicyPersisted
