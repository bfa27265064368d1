import Mathlib
import SupplyDrop.Library.Paging
import SupplyDrop.Proof.RoomMessages
import SupplyDrop.Proof.StoreCalls

namespace SupplyDrop.Proof.Pagination
open Library Library.Program Library.Paging Store

/-! ## The pages a caller is given -/

inductive Scope where
  | room (room : RoomId)
  | direct (username : Username)
deriving DecidableEq

namespace Scope

def list : Scope → Option MessageId → Nat → StoreM MessagePage
  | room id => MessageStore.listInRoom id
  | direct username => MessageStore.listDirect username

def rows (db : Database) : Scope → List (MessageId × MessageRow)
  | room id => MessageStore.inRoom db id
  | direct username => MessageStore.direct db username

/-- The messages of the scope, in ascending order of id. -/
def messages (db : Database) (scope : Scope) : List Message := mapMessageRows (scope.rows db)

theorem messages_sorted (db : Database) (scope : Scope) :
    (scope.messages db).Pairwise fun a b => a.id < b.id := by
  apply List.pairwise_map.mpr
  cases scope with
  | room id => exact db.messages.sorted.filter _
  | direct username => exact db.messages.sorted.filter _

end Scope

/-- The pages from `cursor` on, and `none` when there are more than `fuel` of them. -/
def follow (scope : Scope) (limit : Nat) :
    Nat → Option MessageId → StoreM (Option (List MessagePage))
  | 0, _ => pure none
  | fuel + 1, cursor => do
      let page ← scope.list cursor limit
      match page.nextCursor with
      | none => pure (some [page])
      | some next => do
          let pages ← follow scope limit fuel (some next)
          pure (pages.map (page :: ·))

/-! ## One page -/

/-- The messages of the scope that a page from `cursor` on can hold. -/
def remaining (scope : Scope) (db : Database) (cursor : Option MessageId) : List Message :=
  behind (·.id) (cursor.getD minRowid) (scope.messages db)

def pageOf (messages : List Message) (limit : Nat) : MessagePage :=
  ⟨messages.take limit, nextCursor (·.id) limit messages⟩

theorem statement_apply (s : Storage) :
    statement s = (.ok (), (statement s).2) ∨
      ∃ e, some e ∈ s.faults ∧ statement s = (.error (.db e), (statement s).2) := by
  unfold statement
  split
  · exact .inl rfl
  · exact .inl rfl
  · next e rest eq => exact .inr ⟨e, by rw [eq]; exact List.mem_cons_self, rfl⟩

theorem query_apply {α : Type} (f : Database → α) (s : Storage) :
    query f s = (.ok (f s.db), (statement s).2) ∨
      ∃ e, some e ∈ s.faults ∧ query f s = (.error (.db e), (statement s).2) := by
  rcases statement_apply s with passed | ⟨e, mem, failed⟩
  · refine .inl ?_
    rw [query, bind_ok passed, gets_apply, statement_db]
  · exact .inr ⟨e, mem, by rw [query, bind_error failed]⟩

theorem buildPage_behind (scope : Scope) (db : Database) (cursor : Option MessageId) (limit : Nat) :
    buildPage (mapMessageRows ((MessageStore.after (scope.rows db) cursor).take (limit + 1))) limit =
      pageOf (remaining scope db cursor) limit := by
  have same : mapMessageRows (MessageStore.after (scope.rows db) cursor) =
      remaining scope db cursor := by
    unfold remaining behind Scope.messages mapMessageRows MessageStore.after
    rw [List.filter_map]
    rfl
  have sorted : (remaining scope db cursor).Pairwise fun a b => a.id < b.id :=
    (scope.messages_sorted db).filter _
  rw [mapMessageRows, List.map_take, ← mapMessageRows, same, buildPage_sorted limit sorted]
  rfl

theorem list_eq (scope : Scope) (cursor : Option MessageId) (limit : Nat) :
    scope.list cursor limit = (do
      let rows ← query fun db => (MessageStore.after (scope.rows db) cursor).take (limit + 1)
      pure (buildPage (mapMessageRows rows) limit)) := by
  cases scope <;> rfl

theorem list_apply (scope : Scope) (cursor : Option MessageId) (limit : Nat) (s : Storage) :
    scope.list cursor limit s = (.ok (pageOf (remaining scope s.db cursor) limit), (statement s).2) ∨
      ∃ e, some e ∈ s.faults ∧ scope.list cursor limit s = (.error (.db e), (statement s).2) := by
  rw [list_eq]
  rcases query_apply (fun db => (MessageStore.after (scope.rows db) cursor).take (limit + 1)) s with
    ran | ⟨e, mem, failed⟩
  · rw [bind_ok ran, ← buildPage_behind]
    exact .inl rfl
  · exact .inr ⟨e, mem, bind_error failed⟩

theorem statement_faults {s : Storage} {e : Option String} (mem : e ∈ (statement s).2.faults) :
    e ∈ s.faults := (Later.statement s).faults.subset mem

/-! ## All of them -/

/-- What the pages come to: the messages there are, unless a statement has failed. -/
def Exact (messages : List Message) (s : Storage) :
    Except StoreError (Option (List MessagePage)) → Prop
  | .ok none => False
  | .ok (some pages) => pages.flatMap (·.messages) = messages
  | .error _ => ∃ e, some e ∈ s.faults

theorem follow_exact (scope : Scope) {limit : Nat} (positive : 0 < limit) (fuel : Nat)
    (cursor : Option MessageId) (s : Storage)
    (enough : (remaining scope s.db cursor).length < fuel) :
    Exact (remaining scope s.db cursor) s (follow scope limit fuel cursor s).1 := by
  induction fuel generalizing cursor s with
  | zero => exact absurd enough (Nat.not_lt_zero _)
  | succ fuel ih =>
      unfold follow
      rcases list_apply scope cursor limit s with listed | ⟨e, mem, failed⟩
      · rw [bind_ok listed]
        cases more : (pageOf (remaining scope s.db cursor) limit).nextCursor with
        | none =>
            show [pageOf _ limit].flatMap (·.messages) = _
            rw [List.flatMap_singleton]
            exact (nextCursor_none_iff positive).mp more
        | some next =>
            have rest : remaining scope (statement s).2.db (some next) =
                (remaining scope s.db cursor).drop limit := by
              rw [statement_db]
              exact behind_next (scope.messages_sorted s.db) more
            have fewer := fewer_left positive more
            have next_ := ih (some next) (statement s).2 (by rw [rest]; omega)
            rw [rest] at next_
            dsimp only
            rw [bind_apply]
            rcases ran : follow scope limit fuel (some next) (statement s).2 with ⟨r, s'⟩
            rw [ran] at next_
            rcases r with e | pages
            · obtain ⟨e, mem⟩ := next_
              exact ⟨e, statement_faults mem⟩
            · cases pages with
              | none => exact next_
              | some pages =>
                  show (pageOf _ limit :: pages).flatMap (·.messages) = _
                  rw [List.flatMap_cons, next_]
                  exact List.take_append_drop limit _
      · rw [bind_error failed]
        exact ⟨e, mem⟩

/-- The pages from the first on hold the messages of the scope, each once and in ascending order
of id, and only a page that holds all there is left has no cursor. `limit + 1` is a `u32`, so a
limit of `u32::MAX` is none of these. -/
theorem pages_exact (scope : Scope) {limit : Nat} (positive : 1 ≤ limit) (s : Storage)
    (assigned : ∀ r ∈ s.db.messages.rows, 0 < r.1) :
    (∀ fuel, (scope.messages s.db).length < fuel →
      Exact (scope.messages s.db) s (follow scope limit fuel none s).1) ∧
    (scope.messages s.db).Pairwise (fun a b => a.id < b.id) ∧
    ∀ cursor page s', scope.list cursor limit s = (.ok page, s') →
      (page.nextCursor = none ↔
        ∀ m ∈ scope.messages s.db, cursor.getD minRowid < m.id → m ∈ page.messages) := by
  refine ⟨fun fuel enough => ?_, scope.messages_sorted s.db, fun cursor page s' listed => ?_⟩
  · have all : remaining scope s.db none = scope.messages s.db := by
      apply List.filter_eq_self.mpr
      intro m mem
      obtain ⟨r, stored, rfl⟩ := List.mem_map.mp mem
      have stored : r ∈ s.db.messages.rows := by
        cases scope with
        | room id => exact (List.mem_filter.mp stored).1
        | direct username => exact (List.mem_filter.mp stored).1
      have low : minRowid < 0 := by decide
      exact decide_eq_true (low.trans (assigned r stored))
    have exact_ := follow_exact scope positive fuel none s (by rwa [all])
    rwa [all] at exact_
  · have given : page = pageOf (remaining scope s.db cursor) limit := by
      rcases list_apply scope cursor limit s with ran | ⟨e, -, failed⟩
      · rw [ran] at listed
        cases listed
        rfl
      · rw [failed] at listed
        cases listed
    rw [given]
    refine (nextCursor_none_iff positive).trans ⟨fun whole m mem later => ?_, fun all => ?_⟩
    · show m ∈ (remaining scope s.db cursor).take limit
      rw [whole]
      exact List.mem_filter.mpr ⟨mem, decide_eq_true later⟩
    · apply (List.take_sublist limit _).eq_of_length_le
      have distinct : (remaining scope s.db cursor).Nodup :=
        ((scope.messages_sorted s.db).filter _).imp fun less same => less.ne (congrArg _ same)
      apply (List.subperm_of_subset distinct _).length_le
      intro m mem
      obtain ⟨mem, later⟩ := List.mem_filter.mp mem
      exact all m mem (of_decide_eq_true later)

def threePosts : StoreM Unit := do
  let _ ← MessageStore.postToRoom lobby .alice "one" 0
  let _ ← MessageStore.postToRoom mail .alice "two" 0
  let _ ← MessageStore.postToRoom lobby .alice "three" 0
  let _ ← MessageStore.postToRoom lobby .alice "four" 0

theorem pages_exact_lobby :
    Exact ((Scope.room lobby).messages (threePosts .fresh).2.db) (threePosts .fresh).2
      (follow (.room lobby) 2 4 none (threePosts .fresh).2).1 :=
  (pages_exact (.room lobby) (by decide : 1 ≤ 2) (threePosts .fresh).2 (by decide +kernel)).1 4
    (by decide +kernel)

end SupplyDrop.Proof.Pagination
