import Mathlib
import SupplyDrop.Store.Rooms

namespace SupplyDrop.Proof.RoomWalk
open Library Library.Links Store

def roomLinks (rooms : RowTable RoomRow) : Links RoomId := fun k =>
  (rooms.get? k).map fun r => ⟨r.prevNeighbor, r.nextNeighbor⟩

abbrev links (s : Storage) : Links RoomId := roomLinks s.db.rooms

/-! ## What each statement does to the pointers -/

theorem links_setNextOf {room next : Option RoomId} {s s' : Storage} {u : Unit}
    (h : RoomStore.setNextOf room next s = (.ok u, s')) :
    links s' = Links.setNext (links s) room next := by
  cases room with
  | none =>
      cases h
      exact setNext_none.symm
  | some id =>
      have ran : RoomStore.setNext id next s = (.ok u, s') := h
      have written : s'.db = _ := execute_ok ran
      funext k
      simp only [links, roomLinks, Links.setNext, written, RowTable.get?_update,
        Option.some.injEq]
      split <;> simp [Function.comp_def]

theorem links_setPrevOf {room prev : Option RoomId} {s s' : Storage} {u : Unit}
    (h : RoomStore.setPrevOf room prev s = (.ok u, s')) :
    links s' = Links.setPrev (links s) room prev := by
  cases room with
  | none =>
      cases h
      exact setPrev_none.symm
  | some id =>
      have ran : RoomStore.setPrev id prev s = (.ok u, s') := h
      have written : s'.db = _ := execute_ok ran
      funext k
      simp only [links, roomLinks, Links.setPrev, written, RowTable.get?_update,
        Option.some.injEq]
      split <;> simp [Function.comp_def]

theorem links_setNeighbors {id : RoomId} {prev next : Option RoomId} {s s' : Storage} {u : Unit}
    (h : RoomStore.setNeighbors id prev next s = (.ok u, s')) (present : (links s id).isSome) :
    links s' = Links.put (links s) id ⟨prev, next⟩ := by
  have written : s'.db = _ := execute_ok h
  obtain ⟨l, hl⟩ := Option.isSome_iff_exists.mp present
  obtain ⟨row, hrow, -⟩ := Option.map_eq_some_iff.mp hl
  funext k
  simp only [links, roomLinks, Links.put, written, RowTable.get?_update]
  split
  · next same => simp [same, hrow]
  · rfl

theorem links_insert (rooms : RowTable RoomRow) (row : RoomRow) :
    roomLinks (rooms.insert row) =
      Links.put (roomLinks rooms) (rooms.seq + 1) ⟨row.prevNeighbor, row.nextNeighbor⟩ := by
  funext k
  simp only [roomLinks, Links.put, RowTable.get?_insert]
  split <;> rfl

theorem isSome_setNext (l : Links RoomId) (k v : Option RoomId) (i : RoomId) :
    (Links.setNext l k v i).isSome = (l i).isSome := by
  unfold Links.setNext
  split <;> simp

theorem isSome_setPrev (l : Links RoomId) (k v : Option RoomId) (i : RoomId) :
    (Links.setPrev l k v i).isSome = (l i).isSome := by
  unfold Links.setPrev
  split <;> simp

/-! ## The ends of the walk -/

section Ends
variable {rooms : RowTable RoomRow} {order : List RoomId}

theorem row_of_link {k : RoomId} {l : Link RoomId} (h : roomLinks rooms k = some l) :
    ∃ row, rooms.get? k = some row ∧ l = ⟨row.prevNeighbor, row.nextNeighbor⟩ := by
  obtain ⟨row, stored, rfl⟩ := Option.map_eq_some_iff.mp h
  exact ⟨row, stored, rfl⟩

theorem link_of_row {k : RoomId} {row : RoomRow} (h : rooms.get? k = some row) :
    roomLinks rooms k = some ⟨row.prevNeighbor, row.nextNeighbor⟩ := by
  rw [roomLinks, h]
  rfl

/-- The only row without a next neighbour is the tail. -/
theorem find_tail (h : Walk (roomLinks rooms) order) :
    (rooms.rows.find? fun r => r.2.nextNeighbor.isNone).map (·.1) = order.getLast? := by
  apply RowTable.find?_eq_of_unique
  · intro k row stored
    have mem := (h.covers k).mp (by rw [link_of_row stored]; rfl)
    exact Option.isNone_iff_eq_none.trans (h.next_none_iff mem (link_of_row stored))
  · intro k last
    obtain ⟨l, hl⟩ := Option.isSome_iff_exists.mp ((h.covers k).mpr (List.mem_of_getLast? last))
    obtain ⟨row, stored, -⟩ := row_of_link hl
    rw [stored]
    rfl

/-- With `x` taken out of the walk, the only other row without a previous neighbour is the head. -/
theorem find_head {x : RoomId} (h : Chain (roomLinks rooms) order) (out : x ∉ order)
    (covers : ∀ k, (roomLinks rooms k).isSome → k = x ∨ k ∈ order) :
    (rooms.rows.find? fun r => r.2.prevNeighbor.isNone && r.1 ≠ x).map (·.1) = order.head? := by
  apply RowTable.find?_eq_of_unique
  · intro k row stored
    by_cases same : k = x
    · subst same
      have notHead : order.head? ≠ some k := fun e => out (List.mem_of_head? e)
      simp [notHead]
    · have mem : k ∈ order :=
        (covers k (by rw [link_of_row stored]; rfl)).resolve_left same
      have ends := h.prev_none_iff mem (link_of_row stored)
      simp [same, ends]
  · intro k first
    have linked := h.segment.isSome (List.mem_of_head? first)
    obtain ⟨l, hl⟩ := Option.isSome_iff_exists.mp linked
    obtain ⟨row, stored, -⟩ := row_of_link hl
    rw [stored]
    rfl

end Ends

/-! ## One operation -/

inductive RoomOp where
  | create (name : String) (description : Option String) (readOnly : Bool)
      (minPermissionLevel : PermissionLevel) (createdAt : Timestamp)
  | reorder (roomId : RoomId) (afterId : Option RoomId)
  | delete (id : RoomId)

def RoomOp.run : RoomOp → StoreM (Option RoomId)
  | create name description readOnly level createdAt => do
      let id ← RoomStore.create name description readOnly level createdAt
      pure (some id)
  | reorder roomId afterId => do
      RoomStore.reorder roomId afterId
      pure none
  | delete id => do
      RoomStore.delete id
      pure none

/-- What an operation with this outcome makes of the walk order. -/
def Follows : RoomOp → Except StoreError (Option RoomId) → List RoomId → List RoomId → Prop
  | _, .error _, before, after => after = before
  | .create .., .ok made, before, after =>
      ∃ id, made = some id ∧ id ∉ before ∧ after = before ++ [id]
  | .reorder x none, .ok _, before, after => x ∈ before ∧ after = x :: before.erase x
  | .reorder x (some t), .ok _, before, after =>
      if t = x then after = before
      else x ∈ before ∧ ∃ front back,
        before.erase x = front ++ t :: back ∧ after = front ++ t :: x :: back
  | .delete x, .ok _, before, after => x ∈ before ∧ after = before.erase x

section Operations
variable {s s' : Storage} {order : List RoomId}

theorem create_walk {name : String} {description : Option String} {readOnly : Bool}
    {level : PermissionLevel} {createdAt : Timestamp} {id : RoomId}
    (h : Walk (links s) order)
    (run : RoomStore.create name description readOnly level createdAt s = (.ok id, s')) :
    id ∉ order ∧ Walk (links s') (order ++ [id]) := by
  obtain ⟨s₁, s₂, begun, body, committed⟩ := transaction_ok run
  obtain ⟨tailId, s₃, found, body⟩ := Program.bind_eq_ok body
  obtain ⟨newId, s₄, inserted, body⟩ := Program.bind_eq_ok body
  obtain ⟨_, s₅, joined, body⟩ := Program.bind_eq_ok body
  cases body
  obtain ⟨tail, unread⟩ := query_ok found
  obtain ⟨-, made, filled⟩ := insertRow_ok inserted
  rw [unread, begun] at made filled
  have last : tailId = order.getLast? := by
    rw [tail, begun]
    exact find_tail h
  have fresh : id ∉ order := by
    intro mem
    have stored := (h.covers id).mpr mem
    simp [links, roomLinks, made, RowTable.get?_fresh] at stored
  have surgery : links s' = Links.setNext (Links.put (links s) id ⟨order.getLast?, none⟩)
      order.getLast? (some id) := by
    rw [links, committed, ← links, links_setNextOf joined, links, filled, links_insert, ← made,
      last]
  refine ⟨fresh, ?_, ?_⟩
  · rw [surgery]
    exact h.toChain.append fresh
  · intro k
    rw [surgery, isSome_setNext, Links.put]
    by_cases new : k = id
    · simp [new]
    · simp [new, h.covers k]

/-- Taking a room out of the walk, with its neighbours read from its own row. -/
theorem detach_walk {x : RoomId} {row : RoomRow} {s₁ s₂ : Storage} {u v : Unit}
    (h : Walk (links s) order) (stored : s.db.rooms.get? x = some row)
    (next : RoomStore.setNextOf row.prevNeighbor row.nextNeighbor s = (.ok u, s₁))
    (prev : RoomStore.setPrevOf row.nextNeighbor row.prevNeighbor s₁ = (.ok v, s₂)) :
    x ∈ order ∧ x ∉ order.erase x ∧ Chain (links s₂) (order.erase x) ∧
      ∀ k, (links s₂ k).isSome ↔ k ∈ order := by
  have linked : links s x = some _ := link_of_row stored
  have mem : x ∈ order := (h.covers x).mp (by rw [linked]; rfl)
  obtain ⟨front, back, rfl⟩ := List.append_of_mem mem
  have notFront : x ∉ front := fun hx =>
    List.disjoint_of_nodup_append h.nodup hx List.mem_cons_self
  have erased : (front ++ x :: back).erase x = front ++ back := by
    rw [List.erase_append_right _ notFront, List.erase_cons_head]
  obtain ⟨before, after⟩ := Link.mk.inj (Option.some.inj (linked.symm.trans h.toChain.link))
  have surgery : links s₂ = Links.setPrev (Links.setNext (links s) front.getLast? back.head?)
      back.head? front.getLast? := by
    rw [links_setPrevOf prev, links_setNextOf next, before, after]
  refine ⟨mem, h.nodup.not_mem_erase, ?_, ?_⟩
  · rw [erased, surgery]
    exact h.toChain.detach
  · intro k
    rw [surgery, isSome_setPrev, isSome_setNext]
    exact h.covers k

theorem reorder_front_walk {x : RoomId} {u : Unit} (h : Walk (links s) order)
    (run : RoomStore.reorder x none s = (.ok u, s')) :
    x ∈ order ∧ Walk (links s') (x :: order.erase x) := by
  obtain ⟨s₁, s₂, begun, body, committed⟩ := transaction_ok run
  obtain ⟨row, s₃, found, body⟩ := Program.bind_eq_ok body
  obtain ⟨stored, unread⟩ := query_ok found
  cases row with
  | none => cases body
  | some current =>
      obtain ⟨_, s₄, next, body⟩ := Program.bind_eq_ok body
      obtain ⟨_, s₅, prev, body⟩ := Program.bind_eq_ok body
      obtain ⟨newHead, s₆, sought, body⟩ := Program.bind_eq_ok body
      obtain ⟨_, s₇, pushed, placed⟩ := Program.bind_eq_ok body
      have before : s₃.db = s.db := unread.trans begun
      obtain ⟨mem, out, chain, covers⟩ := detach_walk (s := s₃) (by rwa [links, before])
        (by rw [before, ← begun]; exact stored.symm) next prev
      obtain ⟨head, unread⟩ := query_ok sought
      have first : newHead = (order.erase x).head? := by
        rw [head]
        exact find_head chain out fun k hk =>
          or_iff_not_imp_left.mpr fun other =>
            (List.mem_erase_of_ne other).mpr ((covers k).mp hk)
      have surgery : links s' = Links.put (Links.setPrev (links s₅) (order.erase x).head? (some x))
          x ⟨none, (order.erase x).head?⟩ := by
        have pointed : links s₇ = Links.setPrev (links s₅) newHead (some x) := by
          rw [links_setPrevOf pushed, links, unread]
        have present : (links s₇ x).isSome := by
          rw [pointed, isSome_setPrev]
          exact (covers x).mpr mem
        rw [links, committed, ← links, links_setNeighbors placed present, pointed, first]
      refine ⟨mem, ?_, ?_⟩
      · rw [surgery]
        exact chain.insertFront out
      · intro k
        rw [surgery, Links.put]
        by_cases same : k = x
        · simp [same]
        · simp [same, isSome_setPrev, covers k, List.mem_erase_of_ne same]

theorem reorder_after_walk {x t : RoomId} {u : Unit} (h : Walk (links s) order) (other : t ≠ x)
    (run : RoomStore.reorder x (some t) s = (.ok u, s')) :
    x ∈ order ∧ ∃ front back, order.erase x = front ++ t :: back ∧
      Walk (links s') (front ++ t :: x :: back) := by
  rw [RoomStore.reorder, if_neg (by simpa using other)] at run
  obtain ⟨s₁, s₂, begun, body, committed⟩ := transaction_ok run
  obtain ⟨row, s₃, found, body⟩ := Program.bind_eq_ok body
  obtain ⟨stored, unread⟩ := query_ok found
  cases row with
  | none => cases body
  | some current =>
      obtain ⟨_, s₄, next, body⟩ := Program.bind_eq_ok body
      obtain ⟨_, s₅, prev, body⟩ := Program.bind_eq_ok body
      obtain ⟨targetRow, s₆, sought, body⟩ := Program.bind_eq_ok body
      have before : s₃.db = s.db := unread.trans begun
      obtain ⟨mem, out, chain, covers⟩ := detach_walk (s := s₃) (by rwa [links, before])
        (by rw [before, ← begun]; exact stored.symm) next prev
      obtain ⟨target, unread⟩ := query_ok sought
      cases targetRow with
      | none => cases body
      | some targetNext =>
          obtain ⟨_, s₇, pushed, body⟩ := Program.bind_eq_ok body
          obtain ⟨_, s₈, pulled, placed⟩ := Program.bind_eq_ok body
          obtain ⟨row, hit, rfl⟩ := Option.map_eq_some_iff.mp target.symm
          have linked := link_of_row hit
          have inside : t ∈ order.erase x :=
            (List.mem_erase_of_ne other).mpr ((covers t).mp (by rw [links, linked]; rfl))
          obtain ⟨front, back, split⟩ := List.append_of_mem inside
          rw [split] at chain out
          have after : row.nextNeighbor = back.head? :=
            (Link.mk.inj (Option.some.inj (linked.symm.trans chain.link))).2
          have surgery : links s' = Links.put (Links.setNext (Links.setPrev (links s₅) back.head?
              (some x)) (some t) (some x)) x ⟨some t, back.head?⟩ := by
            have pointed : links s₈ = Links.setNext (Links.setPrev (links s₅) row.nextNeighbor
                (some x)) (some t) (some x) := by
              have pulledOf : RoomStore.setNextOf (some t) (some x) s₇ = _ := pulled
              rw [links_setNextOf pulledOf, links_setPrevOf pushed, links, unread]
            have present : (links s₈ x).isSome := by
              rw [pointed, isSome_setNext, isSome_setPrev]
              exact (covers x).mpr mem
            rw [links, committed, ← links, links_setNeighbors placed present, pointed, after]
          refine ⟨mem, front, back, split, ?_, ?_⟩
          · rw [surgery]
            exact chain.insertAfter out
          · intro k
            rw [surgery, Links.put]
            have listed : k ∈ front ++ t :: x :: back ↔ k = x ∨ k ∈ front ++ t :: back := by
              simp
              tauto
            rw [listed, ← split]
            by_cases same : k = x
            · simp [same]
            · simp [same, isSome_setNext, isSome_setPrev, covers k, List.mem_erase_of_ne same]

theorem delete_walk {x : RoomId} {u : Unit} (h : Walk (links s) order)
    (run : RoomStore.delete x s = (.ok u, s')) :
    x ∈ order ∧ Walk (links s') (order.erase x) := by
  obtain ⟨s₁, s₂, begun, body, committed⟩ := transaction_ok run
  obtain ⟨row, s₃, found, body⟩ := Program.bind_eq_ok body
  obtain ⟨stored, unread⟩ := query_ok found
  cases row with
  | none => cases body
  | some current =>
      obtain ⟨_, s₄, next, body⟩ := Program.bind_eq_ok body
      obtain ⟨_, s₅, prev, gone⟩ := Program.bind_eq_ok body
      have before : s₃.db = s.db := unread.trans begun
      obtain ⟨mem, out, chain, covers⟩ := detach_walk (s := s₃) (by rwa [links, before])
        (by rw [before, ← begun]; exact stored.symm) next prev
      have written : s₂.db = _ := execute_ok gone
      have surgery (k : RoomId) : links s' k = if k = x then none else (links s₅ k).map fun l =>
          ⟨RoomStore.unlink x l.prev, RoomStore.unlink x l.next⟩ := by
        simp only [links, roomLinks, committed, written, RowTable.get?_map, RowTable.get?_erase]
        split <;> simp [Function.comp_def]
      refine ⟨mem, ⟨chain.nodup, chain.segment.congr fun y hy => ?_⟩, fun k => ?_⟩
      · obtain ⟨front, back, split⟩ := List.append_of_mem hy
        rw [split] at chain out
        have notX : y ≠ x := by
          rintro rfl
          simp at out
        have prevNot : front.getLast? ≠ some x := fun e =>
          out (List.mem_append_left _ (List.mem_of_getLast? e))
        have nextNot : back.head? ≠ some x := fun e =>
          out (List.mem_append_right _ (List.mem_cons_of_mem _ (List.mem_of_head? e)))
        rw [surgery, if_neg notX, chain.link]
        simp [RoomStore.unlink, prevNot, nextNot]
      · rw [surgery]
        by_cases same : k = x
        · simp [same, h.nodup.not_mem_erase]
        · simp [same, covers k, List.mem_erase_of_ne same]

theorem op_unchanged {op : RoomOp} {e : StoreError} (failed : (op.run s).1 = .error e) :
    (op.run s).2.db = s.db := by
  have undone {α β : Type} (m : StoreM α) (f : α → StoreM β) (hf : ∀ a t, ∃ b, f a t = (.ok b, t))
      (kept : ∀ e, (m s).1 = .error e → (m s).2.db = s.db)
      (failed : ((m >>= f) s).1 = .error e) : ((m >>= f) s).2.db = s.db := by
    rw [Program.bind_apply] at failed ⊢
    rcases ran : m s with ⟨r, t⟩
    rw [ran] at failed kept
    cases r with
    | error e' => exact kept e' rfl
    | ok a =>
        obtain ⟨b, done⟩ := hf a t
        simp [done] at failed
  cases op with
  | create name description readOnly level createdAt =>
      exact undone _ _ (fun a t => ⟨some a, rfl⟩) (fun e h => transaction_error h) failed
  | reorder x after =>
      refine undone _ _ (fun a t => ⟨none, rfl⟩) (fun e h => ?_) failed
      unfold RoomStore.reorder at h ⊢
      split at h
      · cases h
      · next other =>
          rw [if_neg other]
          exact transaction_error h
  | delete x => exact undone _ _ (fun a t => ⟨none, rfl⟩) (fun e h => transaction_error h) failed

theorem op_walk (op : RoomOp) (h : Walk (links s) order) :
    ∃ order', Follows op (op.run s).1 order order' ∧ Walk (links (op.run s).2) order' := by
  rcases ran : op.run s with ⟨outcome, s'⟩
  cases outcome with
  | error e =>
      have kept := op_unchanged (congrArg Prod.fst ran)
      rw [ran] at kept
      exact ⟨order, by cases op <;> trivial, by rwa [links, kept]⟩
  | ok made =>
      cases op with
      | create name description readOnly level createdAt =>
          obtain ⟨id, s₁, created, rest⟩ := Program.bind_eq_ok ran
          cases rest
          obtain ⟨fresh, walk⟩ := create_walk h created
          exact ⟨order ++ [id], ⟨id, rfl, fresh, rfl⟩, walk⟩
      | reorder x after =>
          obtain ⟨u, s₁, moved, rest⟩ := Program.bind_eq_ok ran
          cases rest
          cases after with
          | none =>
              obtain ⟨mem, walk⟩ := reorder_front_walk h moved
              exact ⟨_, ⟨mem, rfl⟩, walk⟩
          | some t =>
              by_cases same : t = x
              · have still : s' = s := by
                  rw [RoomStore.reorder, if_pos (congrArg some same)] at moved
                  exact (congrArg Prod.snd moved).symm
                exact ⟨order, by simp [Follows, same], by rwa [still]⟩
              · obtain ⟨mem, front, back, split, walk⟩ := reorder_after_walk h same moved
                refine ⟨_, ?_, walk⟩
                rw [Follows, if_neg same]
                exact ⟨mem, front, back, split, rfl⟩
      | delete x =>
          obtain ⟨u, s₁, removed, rest⟩ := Program.bind_eq_ok ran
          cases rest
          obtain ⟨mem, walk⟩ := delete_walk h removed
          exact ⟨_, ⟨mem, rfl⟩, walk⟩

end Operations

/-! ## The listing -/

section Listing
variable {rooms : RowTable RoomRow}

/-- `listed` has the room records of exactly the ids in `order`. -/
def Records (rooms : RowTable RoomRow) (listed : List Room) (order : List RoomId) : Prop :=
  ∀ r, r ∈ listed ↔ rooms.get? r.id = some r.toRoomRow ∧ r.id ∈ order

theorem walkFrom_segment {fuel : Nat} {listed : List Room} {p : Option RoomId} {x : RoomId}
    {ys : List RoomId} (segment : Segment (roomLinks rooms) p (x :: ys) none)
    (nodup : (x :: ys).Nodup) (records : Records rooms listed (x :: ys))
    (enough : (x :: ys).length ≤ fuel) :
    ∃ ordered, RoomStore.walkFrom fuel listed x = .ok (ordered, []) ∧
      ordered.map (·.id) = x :: ys := by
  induction fuel generalizing listed p x ys with
  | zero => simp at enough
  | succ fuel ih =>
      obtain ⟨linked, rest⟩ := segment
      obtain ⟨fresh, nodup⟩ := List.nodup_cons.mp nodup
      obtain ⟨row, stored, neighbors⟩ := row_of_link linked
      have next : row.nextNeighbor = ys.head? := by
        have := (Link.mk.inj neighbors).2
        rw [← this]
        simp
      have found : listed.find? (fun r => r.id = x) = some (mapRoomRow x row) := by
        have mem : mapRoomRow x row ∈ listed := (records _).mpr ⟨stored, List.mem_cons_self⟩
        cases hit : listed.find? (fun r => r.id = x) with
        | none => simpa [mapRoomRow] using List.find?_eq_none.mp hit _ mem
        | some r =>
            have same : r.id = x := by simpa using List.find?_some hit
            have row' := ((records r).mp (List.mem_of_find?_eq_some hit)).1
            rw [same, stored] at row'
            cases r
            cases same
            cases row'
            rfl
      have remaining : Records rooms (listed.filter fun r => r.id ≠ x) ys := by
        intro r
        rw [List.mem_filter, records r, List.mem_cons]
        constructor
        · rintro ⟨⟨stored, here⟩, other⟩
          exact ⟨stored, here.resolve_left (by simpa using other)⟩
        · rintro ⟨stored, later⟩
          have other : r.id ≠ x := fun e => fresh (e ▸ later)
          exact ⟨⟨stored, .inr later⟩, by simpa using other⟩
      rw [RoomStore.walkFrom, found]
      cases ys with
      | nil =>
          have none_left : (listed.filter fun r => r.id ≠ x) = [] :=
            List.eq_nil_iff_forall_not_mem.mpr fun r hr => by simpa using ((remaining r).mp hr).2
          refine ⟨[mapRoomRow x row], ?_, rfl⟩
          simp only [mapRoomRow, next, List.head?_nil, none_left]
      | cons y ys =>
          obtain ⟨ordered, walked, ids⟩ := ih rest nodup remaining (by simpa using enough)
          refine ⟨mapRoomRow x row :: ordered, ?_, by simp [ids, mapRoomRow]⟩
          simp only [mapRoomRow, next, List.head?_cons, walked]
          rfl

/-- `list_in_order` shows every room once, in the order of the walk. -/
theorem inOrder_walk {order : List RoomId} (h : Walk (roomLinks rooms) order) :
    ∃ ordered, RoomStore.inOrder (rooms.rows.map fun r => mapRoomRow r.1 r.2) = .ok ordered ∧
      ordered.map (·.id) = order := by
  have records : Records rooms (rooms.rows.map fun r => mapRoomRow r.1 r.2) order := by
    intro r
    have stored : r ∈ rooms.rows.map (fun r => mapRoomRow r.1 r.2) ↔
        rooms.get? r.id = some r.toRoomRow := by
      rw [← RowTable.mem_rows_iff, List.mem_map]
      constructor
      · rintro ⟨⟨id, row⟩, mem, rfl⟩
        exact mem
      · exact fun mem => ⟨(r.id, r.toRoomRow), mem, rfl⟩
    rw [stored, iff_self_and]
    intro here
    exact (h.covers r.id).mp (by rw [link_of_row here]; rfl)
  have first : (rooms.rows.find? fun r => r.2.prevNeighbor.isNone).map (·.1) = order.head? := by
    apply RowTable.find?_eq_of_unique
    · intro k row stored
      have mem := (h.covers k).mp (by rw [link_of_row stored]; rfl)
      exact Option.isNone_iff_eq_none.trans (h.prev_none_iff mem (link_of_row stored))
    · intro k first
      obtain ⟨l, hl⟩ := Option.isSome_iff_exists.mp ((h.covers k).mpr (List.mem_of_head? first))
      obtain ⟨row, stored, -⟩ := row_of_link hl
      rw [stored]
      rfl
  have enough : order.length ≤ (rooms.rows.map fun r => mapRoomRow r.1 r.2).length := by
    have inside : order ⊆ rooms.keys := by
      intro k hk
      have linked := (h.covers k).mpr hk
      rw [roomLinks, Option.isSome_map] at linked
      exact (rooms.mem_keys_iff k).mpr linked
    simpa [RowTable.keys] using (h.nodup.subperm inside).length_le
  rw [RoomStore.inOrder, List.find?_map, Function.comp_def]
  simp only [mapRoomRow] at records enough ⊢
  cases order with
  | nil =>
      rw [List.head?_nil, Option.map_eq_none_iff] at first
      rw [first]
      refine ⟨_, rfl, ?_⟩
      rw [List.map_eq_nil_iff, List.eq_nil_iff_forall_not_mem]
      exact fun r hr => by simpa using ((records r).mp hr).2
  | cons x ys =>
      obtain ⟨r, found, rfl⟩ := Option.map_eq_some_iff.mp first
      obtain ⟨ordered, walked, ids⟩ := walkFrom_segment h.segment h.nodup records enough
      rw [found]
      refine ⟨ordered, ?_, ids⟩
      simp only [Option.map_some, walked]
      exact congrArg Except.ok (List.append_nil _)

end Listing

/-! ## Whole runs -/

/-- Running `ops` from a store whose rooms form the walk `order`, every step ends in a walk again,
the one its operation asks for, and a step that failed left the rooms as they were. -/
def Walks : List RoomOp → Storage → List RoomId → Prop
  | [], s, order => Walk (links s) order
  | op :: ops, s, order =>
      Walk (links s) order ∧
      (∀ e, (op.run s).1 = .error e → (op.run s).2.db.rooms = s.db.rooms) ∧
      ∃ order', Follows op (op.run s).1 order order' ∧ Walks ops (op.run s).2 order'

theorem seedRooms_walk : Walk (roomLinks seedRooms) [lobby, mail, aides, 4, 5] where
  nodup := by decide
  segment := by simp [Segment, roomLinks, RowTable.get?, seedRooms, lobby, mail, aides]
  covers k := by
    rw [roomLinks, Option.isSome_map, ← RowTable.mem_keys_iff]
    rfl

end SupplyDrop.Proof.RoomWalk
