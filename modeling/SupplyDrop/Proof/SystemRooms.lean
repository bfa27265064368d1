import Mathlib
import SupplyDrop.Migrations.SystemRooms
import SupplyDrop.Proof.RoomWalk

namespace SupplyDrop.Proof.SystemRooms
open Library Library.Links Store Migrations RoomWalk

/-! ## Pointers of a walk -/

section Pointers
variable {links : Links RoomId} {order : List RoomId} {x y : RoomId} {l : Link RoomId}

theorem next_prev (walk : Walk links order) (here : links x = some l) (next : l.next = some y) :
    ∃ l', links y = some l' ∧ l'.prev = some x := by
  have mem : x ∈ order := (walk.covers x).mp (by rw [here]; rfl)
  obtain ⟨front, back, rfl⟩ := List.append_of_mem mem
  obtain rfl := Option.some.inj (here.symm.trans walk.toChain.link)
  cases back with
  | nil => cases next
  | cons z back =>
      obtain rfl : z = y := Option.some.inj next
      have split : front ++ x :: z :: back = (front ++ [x]) ++ z :: back := by simp
      have chain := walk.toChain
      rw [split] at chain
      exact ⟨_, chain.link, by simp⟩

theorem prev_next (walk : Walk links order) (here : links y = some l) (prev : l.prev = some x) :
    ∃ l', links x = some l' ∧ l'.next = some y := by
  have mem : y ∈ order := (walk.covers y).mp (by rw [here]; rfl)
  obtain ⟨front, back, rfl⟩ := List.append_of_mem mem
  obtain rfl := Option.some.inj (here.symm.trans walk.toChain.link)
  obtain ⟨front, rfl⟩ := List.getLast?_eq_some_iff.mp prev
  have split : front ++ [x] ++ y :: back = front ++ x :: y :: back := by simp
  have chain := walk.toChain
  rw [split] at chain
  exact ⟨_, chain.link, by simp⟩

end Pointers

section Rows
variable {rooms : RowTable RoomRow} {order : List RoomId} {x y : RoomId} {row : RoomRow}

theorem next_points_back (walk : Walk (roomLinks rooms) order) (stored : rooms.get? x = some row)
    (next : row.nextNeighbor = some y) :
    ∃ row', rooms.get? y = some row' ∧ row'.prevNeighbor = some x := by
  obtain ⟨l, linked, prev⟩ := next_prev walk (link_of_row stored) next
  obtain ⟨row', stored', rfl⟩ := row_of_link linked
  exact ⟨row', stored', prev⟩

theorem prev_points_on (walk : Walk (roomLinks rooms) order) (stored : rooms.get? y = some row)
    (prev : row.prevNeighbor = some x) :
    ∃ row', rooms.get? x = some row' ∧ row'.nextNeighbor = some y := by
  obtain ⟨l, linked, next⟩ := prev_next walk (link_of_row stored) prev
  obtain ⟨row', stored', rfl⟩ := row_of_link linked
  exact ⟨row', stored', next⟩

theorem enforce_of_present (h : ∀ k row n, rooms.get? k = some row →
    row.prevNeighbor = some n ∨ row.nextNeighbor = some n → (rooms.get? n).isSome) :
    enforceNeighbors rooms = .ok rooms := by
  unfold enforceNeighbors
  rw [if_neg]
  rw [List.any_eq_true]
  rintro ⟨⟨k, row⟩, mem, dangling⟩
  have stored := (rooms.mem_rows_iff k row).mp mem
  have there (e : Option RoomId) (mine : ∀ n, e = some n → (rooms.get? n).isSome) :
      dangles rooms e = false := by
    cases e with
    | none => rfl
    | some n =>
        have present := mine n rfl
        rw [Option.isSome_iff_ne_none] at present
        simpa [dangles, Option.isSome_iff_ne_none] using present
  have prev := there row.prevNeighbor fun n e => h k row n stored (.inl e)
  have next := there row.nextNeighbor fun n e => h k row n stored (.inr e)
  simp [prev, next] at dangling

/-- Both neighbours of every room of a walk are there. -/
theorem neighbor_present (walk : Walk (roomLinks rooms) order) (stored : rooms.get? x = some row)
    (neighbor : row.prevNeighbor = some y ∨ row.nextNeighbor = some y) :
    (rooms.get? y).isSome := by
  rcases neighbor with prev | next
  · obtain ⟨row', there, -⟩ := prev_points_on walk stored prev
    rw [there]
    rfl
  · obtain ⟨row', there, -⟩ := next_points_back walk stored next
    rw [there]
    rfl

theorem enforce_walk (walk : Walk (roomLinks rooms) order) : enforceNeighbors rooms = .ok rooms :=
  enforce_of_present fun _ _ _ stored neighbor => neighbor_present walk stored neighbor

theorem enforce_ok {rooms rooms' : RowTable RoomRow} (h : enforceNeighbors rooms = .ok rooms') :
    rooms' = rooms := by
  unfold enforceNeighbors at h
  split at h
  · cases h
  · cases h
    rfl

end Rows

/-! ## `verify_room_walk_order` accepts a walk -/

section Verify
variable {rooms : RowTable RoomRow} {order : List RoomId}

theorem length_walk (walk : Walk (roomLinks rooms) order) : rooms.rows.length = order.length := by
  have same : rooms.keys.Perm order := by
    rw [List.perm_ext_iff_of_nodup rooms.keys_nodup walk.nodup]
    intro k
    rw [rooms.mem_keys_iff, ← walk.covers k, roomLinks, Option.isSome_map]
  simpa [RowTable.keys] using same.length_eq

/-- Counting the rows at an end of the walk. -/
theorem countP_end {p : RoomRow → Bool} {e : Option RoomId}
    (ends : ∀ k row, rooms.get? k = some row → (p row = true ↔ e = some k))
    (present : ∀ k, e = some k → (rooms.get? k).isSome) :
    rooms.rows.countP (fun r => p r.2) = e.toList.length := by
  have count : rooms.rows.countP (fun r => p r.2) = rooms.keys.countP fun k => e = some k := by
    unfold RowTable.keys
    rw [List.countP_map]
    apply List.countP_congr
    intro r mem
    have stored := (rooms.mem_rows_iff r.1 r.2).mp mem
    simpa using ends r.1 r.2 stored
  rw [count]
  cases e with
  | none => simp
  | some k =>
      have mem : k ∈ rooms.keys := (rooms.mem_keys_iff k).mpr (present k rfl)
      have once := List.count_eq_one_of_mem rooms.keys_nodup mem
      simp only [Option.some.injEq, Option.toList_some, List.length_singleton]
      rw [← once, List.count]
      apply List.countP_congr
      intro i _
      rw [decide_eq_true_eq, beq_iff_eq]
      exact eq_comm

theorem countP_heads (walk : Walk (roomLinks rooms) order) :
    rooms.rows.countP (fun r => r.2.prevNeighbor.isNone) = order.head?.toList.length := by
  apply countP_end (p := fun row => row.prevNeighbor.isNone)
  · intro k row stored
    have mem := (walk.covers k).mp (by rw [link_of_row stored]; rfl)
    exact Option.isNone_iff_eq_none.trans (walk.prev_none_iff mem (link_of_row stored))
  · intro k first
    have linked := (walk.covers k).mpr (List.mem_of_head? first)
    rwa [roomLinks, Option.isSome_map] at linked

theorem countP_tails (walk : Walk (roomLinks rooms) order) :
    rooms.rows.countP (fun r => r.2.nextNeighbor.isNone) = order.getLast?.toList.length := by
  apply countP_end (p := fun row => row.nextNeighbor.isNone)
  · intro k row stored
    have mem := (walk.covers k).mp (by rw [link_of_row stored]; rfl)
    exact Option.isNone_iff_eq_none.trans (walk.next_none_iff mem (link_of_row stored))
  · intro k last
    have linked := (walk.covers k).mpr (List.mem_of_getLast? last)
    rwa [roomLinks, Option.isSome_map] at linked

theorem headOf_walk (walk : Walk (roomLinks rooms) order) : headOf rooms = order.head? := by
  apply RowTable.find?_eq_of_unique
  · intro k row stored
    have mem := (walk.covers k).mp (by rw [link_of_row stored]; rfl)
    rw [← walk.prev_none_iff mem (link_of_row stored)]
    have pointed : (rooms.rows.any fun r => r.2.nextNeighbor = some k) = true ↔
        row.prevNeighbor ≠ none := by
      rw [List.any_eq_true]
      constructor
      · rintro ⟨⟨i, row'⟩, mem', next⟩
        have stored' := (rooms.mem_rows_iff i row').mp mem'
        obtain ⟨row'', again, prev⟩ := next_points_back walk stored' (by simpa using next)
        obtain rfl := Option.some.inj (stored.symm.trans again)
        simp [prev]
      · intro some_prev
        obtain ⟨i, prev⟩ := Option.ne_none_iff_exists'.mp some_prev
        obtain ⟨row', stored', next⟩ := prev_points_on walk stored prev
        exact ⟨(i, row'), (rooms.mem_rows_iff i row').mpr stored', by simp [next]⟩
    simp only [Bool.not_eq_true', ← Bool.not_eq_true, pointed, not_not]
  · intro k first
    have linked := (walk.covers k).mpr (List.mem_of_head? first)
    rwa [roomLinks, Option.isSome_map] at linked

theorem visitFrom_segment {p : Option RoomId} {x : RoomId} {ys : List RoomId} (visited : List RoomId)
    (fuel : Nat) (segment : Segment (roomLinks rooms) p (x :: ys) none) (nodup : (x :: ys).Nodup)
    (fresh : ∀ y ∈ x :: ys, y ∉ visited)
    (room : visited.length + (x :: ys).length ≤ rooms.rows.length)
    (enough : ys.length < fuel) :
    visitFrom rooms fuel visited x = .ok ((x :: ys).reverse ++ visited) := by
  induction ys generalizing p x visited fuel with
  | nil =>
      obtain ⟨fuel, rfl⟩ := Nat.exists_eq_succ_of_ne_zero (Nat.ne_of_gt enough)
      obtain ⟨row, stored, neighbors⟩ := row_of_link segment.1
      have last : row.nextNeighbor = none := (Link.mk.inj neighbors).2.symm
      have new : x ∉ visited := fresh x List.mem_cons_self
      simp [visitFrom, new, stored, last]
  | cons y ys ih =>
      obtain ⟨fuel, rfl⟩ := Nat.exists_eq_succ_of_ne_zero (Nat.ne_of_gt (Nat.zero_lt_of_lt enough))
      obtain ⟨row, stored, neighbors⟩ := row_of_link segment.1
      obtain ⟨notLater, rest⟩ := List.nodup_cons.mp nodup
      have next : row.nextNeighbor = some y := (Link.mk.inj neighbors).2.symm
      have new : x ∉ visited := fresh x List.mem_cons_self
      simp only [List.length_cons] at room enough
      have short : ¬ rooms.rows.length < (x :: visited).length := by
        simp only [List.length_cons]
        omega
      have later : ∀ z ∈ y :: ys, z ∉ x :: visited := by
        intro z hz again
        rcases List.mem_cons.mp again with rfl | old
        · exact notLater hz
        · exact fresh z (List.mem_cons_of_mem _ hz) old
      have walked := ih (x :: visited) fuel segment.2 rest later
        (by simp only [List.length_cons]; omega) (by omega)
      simp only [visitFrom, stored, Option.bind_some, next, List.contains_eq_mem, new,
        decide_false, Bool.false_eq_true, if_false, if_neg short, walked]
      simp

theorem verify_walk (walk : Walk (roomLinks rooms) order) :
    verifyRoomWalkOrder rooms = .ok () := by
  have heads := countP_heads walk
  have tails := countP_tails walk
  have total := length_walk walk
  have reach : verifyReach rooms = .ok () := by
    unfold verifyReach
    rw [headOf_walk walk]
    cases order with
    | nil => rfl
    | cons x ys =>
        have visited := visitFrom_segment [] (rooms.rows.length + 2) walk.segment walk.nodup
          (by simp) (by simp [total]) (by simp only [List.length_cons] at total; omega)
        simp only [List.head?_cons, visited, bind, Except.bind]
        simp [total]
  have few (e : Option RoomId) : e.toList.length ≤ 1 := by cases e <;> simp
  have ends : order.head?.toList.length = order.getLast?.toList.length := by
    cases order with
    | nil => rfl
    | cons x ys => simp [List.getLast?_cons]
  unfold verifyRoomWalkOrder
  rw [heads, tails, if_neg (not_lt.mpr (few _)), if_neg (not_lt.mpr (few _)),
    if_neg (not_not.mpr ends), reach]
  split <;> rfl

end Verify

/-! ## The migration -/

section Migration
variable {rooms rooms' : RowTable RoomRow} {order : List RoomId}

/-- Every room is reached by the walk, which start-up accepts and the listing follows. -/
def Listed (rooms : RowTable RoomRow) : Prop :=
  ∃ order, Walk (roomLinks rooms) order ∧ verifyRoomWalkOrder rooms = .ok () ∧
    ∃ listed, RoomStore.inOrder (rooms.rows.map fun r => mapRoomRow r.1 r.2) = .ok listed ∧
      listed.map (·.id) = order

theorem listed_of_walk (walk : Walk (roomLinks rooms) order) : Listed rooms :=
  ⟨order, walk, verify_walk walk, inOrder_walk walk⟩

def AidesLast (rooms : RowTable RoomRow) : Prop :=
  ∃ row, rooms.get? aides = some row ∧ row.nextNeighbor = none

/-- The rooms the migration was written for, or rooms it leaves alone. -/
def Ready (rooms : RowTable RoomRow) : Prop :=
  (ignored rooms sysop sysopRow = false ∧ ignored rooms system systemRow = false ∧
    AidesLast rooms) ∨
  (ignored rooms sysop sysopRow = true ∧ ignored rooms system systemRow = true ∧
    ¬ AidesLast rooms)

theorem absent_of_not_ignored {id : RoomId} {row : RoomRow} (h : ignored rooms id row = false) :
    rooms.get? id = none := by
  have absent := (Bool.or_eq_false_iff.mp h).1
  simpa using absent

theorem get?_insertOrIgnore (id : RoomId) (row : RoomRow) (k : RoomId) :
    (insertOrIgnore rooms id row).get? k =
      if k = id ∧ ignored rooms id row = false then some row else rooms.get? k := by
  unfold insertOrIgnore
  by_cases skip : ignored rooms id row = true
  · simp [skip]
  · simp [skip, RowTable.get?_place]

/-- The row of the Sysop room takes neither the id nor the name of the row of the System room. -/
theorem ignored_after_sysop :
    ignored (insertOrIgnore rooms sysop sysopRow) system systemRow =
      ignored rooms system systemRow := by
  unfold insertOrIgnore
  split
  · rfl
  · next free =>
    have absent := absent_of_not_ignored (Bool.not_eq_true _ ▸ free)
    unfold ignored
    congr 1
    · rw [RowTable.get?_place, if_neg (by decide)]
    · rw [Bool.eq_iff_iff, List.any_eq_true, List.any_eq_true]
      constructor
      · rintro ⟨⟨k, row⟩, mem, same⟩
        rw [RowTable.mem_rows_iff, RowTable.get?_place] at mem
        split at mem
        · cases mem
          simp [sysopRow, systemRow] at same
        · exact ⟨(k, row), (rooms.mem_rows_iff k row).mpr mem, same⟩
      · rintro ⟨⟨k, row⟩, mem, same⟩
        have stored := (rooms.mem_rows_iff k row).mp mem
        refine ⟨(k, row), ?_, same⟩
        rw [RowTable.mem_rows_iff, RowTable.get?_place, if_neg]
        · exact stored
        · rintro rfl
          rw [absent] at stored
          cases stored

def seeded (rooms : RowTable RoomRow) : RowTable RoomRow :=
  insertOrIgnore (insertOrIgnore rooms sysop sysopRow) system systemRow

theorem get?_seeded (k : RoomId) :
    (seeded rooms).get? k =
      if k = system ∧ ignored rooms system systemRow = false then some systemRow
      else if k = sysop ∧ ignored rooms sysop sysopRow = false then some sysopRow
      else rooms.get? k := by
  rw [seeded, get?_insertOrIgnore, ignored_after_sysop, get?_insertOrIgnore]

theorem get?_stitch (k : RoomId) :
    (stitch rooms).get? k = if k = aides then (rooms.get? k).map fun r =>
      if r.nextNeighbor.isNone then { r with nextNeighbor := some sysop } else r
    else rooms.get? k := RowTable.get?_update _ _ _ _

theorem addSystemRooms_ok (h : addSystemRooms rooms = .ok rooms') :
    rooms' = (stitch (seeded rooms)).atLeast 5 := by
  unfold addSystemRooms at h
  cases first : enforceNeighbors (seeded rooms) with
  | error e =>
      rw [seeded] at first
      simp [first, bind, Except.bind] at h
  | ok middle =>
      have same := enforce_ok first
      rw [seeded] at first
      cases second : enforceNeighbors (stitch middle) with
      | error e => simp [first, second, bind, Except.bind] at h
      | ok last =>
          simp only [first, second, bind, Except.bind, pure, Except.pure, Except.ok.injEq] at h
          rw [← h, enforce_ok second, same]

/-- Away from the foot of the Aides room the migrated rows are the seeded ones. -/
theorem get?_migrated (h : addSystemRooms rooms = .ok rooms') {k : RoomId} (other : k ≠ aides) :
    rooms'.get? k = (seeded rooms).get? k := by
  rw [addSystemRooms_ok h, RowTable.get?_atLeast, get?_stitch, if_neg other]

theorem get?_aides (h : addSystemRooms rooms = .ok rooms') :
    rooms'.get? aides = (rooms.get? aides).map fun r =>
      if r.nextNeighbor.isNone then { r with nextNeighbor := some sysop } else r := by
  have kept : (seeded rooms).get? aides = rooms.get? aides := by
    rw [get?_seeded, if_neg (fun e => absurd e.1 (by decide)),
      if_neg (fun e => absurd e.1 (by decide))]
  rw [addSystemRooms_ok h, RowTable.get?_atLeast, get?_stitch, if_pos rfl, kept]

/-! ## Rooms the migration breaks -/

theorem ready_of_walk (before : Walk (roomLinks rooms) order)
    (h : addSystemRooms rooms = .ok rooms') {order' : List RoomId}
    (after : Walk (roomLinks rooms') order') : Ready rooms := by
  have atSysop := (get?_migrated h (k := sysop) (by decide)).trans (get?_seeded sysop)
  have atSystem := (get?_migrated h (k := system) (by decide)).trans (get?_seeded system)
  have notSystem : ¬ sysop = system := by decide
  have notSysop : ¬ system = sysop := by decide
  cases four : ignored rooms sysop sysopRow with
  | false =>
      have placed : rooms'.get? sysop = some sysopRow := by simpa [four, notSystem] using atSysop
      obtain ⟨row, there, back⟩ := next_points_back after placed rfl
      cases five : ignored rooms system systemRow with
      | false =>
          refine .inl ⟨four, five, ?_⟩
          obtain ⟨row, foot, next⟩ := prev_points_on after placed rfl
          rw [get?_aides h] at foot
          obtain ⟨old, stored, rfl⟩ := Option.map_eq_some_iff.mp foot
          refine ⟨old, stored, ?_⟩
          by_contra more
          simp only [Option.isNone_iff_eq_none, more, if_false] at next
          obtain ⟨_, present, -⟩ := next_points_back before stored next
          simp [absent_of_not_ignored four] at present
      | true =>
          -- the System room was there before, after a Sysop room that was not
          have old : rooms.get? system = some row := by
            rw [atSystem] at there
            simpa [five, notSysop] using there
          obtain ⟨_, present, -⟩ := prev_points_on before old back
          simp [absent_of_not_ignored four] at present
  | true =>
      cases five : ignored rooms system systemRow with
      | false =>
          have placed : rooms'.get? system = some systemRow := by simpa [five] using atSystem
          obtain ⟨row, there, next⟩ := prev_points_on after placed rfl
          have old : rooms.get? sysop = some row := by
            rw [atSysop] at there
            simpa [four, notSystem] using there
          obtain ⟨_, present, -⟩ := next_points_back before old next
          simp [absent_of_not_ignored five] at present
      | true =>
          refine .inr ⟨four, five, ?_⟩
          rintro ⟨foot, stored, last⟩
          have stitched : rooms'.get? aides = some { foot with nextNeighbor := some sysop } := by
            simp [get?_aides h, stored, last]
          obtain ⟨row, there, back⟩ := next_points_back after stitched rfl
          have old : rooms.get? sysop = some row := by
            rw [atSysop] at there
            simpa [four, notSystem] using there
          obtain ⟨row', again, next⟩ := prev_points_on before old back
          obtain rfl := Option.some.inj (stored.symm.trans again)
          rw [last] at next
          cases next

/-! ## Rooms the migration leaves in order -/

theorem addSystemRooms_alone (before : Walk (roomLinks rooms) order)
    (four : ignored rooms sysop sysopRow = true) (five : ignored rooms system systemRow = true)
    (more : ¬ AidesLast rooms) :
    ∃ rooms', addSystemRooms rooms = .ok rooms' ∧ Walk (roomLinks rooms') order := by
  have same : seeded rooms = rooms := by
    simp [seeded, insertOrIgnore, four, five]
  have still : roomLinks (stitch rooms) = roomLinks rooms := by
    funext k
    unfold roomLinks
    rw [get?_stitch]
    split
    · next here =>
      subst here
      cases stored : rooms.get? aides with
      | none => rfl
      | some row =>
          have goesOn : row.nextNeighbor ≠ none := fun last => more ⟨row, stored, last⟩
          simp [goesOn]
    · rfl
  have walk : Walk (roomLinks (stitch rooms)) order := by rwa [still]
  refine ⟨(stitch rooms).atLeast 5, ?_, walk⟩
  have first := enforce_walk before
  rw [← same, seeded] at first
  simp only [addSystemRooms, first, bind, Except.bind]
  rw [← seeded, same, enforce_walk walk]
  rfl

theorem enforce_seeded (before : Walk (roomLinks rooms) order)
    (four : ignored rooms sysop sysopRow = false) (five : ignored rooms system systemRow = false)
    (foot : AidesLast rooms) : enforceNeighbors (seeded rooms) = .ok (seeded rooms) := by
  obtain ⟨last, stored, -⟩ := foot
  have kept (n : RoomId) (h : (rooms.get? n).isSome) : ((seeded rooms).get? n).isSome := by
    rw [get?_seeded]
    split
    · rfl
    · split
      · rfl
      · exact h
  apply enforce_of_present
  intro k row n here neighbor
  rw [get?_seeded] at here
  split at here
  · cases here
    rcases neighbor with prev | next
    · cases prev
      simp [get?_seeded, four, show ¬ sysop = system by decide]
    · cases next
  · split at here
    · cases here
      rcases neighbor with prev | next
      · cases prev
        exact kept aides (by rw [stored]; rfl)
      · cases next
        simp [get?_seeded, five]
    · exact kept n (neighbor_present before here neighbor)

theorem addSystemRooms_fresh (before : Walk (roomLinks rooms) order)
    (four : ignored rooms sysop sysopRow = false) (five : ignored rooms system systemRow = false)
    (foot : AidesLast rooms) :
    ∃ rooms', addSystemRooms rooms = .ok rooms' ∧
      Walk (roomLinks rooms') (order ++ [sysop] ++ [system]) := by
  have kept := enforce_seeded before four five foot
  obtain ⟨row, stored, ends⟩ := foot
  have linked : roomLinks rooms aides = some _ := link_of_row stored
  have last : order.getLast? = some aides :=
    (before.next_none_iff ((before.covers aides).mp (by rw [linked]; rfl)) linked).mp ends
  have out {k : RoomId} (absent : rooms.get? k = none) : k ∉ order := by
    intro mem
    have present := (before.covers k).mpr mem
    simp [roomLinks, absent] at present
  have outSysop := out (absent_of_not_ignored four)
  have outSystem : system ∉ order ++ [sysop] := by
    intro mem
    rcases List.mem_append.mp mem with old | new
    · exact out (absent_of_not_ignored five) old
    · exact absurd (List.mem_singleton.mp new) (by decide)
  have chain := (before.toChain.append outSysop).append outSystem
  have surgery : roomLinks (stitch (seeded rooms)) =
      Links.setNext (Links.put (Links.setNext (Links.put (roomLinks rooms) sysop
        ⟨order.getLast?, none⟩) order.getLast? (some sysop)) system
        ⟨(order ++ [sysop]).getLast?, none⟩) (order ++ [sysop]).getLast? (some system) := by
    have placedSystem : (seeded rooms).get? system = some systemRow := by simp [get?_seeded, five]
    have placedSysop : (seeded rooms).get? sysop = some sysopRow := by
      simp [get?_seeded, four, show ¬ sysop = system by decide]
    funext k
    rw [List.getLast?_append, last]
    by_cases atSystem : k = system
    · subst atSystem
      simp [roomLinks, get?_stitch, placedSystem, Links.setNext, Links.put, systemRow,
        show ¬ system = aides by decide, show ¬ system = sysop by decide]
    · by_cases atSysop : k = sysop
      · subst atSysop
        simp [roomLinks, get?_stitch, placedSysop, Links.setNext, Links.put, sysopRow,
          atSystem, show ¬ sysop = aides by decide]
      · by_cases atAides : k = aides
        · subst atAides
          simp [roomLinks, get?_stitch, get?_seeded, Links.setNext, Links.put, atSystem, atSysop,
            stored, ends]
        · simp [roomLinks, get?_stitch, get?_seeded, Links.setNext, Links.put, atSystem, atSysop,
            atAides]
  have walk : Walk (roomLinks (stitch (seeded rooms))) (order ++ [sysop] ++ [system]) := by
    refine ⟨?_, fun k => ?_⟩
    · rw [surgery]
      exact chain
    · rw [surgery, isSome_setNext, Links.put]
      by_cases atSystem : k = system
      · simp [atSystem]
      · rw [if_neg atSystem, isSome_setNext, Links.put]
        by_cases atSysop : k = sysop
        · simp [atSysop]
        · simp [atSystem, atSysop, before.covers k]
  refine ⟨(stitch (seeded rooms)).atLeast 5, ?_, walk⟩
  have second := enforce_walk walk
  rw [seeded] at kept second
  simp only [addSystemRooms, kept, second, bind, Except.bind, pure, Except.pure]
  rfl

end Migration

/-! ## Whole runs -/

def runRooms (ops : List RoomOp) (s : Storage) : Storage :=
  ops.foldl (fun s op => (op.run s).2) s

theorem runRooms_walk (ops : List RoomOp) {s : Storage} {order : List RoomId}
    (before : Walk (links s) order) : ∃ order', Walk (links (runRooms ops s)) order' := by
  induction ops generalizing s order with
  | nil => exact ⟨order, before⟩
  | cons op ops ih =>
      obtain ⟨order', -, after⟩ := op_walk op before
      exact ih after

theorem firstRooms_walk : Walk (roomLinks firstRooms) [lobby, mail, aides] where
  nodup := by decide
  segment := by simp [Segment, roomLinks, RowTable.get?, firstRooms, lobby, mail, aides]
  covers k := by
    rw [roomLinks, Option.isSome_map, ← RowTable.mem_keys_iff]
    rfl

theorem walk_before (ops : List RoomOp) {s : Storage} (migrated : s.db.rooms = firstRooms) :
    ∃ order, Walk (roomLinks (runRooms ops s).db.rooms) order := by
  have start : Walk (links s) [lobby, mail, aides] := by
    rw [links, migrated]
    exact firstRooms_walk
  exact runRooms_walk ops start

theorem ready_of_listed (ops : List RoomOp) {s : Storage} (migrated : s.db.rooms = firstRooms)
    {rooms : RowTable RoomRow} (ran : addSystemRooms (runRooms ops s).db.rooms = .ok rooms)
    (listed : Listed rooms) : Ready (runRooms ops s).db.rooms := by
  obtain ⟨order, before⟩ := walk_before ops migrated
  obtain ⟨order', after, -⟩ := listed
  exact ready_of_walk before ran after

def firstStorage : Storage := { Storage.fresh with db := .empty firstRooms }

end SupplyDrop.Proof.SystemRooms
