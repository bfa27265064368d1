import Mathlib
import SupplyDrop.Library.Chain
import SupplyDrop.Store.Invariants
import SupplyDrop.Proof.Reader
import SupplyDrop.Proof.RoomWalk

namespace SupplyDrop.Proof.RoomOrder
open Library Library.Links Library.Path Library.Program Store Store.Invariants RoomWalk

/-! ## The loop -/

/-- The loop comes to its end along a path of fresh ids, which it has visited then. -/
theorem walk_ok_iff {next : RoomId → Option RoomId} {guard : Nat} {visited seen : List RoomId}
    {current : RoomId} : walk next guard visited current = .ok seen ↔
      ∃ path, Leads next (current :: path) none ∧ (current :: path).Nodup ∧
        (∀ id ∈ current :: path, id ∉ visited) ∧ path.length ≤ guard ∧
        seen = (current :: path).reverse ++ visited := by
  fun_induction walk next guard visited current with
  | case1 guard visited current old =>
      refine iff_of_false nofun ?_
      rintro ⟨path, -, -, fresh, -⟩
      exact fresh current List.mem_cons_self old
  | case2 guard visited current fresh stops =>
      constructor
      · intro ran
        cases ran
        refine ⟨[], ⟨stops, trivial⟩, List.nodup_singleton _, ?_, Nat.zero_le _, rfl⟩
        intro id mem
        rwa [List.mem_singleton.mp mem]
      · rintro ⟨path, leads, -, -, -, rfl⟩
        cases path with
        | nil => rfl
        | cons id path => cases stops.symm.trans leads.1
  | case3 visited current fresh id to_ =>
      refine iff_of_false nofun ?_
      rintro ⟨path, leads, -, -, short, -⟩
      obtain rfl : path = [] := List.eq_nil_of_length_eq_zero (Nat.le_zero.mp short)
      cases to_.symm.trans leads.1
  | case4 visited current fresh id to_ guard ih =>
      rw [ih]
      constructor
      · rintro ⟨path, leads, nodup, apart, short, rfl⟩
        refine ⟨id :: path, ⟨to_, leads⟩, ?_, ?_, Nat.succ_le_succ short, by simp⟩
        · exact List.nodup_cons.mpr ⟨fun again => apart current again List.mem_cons_self, nodup⟩
        · intro x mem
          rcases List.mem_cons.mp mem with rfl | mem
          · exact fresh
          · exact fun old => apart x mem (List.mem_cons_of_mem _ old)
      · rintro ⟨path, leads, nodup, apart, short, rfl⟩
        cases path with
        | nil => cases to_.symm.trans leads.1
        | cons y path =>
            cases to_.symm.trans leads.1
            obtain ⟨notAgain, nodup⟩ := List.nodup_cons.mp nodup
            refine ⟨path, leads.2, nodup, ?_, Nat.le_of_succ_le_succ short, by simp⟩
            intro x mem old
            rcases List.mem_cons.mp old with rfl | old
            · exact notAgain mem
            · exact apart x (List.mem_cons_of_mem _ mem) old

/-! ## A table of rooms -/

section Table
variable {rooms : RowTable RoomRow} {order : List RoomId}

def nextOf (rooms : RowTable RoomRow) : RoomId → Option RoomId := nextMap (nextRows rooms)

theorem nextOf_eq (rooms : RowTable RoomRow) (id : RoomId) :
    nextOf rooms id = (rooms.get? id).bind (·.nextNeighbor) := by
  unfold nextOf nextMap nextRows RowTable.get?
  rw [List.find?_map, Option.bind_map, Option.bind_map]
  rfl

/-- The ids that the next pointers name. -/
def named (rooms : RowTable RoomRow) : List RoomId := rooms.rows.filterMap (·.2.nextNeighbor)

theorem headId_eq (rooms : RowTable RoomRow) : headId (nextRows rooms) =
    (rooms.rows.find? fun r => r.1 ∉ named rooms).map (·.1) := by
  have names : (nextRows rooms).filterMap (·.2) = named rooms := by
    unfold nextRows named
    rw [List.filterMap_map]
    rfl
  unfold headId
  rw [names, nextRows, List.find?_map, Option.map_map]
  rfl

theorem mem_named {id : RoomId} : id ∈ named rooms ↔ ∃ k, nextOf rooms k = some id := by
  unfold named
  rw [List.mem_filterMap]
  constructor
  · rintro ⟨⟨k, row⟩, mem, to_⟩
    refine ⟨k, ?_⟩
    rw [nextOf_eq, (RowTable.mem_rows_iff ..).mp mem]
    exact to_
  · rintro ⟨k, to_⟩
    rw [nextOf_eq] at to_
    obtain ⟨row, stored, to_⟩ := Option.bind_eq_some_iff.mp to_
    exact ⟨(k, row), (RowTable.mem_rows_iff ..).mpr stored, to_⟩

theorem nextOf_missing {id : RoomId} (missing : id ∉ rooms.keys) : nextOf rooms id = none := by
  rw [nextOf_eq]
  rw [RowTable.mem_keys_iff, Option.not_isSome_iff_eq_none] at missing
  rw [missing]
  rfl

theorem mem_keys_of_next {id : RoomId} (to_ : (nextOf rooms id).isSome) : id ∈ rooms.keys := by
  by_contra missing
  rw [nextOf_missing missing] at to_
  cases to_

/-! ## What the check accepts -/

/-- No column has two `NULL`s, and each has as many as the other. -/
def EndsAgree (rooms : RowTable RoomRow) : Prop :=
  headCount rooms ≤ 1 ∧ headCount rooms = tailCount rooms

/-- Every room is named by a next pointer. -/
def Ring (rooms : RowTable RoomRow) : Prop := ∀ k ∈ rooms.keys, k ∈ named rooms

/-- The next pointers lead through all the rooms. -/
structure Strand (rooms : RowTable RoomRow) (order : List RoomId) : Prop where
  nodup : order.Nodup
  covers : ∀ k, k ∈ rooms.keys ↔ k ∈ order
  leads : Leads (nextOf rooms) order none

/-- The previous pointers lead back along the next pointers. -/
def Mirrored (rooms : RowTable RoomRow) : Prop :=
  ∀ x y row, nextOf rooms x = some y → rooms.get? y = some row → row.prevNeighbor = some x

/-- The next pointers lead from the first room that none of them names through all the rooms but
one, and then out of the table. -/
def Overrun (rooms : RowTable RoomRow) : Prop :=
  ∃ order outside, headId (nextRows rooms) = order.head? ∧ order ≠ [] ∧ order.Nodup ∧
    order ⊆ rooms.keys ∧ outside ∉ rooms.keys ∧ Leads (nextOf rooms) order (some outside) ∧
    order.length + 1 = rooms.rows.length

theorem checkEnds_ok {heads tails : Nat} :
    checkEnds heads tails = .ok () ↔ heads ≤ 1 ∧ heads = tails := by
  unfold checkEnds
  split_ifs <;> simp <;> omega

theorem headId_none : headId (nextRows rooms) = none ↔ Ring rooms := by
  rw [headId_eq, Option.map_eq_none_iff, List.find?_eq_none]
  simp only [Ring, RowTable.keys, List.mem_map, decide_eq_true_eq, not_not]
  constructor
  · rintro all k ⟨r, mem, rfl⟩
    exact all r mem
  · exact fun all r mem => all r.1 ⟨r, mem, rfl⟩

theorem headId_mem {id : RoomId} (head : headId (nextRows rooms) = some id) : id ∈ rooms.keys := by
  rw [headId_eq] at head
  obtain ⟨r, found, rfl⟩ := Option.map_eq_some_iff.mp head
  exact List.mem_map_of_mem (List.mem_of_find?_eq_some found)

theorem checkWalk_ok : checkWalk rooms.rows.length (nextRows rooms) = .ok () ↔
    Ring rooms ∨ ∃ id path, headId (nextRows rooms) = some id ∧
      Leads (nextOf rooms) (id :: path) none ∧ (id :: path).Nodup ∧
      (id :: path).length = rooms.rows.length := by
  unfold checkWalk
  cases head : headId (nextRows rooms) with
  | none => exact iff_of_true rfl (.inl (headId_none.mp head))
  | some id =>
      have other : ¬ Ring rooms := fun ring => by
        rw [headId_none.mpr ring] at head
        cases head
      dsimp only
      constructor
      · intro ran
        refine .inr ⟨id, ?_⟩
        cases walked : walk (nextMap (nextRows rooms)) rooms.rows.length [] id with
        | error e =>
            rw [walked] at ran
            cases ran
        | ok seen =>
            obtain ⟨path, leads, nodup, -, -, rfl⟩ := walk_ok_iff.mp walked
            rw [walked] at ran
            refine ⟨path, rfl, leads, nodup, ?_⟩
            by_contra wrong
            have wrong : ((id :: path).reverse ++ []).length ≠ rooms.rows.length := by
              simpa using wrong
            change (if _ then _ else _) = _ at ran
            rw [if_pos wrong] at ran
            cases ran
      · rintro (ring | ⟨id', path, same, leads, nodup, whole⟩)
        · exact absurd ring other
        · cases same
          have short : path.length ≤ rooms.rows.length := by
            rw [← whole]
            exact Nat.le_succ _
          have walked := walk_ok_iff.mpr
            ⟨path, leads, nodup, fun _ _ => List.not_mem_nil, short, rfl⟩
          change walk (nextMap (nextRows rooms)) _ _ _ = _ at walked
          rw [walked]
          change (if _ then _ else _) = _
          rw [if_neg]
          simpa using whole

theorem keys_length (rooms : RowTable RoomRow) : rooms.keys.length = rooms.rows.length :=
  List.length_map _

theorem Strand.first {id : RoomId} {path : List RoomId} (strand : Strand rooms (id :: path)) :
    headId (nextRows rooms) = some id := by
  have notNamed (k : RoomId) : k ∈ named rooms ↔ k ∈ path := by
    rw [mem_named]
    constructor
    · rintro ⟨x, to_⟩
      have mem := (strand.covers x).mp (mem_keys_of_next (by rw [to_]; rfl))
      exact (strand.leads.mem_tail mem to_).resolve_right nofun
    · intro later
      obtain ⟨x, -, to_⟩ := strand.leads.named (y := k) later
      exact ⟨x, to_⟩
  rw [headId_eq]
  apply RowTable.find?_eq_of_unique
  · intro k row stored
    have mem := (strand.covers k).mp ((RowTable.mem_keys_iff ..).mpr (by rw [stored]; rfl))
    have fresh := (List.nodup_cons.mp strand.nodup).1
    simp only [decide_eq_true_eq, notNamed, Option.some.injEq]
    constructor
    · intro first
      exact ((List.mem_cons.mp mem).resolve_right first).symm
    · rintro rfl
      exact fresh
  · intro k same
    cases same
    exact (RowTable.mem_keys_iff ..).mp ((strand.covers id).mpr List.mem_cons_self)

theorem Strand.length (strand : Strand rooms order) : order.length = rooms.rows.length := by
  rw [← keys_length]
  have perm : order.Perm rooms.keys :=
    (List.perm_ext_iff_of_nodup strand.nodup rooms.keys_nodup).mpr fun k => (strand.covers k).symm
  exact perm.length_eq

/-- A path from the head as long as the table stays in it or leaves it at its end. -/
theorem strand_or_overrun {id : RoomId} {path : List RoomId}
    (head : headId (nextRows rooms) = some id) (leads : Leads (nextOf rooms) (id :: path) none)
    (nodup : (id :: path).Nodup) (whole : (id :: path).length = rooms.rows.length) :
    (∃ order, Strand rooms order) ∨ Overrun rooms := by
  obtain ⟨front, last, split⟩ : ∃ front last, id :: path = front ++ [last] :=
    ⟨_, _, (List.dropLast_append_getLast (List.cons_ne_nil id path)).symm⟩
  rw [split] at leads nodup whole
  obtain ⟨leadsFront, stops⟩ := leads_concat.mp leads
  have inside : front ⊆ rooms.keys := fun k mem => mem_keys_of_next (leadsFront.isSome mem)
  by_cases within : last ∈ rooms.keys
  · have sub : front ++ [last] ⊆ rooms.keys := by
      intro k mem
      rcases List.mem_append.mp mem with mem | mem
      · exact inside mem
      · rwa [List.mem_singleton.mp mem]
    have perm : (front ++ [last]).Perm rooms.keys :=
      (List.subperm_of_subset nodup sub).perm_of_length_le (by rw [keys_length, whole])
    exact .inl ⟨front ++ [last], nodup, fun k => perm.mem_iff.symm, leads⟩
  · have started : front ≠ [] := by
      rintro rfl
      cases split
      exact within (headId_mem head)
    refine .inr ⟨front, last, ?_, started, (List.nodup_append.mp nodup).1, inside, within,
      leadsFront, by simpa using whole⟩
    rw [head]
    cases front with
    | nil => exact absurd rfl started
    | cons k front =>
        cases split
        rfl

theorem checkWalk_ok_iff : checkWalk rooms.rows.length (nextRows rooms) = .ok () ↔
    Ring rooms ∨ (∃ order, Strand rooms order) ∨ Overrun rooms := by
  rw [checkWalk_ok]
  constructor
  · rintro (ring | ⟨id, path, head, leads, nodup, whole⟩)
    · exact .inl ring
    · exact .inr (strand_or_overrun head leads nodup whole)
  · rintro (ring | ⟨order, strand⟩ | ⟨order, outside, head, started, nodup, inside, out, leads,
      whole⟩)
    · exact .inl ring
    · cases order with
      | nil =>
          refine .inl fun k mem => ?_
          cases (strand.covers k).mp mem
      | cons id path =>
          exact .inr ⟨id, path, strand.first, strand.leads, strand.nodup, strand.length⟩
    · cases order with
      | nil => exact absurd rfl started
      | cons id path =>
          refine .inr ⟨id, path ++ [outside], head, ?_, ?_, by simpa using whole⟩
          · exact leads_concat.mpr ⟨leads, nextOf_missing out⟩
          · refine List.nodup_append.mpr ⟨nodup, List.nodup_singleton _, ?_⟩
            intro a mem b same
            rw [List.mem_singleton.mp same]
            rintro rfl
            exact out (inside mem)

/-! ## Chains -/

theorem Strand.of_walk (walk : Walk (roomLinks rooms) order) : Strand rooms order where
  nodup := walk.nodup
  covers k := by
    rw [RowTable.mem_keys_iff, ← walk.covers k, roomLinks, Option.isSome_map]
  leads := by
    have linked {p : Option RoomId} {xs : List RoomId} {q : Option RoomId}
        (segment : Segment (roomLinks rooms) p xs q) : Leads (nextOf rooms) xs q := by
      induction xs generalizing p with
      | nil => trivial
      | cons x xs ih =>
          refine ⟨?_, ih segment.2⟩
          obtain ⟨row, stored, neighbors⟩ := row_of_link segment.1
          rw [nextOf_eq, stored]
          exact (Link.mk.inj neighbors).2.symm
    exact linked walk.segment

theorem mirrored_of_walk (walk : Walk (roomLinks rooms) order) : Mirrored rooms := by
  intro x y row to_ stored
  have strand := Strand.of_walk walk
  have here := (strand.covers x).mp (mem_keys_of_next (by rw [to_]; rfl))
  obtain ⟨front, back, rfl⟩ := List.append_of_mem here
  obtain ⟨row', stored', neighbors⟩ := row_of_link walk.toChain.link
  have next : back.head? = some y := by
    rw [nextOf_eq, stored'] at to_
    exact (Link.mk.inj neighbors).2.trans to_
  obtain ⟨rest, rfl⟩ := List.head?_eq_some_iff.mp next
  have split : front ++ x :: y :: rest = (front ++ [x]) ++ y :: rest := by simp
  have chain := walk.toChain
  rw [split] at chain
  obtain ⟨row'', again, neighbors⟩ := row_of_link chain.link
  cases stored.symm.trans again
  have prev := (Link.mk.inj neighbors).1
  rw [← prev]
  simp

/-- One row at most is without the neighbour that only the row of `end_` is without. -/
theorem countP_end {p : RoomRow → Bool} {end_ : Option RoomId}
    (only : ∀ k row, rooms.get? k = some row → (p row = true ↔ end_ = some k))
    (there : ∀ k, end_ = some k → (rooms.get? k).isSome) :
    rooms.rows.countP (fun r => p r.2) = end_.toList.length := by
  cases end_ with
  | none =>
      apply List.countP_eq_zero.mpr
      intro r mem holds
      cases (only r.1 r.2 ((RowTable.mem_rows_iff ..).mp mem)).mp holds
  | some k =>
      obtain ⟨row, stored⟩ := Option.isSome_iff_exists.mp (there k rfl)
      have same : rooms.rows.countP (fun r => p r.2) = rooms.rows.countP (fun r => r.1 = k) := by
        apply List.countP_congr
        intro r mem
        rw [only r.1 r.2 ((RowTable.mem_rows_iff ..).mp mem), decide_eq_true_eq,
          Option.some.injEq, eq_comm]
      rw [same, RowTable.countP_key, stored]
      rfl

theorem endsAgree_of_walk (walk : Walk (roomLinks rooms) order) : EndsAgree rooms := by
  have present {k : RoomId} (mem : k ∈ order) : (rooms.get? k).isSome := by
    have linked := (walk.covers k).mpr mem
    rwa [roomLinks, Option.isSome_map] at linked
  have heads : headCount rooms = order.head?.toList.length := by
    refine countP_end (p := fun row => row.prevNeighbor.isNone) ?_ ?_
    · intro k row stored
      have mem := (walk.covers k).mp (by rw [link_of_row stored]; rfl)
      exact Option.isNone_iff_eq_none.trans (walk.prev_none_iff mem (link_of_row stored))
    · exact fun k first => present (List.mem_of_head? first)
  have tails : tailCount rooms = order.getLast?.toList.length := by
    refine countP_end (p := fun row => row.nextNeighbor.isNone) ?_ ?_
    · intro k row stored
      have mem := (walk.covers k).mp (by rw [link_of_row stored]; rfl)
      exact Option.isNone_iff_eq_none.trans (walk.next_none_iff mem (link_of_row stored))
    · exact fun k last => present (List.mem_of_getLast? last)
  unfold EndsAgree
  rw [heads, tails]
  cases order with
  | nil => exact ⟨Nat.zero_le _, rfl⟩
  | cons id path =>
      rw [List.getLast?_cons]
      exact ⟨le_rfl, rfl⟩

/-- Read back along the previous pointers, a strand whose first room has none is a chain. -/
theorem segment_of_leads (mirrored : Mirrored rooms) {p : Option RoomId} {xs : List RoomId}
    (leads : Leads (nextOf rooms) xs none) (inside : xs ⊆ rooms.keys)
    (first : ∀ x row, xs.head? = some x → rooms.get? x = some row → row.prevNeighbor = p) :
    Segment (roomLinks rooms) p xs none := by
  induction xs generalizing p with
  | nil => trivial
  | cons x xs ih =>
      obtain ⟨row, stored⟩ := Option.isSome_iff_exists.mp
        ((RowTable.mem_keys_iff ..).mp (inside List.mem_cons_self))
      have to_ : row.nextNeighbor = xs.head?.or none := by
        rw [← leads.1, nextOf_eq, stored]
        rfl
      refine ⟨?_, ih leads.2 (fun k mem => inside (List.mem_cons_of_mem _ mem)) ?_⟩
      · rw [link_of_row stored, first x row rfl stored, to_]
      · intro y row' next stored'
        refine mirrored x y row' ?_ stored'
        rw [leads.1, next]
        rfl

theorem walk_of_strand (strand : Strand rooms order) (mirrored : Mirrored rooms)
    (ends : EndsAgree rooms) : Walk (roomLinks rooms) order where
  nodup := strand.nodup
  segment := by
    cases order with
    | nil => trivial
    | cons id path =>
        have tail : ∃ r ∈ rooms.rows, r.2.nextNeighbor.isNone := by
          obtain ⟨front, last, split⟩ : ∃ front last, id :: path = front ++ [last] :=
            ⟨_, _, (List.dropLast_append_getLast (List.cons_ne_nil id path)).symm⟩
          have stops := strand.leads
          rw [split] at stops
          have mem : last ∈ rooms.keys := (strand.covers last).mpr (by rw [split]; simp)
          obtain ⟨row, stored⟩ := Option.isSome_iff_exists.mp ((RowTable.mem_keys_iff ..).mp mem)
          refine ⟨(last, row), (RowTable.mem_rows_iff ..).mpr stored, ?_⟩
          have none_ := (leads_concat.mp stops).2
          rw [nextOf_eq, stored] at none_
          exact Option.isNone_iff_eq_none.mpr none_
        have head : 0 < headCount rooms := by
          rw [ends.2]
          exact List.countP_pos_iff.mpr tail
        obtain ⟨r, mem, none_⟩ := List.countP_pos_iff.mp head
        have stored := (RowTable.mem_rows_iff ..).mp mem
        have here := (strand.covers r.1).mp (List.mem_map_of_mem mem)
        have first : r.1 = id := by
          rcases List.mem_cons.mp here with same | later
          · exact same
          · obtain ⟨x, -, to_⟩ := strand.leads.named (y := r.1) later
            rw [mirrored x r.1 r.2 to_ stored] at none_
            cases none_
        apply segment_of_leads mirrored strand.leads fun k mem => (strand.covers k).mpr mem
        intro x row same stored'
        cases same
        rw [← first] at stored'
        cases stored.symm.trans stored'
        exact Option.isNone_iff_eq_none.mp none_
  covers k := by
    rw [← strand.covers k, RowTable.mem_keys_iff, roomLinks, Option.isSome_map]

/-! ## Tables that are no chain -/

theorem not_walk_of_ring (ring : Ring rooms) (some_ : rooms.rows ≠ []) :
    ¬ Walk (roomLinks rooms) order := by
  intro walk
  have strand := Strand.of_walk walk
  cases order with
  | nil =>
      have none_ := strand.length
      exact some_ (List.eq_nil_of_length_eq_zero none_.symm)
  | cons id path =>
      have first := strand.first
      rw [headId_none.mpr ring] at first
      cases first

theorem not_walk_of_overrun (overrun : Overrun rooms) : ¬ Walk (roomLinks rooms) order := by
  intro walk
  have strand := Strand.of_walk walk
  obtain ⟨path, outside, -, started, -, -, out, leads, -⟩ := overrun
  obtain ⟨front, last, rfl⟩ : ∃ front last, path = front ++ [last] :=
    ⟨_, _, (List.dropLast_append_getLast started).symm⟩
  have to_ := (leads_concat.mp leads).2
  have here := (strand.covers last).mp (mem_keys_of_next (by rw [to_]; rfl))
  rcases strand.leads.mem_tail here to_ with later | outside_
  · exact out ((strand.covers outside).mpr (List.mem_of_mem_tail later))
  · cases outside_

end Table

/-! ## The listing -/

theorem cons_others_perm {map : List Room} {room : Room} (distinct : (map.map (·.id)).Nodup)
    (mem : room ∈ map) : (room :: map.filter fun r => r.id ≠ room.id).Perm map := by
  induction map with
  | nil => cases mem
  | cons r rest ih =>
      obtain ⟨fresh, distinct⟩ := List.nodup_cons.mp distinct
      rcases List.mem_cons.mp mem with rfl | mem
      · have kept : rest.filter (fun r => r.id ≠ room.id) = rest := by
          apply List.filter_eq_self.mpr
          intro other later
          exact decide_eq_true fun same => fresh (List.mem_map.mpr ⟨other, later, same⟩)
        rw [List.filter_cons_of_neg (by simp), kept]
      · have other : r.id ≠ room.id := fun same =>
          fresh (List.mem_map.mpr ⟨room, mem, same.symm⟩)
        rw [List.filter_cons_of_pos (by simpa using other)]
        exact (List.Perm.swap r room _).trans ((ih distinct mem).cons r)

theorem walkFrom_perm {fuel : Nat} {map ordered left_ : List Room} {id : RoomId}
    (distinct : (map.map (·.id)).Nodup)
    (ran : RoomStore.walkFrom fuel map id = .ok (ordered, left_)) : (ordered ++ left_).Perm map := by
  induction fuel generalizing map ordered left_ id with
  | zero => cases ran
  | succ fuel ih =>
      unfold RoomStore.walkFrom at ran
      cases found : map.find? (fun r => r.id = id) with
      | none =>
          rw [found] at ran
          cases ran
      | some room =>
          rw [found] at ran
          have same : room.id = id := by simpa using List.find?_some found
          subst same
          have taken := cons_others_perm distinct (List.mem_of_find?_eq_some found)
          dsimp only at ran
          cases next : room.nextNeighbor with
          | none =>
              rw [next] at ran
              cases ran
              exact taken
          | some id =>
              rw [next] at ran
              dsimp only at ran
              cases further : RoomStore.walkFrom fuel (map.filter fun r => r.id ≠ room.id) id with
              | error e =>
                  rw [further] at ran
                  cases ran
              | ok walked =>
                  obtain ⟨ordered', left'⟩ := walked
                  rw [further] at ran
                  cases ran
                  have distinct' : ((map.filter fun r => r.id ≠ room.id).map (·.id)).Nodup :=
                    distinct.sublist (List.filter_sublist.map _)
                  exact ((ih distinct' further).cons room).trans taken

theorem inOrder_perm {listed ordered : List Room} (distinct : (listed.map (·.id)).Nodup)
    (ran : RoomStore.inOrder listed = .ok ordered) : ordered.Perm listed := by
  unfold RoomStore.inOrder at ran
  cases found : listed.find? (fun r => r.prevNeighbor.isNone) with
  | none =>
      rw [found] at ran
      cases ran
      exact .refl _
  | some head =>
      rw [found] at ran
      dsimp only at ran
      cases walked : RoomStore.walkFrom listed.length listed head.id with
      | error e =>
          rw [walked] at ran
          cases ran
      | ok both =>
          obtain ⟨front, rest⟩ := both
          rw [walked] at ran
          cases ran
          exact walkFrom_perm distinct walked

/-! ## The check and the listing -/

def roomsOf (s : Storage) : List Room := s.db.rooms.rows.map fun r => mapRoomRow r.1 r.2

structure CheckedExactly (s : Storage) : Prop where
  accepts : (verifyRoomWalkOrder s).1 = .ok () ↔
    s.db.rooms.rows = [] ∨ ∃ order, Walk (links s) order
  lists : (verifyRoomWalkOrder s).1 = .ok () → ∃ order listed, Walk (links s) order ∧
    (RoomStore.listInOrder s).1 = .ok listed ∧ listed.map (·.id) = order ∧
    listed.Perm (roomsOf s)

section Check
variable {s : Storage}

theorem ask_sure {α : Type} (f : Database → α) (sure : s.faults = []) :
    ask f s = (.ok (f s.db), s) := by
  unfold ask
  rw [mapError_apply, query_sure f sure]
  rfl

theorem orRefuse_apply (verdict : Except DbOpenError Unit) : orRefuse verdict s = (verdict, s) := by
  cases verdict <;> rfl

theorem verify_sure (sure : s.faults = []) : (verifyRoomWalkOrder s).1 = .ok () ↔
    EndsAgree s.db.rooms ∧ (s.db.rooms.rows = [] ∨
      checkWalk s.db.rooms.rows.length (nextRows s.db.rooms) = .ok ()) := by
  unfold verifyRoomWalkOrder
  rw [bind_ok (ask_sure _ sure), bind_ok (ask_sure _ sure)]
  cases ends : checkEnds (headCount s.db.rooms) (tailCount s.db.rooms) with
  | error e =>
      rw [bind_error (orRefuse_apply (.error e))]
      refine iff_of_false nofun fun accepted => ?_
      rw [checkEnds_ok.mpr accepted.1] at ends
      cases ends
  | ok u =>
      have agree : EndsAgree s.db.rooms := checkEnds_ok.mp ends
      rw [bind_ok (orRefuse_apply (.ok u)), bind_ok (ask_sure _ sure)]
      by_cases none_ : s.db.rooms.rows.length = 0
      · rw [if_pos none_]
        exact iff_of_true rfl ⟨agree, .inl (List.eq_nil_of_length_eq_zero none_)⟩
      · have some_ : s.db.rooms.rows ≠ [] := fun empty => none_ (by rw [empty]; rfl)
        rw [if_neg none_, bind_ok (ask_sure _ sure), orRefuse_apply]
        exact ⟨fun accepted => ⟨agree, .inr accepted⟩, fun accepted => accepted.2.resolve_left some_⟩

theorem listInOrder_sure (sure : s.faults = []) :
    (RoomStore.listInOrder s).1 = RoomStore.inOrder (roomsOf s) := by
  unfold RoomStore.listInOrder
  rw [bind_ok (query_sure _ sure), ← roomsOf]
  cases RoomStore.inOrder (roomsOf s) <;> rfl

theorem lists_of_walk (sure : s.faults = []) {order : List RoomId} (walk : Walk (links s) order) :
    ∃ order listed, Walk (links s) order ∧ (RoomStore.listInOrder s).1 = .ok listed ∧
      listed.map (·.id) = order ∧ listed.Perm (roomsOf s) := by
  obtain ⟨listed, ran, ids⟩ := inOrder_walk walk
  have distinct : ((roomsOf s).map (·.id)).Nodup := by
    unfold roomsOf
    rw [List.map_map]
    exact s.db.rooms.keys_nodup
  exact ⟨order, listed, walk, (listInOrder_sure sure).trans ran, ids, inOrder_perm distinct ran⟩

/-- The check is exact but for the tables that it lets pass though they are no chain: rooms in
rings, a chain with wrong ways back, and a chain that leaves the table next to a last room. -/
theorem checked_exactly (sure : s.faults = []) : CheckedExactly s ↔
    (EndsAgree s.db.rooms → s.db.rooms.rows ≠ [] → ¬ Ring s.db.rooms ∧
      ((∃ order, Strand s.db.rooms order) → Mirrored s.db.rooms) ∧ ¬ Overrun s.db.rooms) := by
  have verified := verify_sure sure
  rw [checkWalk_ok_iff] at verified
  constructor
  · intro exact_ ends some_
    have chain (passes : Ring s.db.rooms ∨ (∃ order, Strand s.db.rooms order) ∨
        Overrun s.db.rooms) : ∃ order, Walk (links s) order :=
      (exact_.accepts.mp (verified.mpr ⟨ends, .inr passes⟩)).resolve_left some_
    refine ⟨fun ring => ?_, fun strand => ?_, fun overrun => ?_⟩
    · obtain ⟨order, walk⟩ := chain (.inl ring)
      exact not_walk_of_ring ring some_ walk
    · obtain ⟨order, walk⟩ := chain (.inr (.inl strand))
      exact mirrored_of_walk walk
    · obtain ⟨order, walk⟩ := chain (.inr (.inr overrun))
      exact not_walk_of_overrun overrun walk
  · intro sound
    have empty_walk (empty : s.db.rooms.rows = []) : Walk (links s) [] := by
      refine ⟨⟨List.nodup_nil, trivial⟩, fun k => ?_⟩
      unfold links roomLinks RowTable.get?
      rw [empty]
      exact iff_of_false nofun List.not_mem_nil
    have chain (accepted : (verifyRoomWalkOrder s).1 = .ok ()) : ∃ order, Walk (links s) order := by
      obtain ⟨ends, empty | passes⟩ := verified.mp accepted
      · exact ⟨[], empty_walk empty⟩
      · by_cases empty : s.db.rooms.rows = []
        · exact ⟨[], empty_walk empty⟩
        · obtain ⟨noRing, mirrored, inside⟩ := sound ends empty
          rcases passes with ring | strand | overrun
          · exact absurd ring noRing
          · obtain ⟨order, strand⟩ := strand
            exact ⟨order, walk_of_strand strand (mirrored ⟨order, strand⟩) ends⟩
          · exact absurd overrun inside
    refine ⟨⟨fun accepted => .inr (chain accepted), ?_⟩, fun accepted => ?_⟩
    · rintro (empty | ⟨order, walk⟩)
      · exact verified.mpr ⟨endsAgree_of_walk (empty_walk empty), .inl empty⟩
      · exact verified.mpr ⟨endsAgree_of_walk walk, .inr (.inr (.inl ⟨order, .of_walk walk⟩))⟩
    · obtain ⟨order, walk⟩ := chain accepted
      exact lists_of_walk sure walk

end Check

theorem checked_exactly_fresh : CheckedExactly .fresh :=
  (checked_exactly rfl).mpr fun _ some_ =>
    ⟨fun ring => not_walk_of_ring ring some_ seedRooms_walk,
      fun _ => mirrored_of_walk seedRooms_walk,
      fun overrun => not_walk_of_overrun overrun seedRooms_walk⟩

/-! ## Tables that pass -/

def room (prev next : Option RoomId) : RoomRow := ⟨"", none, false, .user, prev, next, 0⟩

def withRooms (rows : List RoomRow) : Storage :=
  { Storage.fresh with db := .empty (rows.foldl .insert (.empty 0)) }

def ringed : Storage := withRooms [room (some 2) (some 2), room (some 1) (some 1)]

/-- The way back from the last room is to itself. -/
def crooked : Storage := withRooms [room none (some 2), room (some 2) none]

/-- The first room leads to a room that is not there, and the second one is left. -/
def overrun : Storage := withRooms [room none (some 9), room (some 1) none]

theorem passes_unchained :
    ¬ CheckedExactly ringed ∧ ¬ CheckedExactly crooked ∧ ¬ CheckedExactly overrun := by
  have chained {s : Storage} (exact_ : CheckedExactly s)
      (accepted : (verifyRoomWalkOrder s).1 = .ok ()) (some_ : s.db.rooms.rows ≠ []) :
      ∃ order, Walk (links s) order := (exact_.accepts.mp accepted).resolve_left some_
  refine ⟨fun exact_ => ?_, fun exact_ => ?_, fun exact_ => ?_⟩
  · obtain ⟨order, walk⟩ := chained exact_ (by decide +kernel) (by decide)
    exact not_walk_of_ring (by unfold Ring; decide +kernel) (by decide) walk
  · obtain ⟨order, walk⟩ := chained exact_ (by decide +kernel) (by decide)
    have back := mirrored_of_walk walk 1 2 (room (some 2) none) (by decide +kernel)
      (by decide +kernel)
    cases back
  · obtain ⟨order, walk⟩ := chained exact_ (by decide +kernel) (by decide)
    exact not_walk_of_overrun ⟨[1], 9, by decide +kernel, by decide, by decide, by decide +kernel,
      by decide +kernel, ⟨by decide +kernel, trivial⟩, by decide +kernel⟩ walk

end SupplyDrop.Proof.RoomOrder
