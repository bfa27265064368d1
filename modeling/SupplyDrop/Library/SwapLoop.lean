import SupplyDrop.Library.Run

namespace SupplyDrop.Library.SwapLoop

/-! Calls that each replace the value of one shared cell in a compare-and-swap loop:

    last = load()
    loop
      next = update(arg, last)
      if compare_exchange_weak(last, next) then return next else last = what was observed

Loads and failed swaps may see any value that the cell ever had; a swap is made only against its
newest value, and may fail even then. -/

inductive Phase (α β : Type) where
  | idle
  | called (arg : β)
  | trying (arg : β) (last : α)
  | swapped (next : α)
  | returned (next : α)
deriving DecidableEq

structure Cell (ι α β : Type) where
  start : α
  -- the calls whose swap was made and the value each of them put, the newest first
  swaps : List (ι × α)
  phase : ι → Phase α β

inductive Action (ι α β : Type) where
  | call (i : ι) (arg : β)
  | load (i : ι) (seen : α)
  | swap (i : ι)
  | miss (i : ι) (observed : α)
  | leave (i : ι)

variable {ι α β : Type}

namespace Cell

def initial (start : α) : Cell ι α β := ⟨start, [], fun _ => .idle⟩

/-- All values that the cell had, the newest first. -/
def held (c : Cell ι α β) : List α := c.swaps.map (·.2) ++ [c.start]

def value (c : Cell ι α β) : α :=
  match c.swaps with
  | [] => c.start
  | newest :: _ => newest.2

theorem held_eq (c : Cell ι α β) : ∃ older, c.held = c.value :: older := by
  unfold held value
  cases c.swaps with
  | nil => exact ⟨[], rfl⟩
  | cons newest older => exact ⟨_, rfl⟩

theorem value_mem_held (c : Cell ι α β) : c.value ∈ c.held := by
  obtain ⟨older, eq⟩ := c.held_eq
  exact eq ▸ List.mem_cons_self

variable [DecidableEq ι]

def goto (c : Cell ι α β) (i : ι) (p : Phase α β) : Cell ι α β :=
  { c with phase := Function.update c.phase i p }

@[simp] theorem goto_at (c : Cell ι α β) (i : ι) (p : Phase α β) : (c.goto i p).phase i = p := by
  simp [goto]

@[simp] theorem goto_value (c : Cell ι α β) (i : ι) (p : Phase α β) :
    (c.goto i p).value = c.value := rfl

@[simp] theorem goto_held (c : Cell ι α β) (i : ι) (p : Phase α β) :
    (c.goto i p).held = c.held := rfl

@[simp] theorem goto_goto (c : Cell ι α β) (i : ι) (p q : Phase α β) :
    (c.goto i p).goto i q = c.goto i q := by
  simp [goto]

variable [DecidableEq α]

/-- One step of a call. A step that the call is not at changes nothing. -/
def next (update : β → α → α) (c : Cell ι α β) : Action ι α β → Cell ι α β
  | .call i arg => if c.phase i matches .idle then c.goto i (.called arg) else c
  | .load i seen =>
      match c.phase i with
      | .called arg => if seen ∈ c.held then c.goto i (.trying arg seen) else c
      | _ => c
  | .swap i =>
      match c.phase i with
      | .trying arg last =>
          if last = c.value then
            { c with swaps := (i, update arg last) :: c.swaps }.goto i (.swapped (update arg last))
          else c
      | _ => c
  | .miss i observed =>
      match c.phase i with
      | .trying arg _ => if observed ∈ c.held then c.goto i (.trying arg observed) else c
      | _ => c
  | .leave i =>
      match c.phase i with
      | .swapped v => c.goto i (.returned v)
      | _ => c

def run (update : β → α → α) (start : α) (actions : List (Action ι α β)) : Cell ι α β :=
  actions.foldl (next update) (initial start)

end Cell

/-- The value that a call put into the cell. -/
def Phase.put : Phase α β → Option α
  | .swapped v | .returned v => some v
  | _ => none

section Steps
variable [DecidableEq ι] [DecidableEq α] {update : β → α → α} {c : Cell ι α β}

/-- What one step can do: move a call that has not swapped yet, make its swap, or let it return. -/
theorem next_cases (a : Action ι α β) :
    c.next update a = c ∨
      (∃ i p, c.next update a = c.goto i p ∧ p.put = (c.phase i).put) ∨
      ∃ i arg, (c.phase i).put = none ∧
        c.next update a = { c with swaps := (i, update arg c.value) :: c.swaps }.goto i
          (.swapped (update arg c.value)) := by
  cases a with
  | call i arg =>
      cases at_ : c.phase i with
      | idle => exact .inr (.inl ⟨i, .called arg, by simp [Cell.next, at_], by simp [at_, Phase.put]⟩)
      | _ => exact .inl (by simp [Cell.next, at_])
  | load i seen =>
      cases at_ : c.phase i with
      | called arg =>
          by_cases mem : seen ∈ c.held
          · exact .inr (.inl ⟨i, .trying arg seen, by simp [Cell.next, at_, mem],
              by simp [at_, Phase.put]⟩)
          · exact .inl (by simp [Cell.next, at_, mem])
      | _ => exact .inl (by simp [Cell.next, at_])
  | swap i =>
      cases at_ : c.phase i with
      | trying arg last =>
          by_cases same : last = c.value
          · subst same
            exact .inr (.inr ⟨i, arg, by simp [at_, Phase.put], by simp [Cell.next, at_]⟩)
          · exact .inl (by simp [Cell.next, at_, same])
      | _ => exact .inl (by simp [Cell.next, at_])
  | miss i observed =>
      cases at_ : c.phase i with
      | trying arg last =>
          by_cases mem : observed ∈ c.held
          · exact .inr (.inl ⟨i, .trying arg observed, by simp [Cell.next, at_, mem],
              by simp [at_, Phase.put]⟩)
          · exact .inl (by simp [Cell.next, at_, mem])
      | _ => exact .inl (by simp [Cell.next, at_])
  | leave i =>
      cases at_ : c.phase i with
      | swapped v => exact .inr (.inl ⟨i, .returned v, by simp [Cell.next, at_], by simp [at_, Phase.put]⟩)
      | _ => exact .inl (by simp [Cell.next, at_])

/-- A call that nothing disturbs returns the update of the cell's value. -/
theorem undisturbed {i : ι} (idle : c.phase i = .idle) (arg : β) :
    ([Action.call i arg, .load i c.value, .swap i, .leave i].foldl (Cell.next update) c).phase i =
      .returned (update arg c.value) := by
  let swapped := { c with swaps := (i, update arg c.value) :: c.swaps }
  calc ([Action.call i arg, .load i c.value, .swap i, .leave i].foldl (Cell.next update) c).phase i
    _ = ([Action.load i c.value, .swap i, .leave i].foldl (Cell.next update)
          (c.goto i (.called arg))).phase i := by simp [Cell.next, idle]
    _ = ([Action.swap i, .leave i].foldl (Cell.next update)
          (c.goto i (.trying arg c.value))).phase i := by
        simp [Cell.next, c.value_mem_held]
    _ = ((swapped.goto i (.swapped (update arg c.value))).next update (.leave i)).phase i := by
        simp [Cell.next, Cell.goto, swapped, Cell.value]
    _ = .returned (update arg c.value) := by simp [Cell.next]

theorem swaps_grow (actions : List (Action ι α β)) :
    ∃ newer, (actions.foldl (Cell.next update) c).swaps = newer ++ c.swaps := by
  induction actions generalizing c with
  | nil => exact ⟨[], rfl⟩
  | cons a actions ih =>
      obtain ⟨newer, eq⟩ := @ih (c.next update a)
      rw [List.foldl_cons, eq]
      rcases @next_cases _ _ _ _ _ update c a with same | ⟨i, p, moved, -⟩ | ⟨i, arg, -, swapped⟩
      · exact ⟨newer, by rw [same]⟩
      · exact ⟨newer, by rw [moved]; rfl⟩
      · exact ⟨newer ++ [(i, update arg c.value)], by rw [swapped, List.append_assoc]; rfl⟩

end Steps

/-! ## Updates that advance -/

/-- Above, or at the top where no update can advance. -/
def Exceeds [LT α] (top later earlier : α) : Prop := earlier < later ∨ later = top

section Order
variable [Preorder α] {top v w : α}

theorem Exceeds.trans (greatest : IsMax top) {u : α} (later : Exceeds top w v)
    (earlier : Exceeds top v u) : Exceeds top w u := by
  rcases later with less | rfl
  · rcases earlier with before | rfl
    · exact .inl (before.trans less)
    · exact absurd less greatest.not_lt
  · exact .inr rfl

/-- The values rise, and the calls that put one are those that went past their swap. -/
structure Rising (top : α) (c : Cell ι α β) : Prop where
  held : c.held.Pairwise (Exceeds top)
  puts : ∀ i v, (i, v) ∈ c.swaps ↔ (c.phase i).put = some v

variable {update : β → α → α} {c : Cell ι α β}

theorem Rising.initial (start : α) : Rising top (Cell.initial start : Cell ι α β) :=
  ⟨List.pairwise_singleton _ _, fun _ _ => ⟨nofun, nofun⟩⟩

/-- Two calls put the same value only at the top. -/
theorem Rising.distinct (rising : Rising top c) {i j : ι} (other : i ≠ j)
    (first : (c.phase i).put = some v) (second : (c.phase j).put = some w) (same : v = w) :
    v = top := by
  have held := List.pairwise_append.mp rising.held
  have pairs : c.swaps.Pairwise fun x y => x.2 = y.2 → x.2 = top := by
    refine (List.pairwise_map.mp held.1).imp fun {x y} exceeds eq => ?_
    rcases exceeds with less | top
    · exact absurd less (eq ▸ lt_irrefl _)
    · exact top
  have : Std.Symm fun x y : ι × α => x.2 = y.2 → x.2 = top := ⟨fun x y h eq => eq ▸ h eq.symm⟩
  exact pairs.forall ((rising.puts i v).mpr first) ((rising.puts j w).mpr second)
    (fun eq => other (congrArg Prod.fst eq)) same

variable [DecidableEq ι] [DecidableEq α]

theorem Rising.next (greatest : IsMax top) (advances : ∀ arg last, Exceeds top (update arg last) last)
    (rising : Rising top c) (a : Action ι α β) : Rising top (c.next update a) := by
  rcases @next_cases _ _ _ _ _ update c a with same | ⟨i, p, moved, put⟩ | ⟨i, arg, before, swapped⟩
  · rwa [same]
  · rw [moved]
    refine ⟨rising.held, fun j v => ?_⟩
    rw [Cell.goto]
    by_cases own : j = i
    · subst own
      simpa [put] using rising.puts j v
    · simpa [own] using rising.puts j v
  · rw [swapped]
    refine ⟨List.pairwise_cons.mpr ⟨?_, rising.held⟩, fun j v => ?_⟩
    · obtain ⟨older, eq⟩ := c.held_eq
      have held := rising.held
      intro u mem
      have now := advances arg c.value
      rcases List.mem_cons.mp (eq ▸ mem : u ∈ c.value :: older) with rfl | old
      · exact now
      · rw [eq] at held
        exact now.trans greatest (List.rel_of_pairwise_cons held old)
    · rw [Cell.goto]
      by_cases own : j = i
      · subst own
        have none : (j, v) ∉ c.swaps := fun mem => by
          rw [rising.puts, before] at mem
          cases mem
        simp [none, Phase.put, eq_comm]
      · simpa [own] using rising.puts j v

theorem Rising.run (greatest : IsMax top) (advances : ∀ arg last, Exceeds top (update arg last) last)
    (start : α) (actions : List (Action ι α β)) : Rising top (Cell.run update start actions) := by
  have reached := Reaches.follow_free (Cell.next update) actions (Cell.initial start)
  refine reached.invariant (Rising.initial start) fun a c d rising _ step => ?_
  rw [step]
  exact rising.next greatest advances a

/-- A call that had not swapped when another had put its value puts a later one. -/
theorem Rising.later {actions : List (Action ι α β)}
    (rising : Rising top (actions.foldl (Cell.next update) c)) (before : Rising top c) {i j : ι}
    (first : (c.phase i).put = some v) (waiting : (c.phase j).put = none)
    (second : ((actions.foldl (Cell.next update) c).phase j).put = some w) : Exceeds top w v := by
  obtain ⟨newer, grown⟩ := @swaps_grow _ _ _ _ _ update c actions
  have mem := (rising.puts j w).mpr second
  have held := (List.pairwise_append.mp rising.held).1
  rw [grown, List.map_append, List.pairwise_append] at held
  rw [grown, List.mem_append] at mem
  rcases mem with new | old
  · exact held.2.2 w (List.mem_map_of_mem new) v (List.mem_map_of_mem ((before.puts i v).mpr first))
  · rw [before.puts, waiting] at old
    cases old

end Order

end SupplyDrop.Library.SwapLoop
