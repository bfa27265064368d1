import Mathlib

namespace SupplyDrop.Library

structure Link (κ : Type) where
  prev : Option κ
  next : Option κ
deriving DecidableEq

abbrev Links (κ : Type) := κ → Option (Link κ)

namespace Links
variable {κ : Type}

section Updates
variable [DecidableEq κ]

def setNext (links : Links κ) (k v : Option κ) : Links κ := fun i =>
  if some i = k then (links i).map fun l => { l with next := v } else links i

def setPrev (links : Links κ) (k v : Option κ) : Links κ := fun i =>
  if some i = k then (links i).map fun l => { l with prev := v } else links i

def put (links : Links κ) (k : κ) (l : Link κ) : Links κ := fun i =>
  if i = k then some l else links i

def remove (links : Links κ) (k : κ) : Links κ := fun i =>
  if i = k then none else links i

end Updates

/-- Walking `next` from the first of `xs` visits `xs` in order, every `prev` pointing one back;
`p` stands before the first node and `q` after the last. -/
def Segment (links : Links κ) : Option κ → List κ → Option κ → Prop
  | _, [], _ => True
  | p, x :: xs, q => links x = some ⟨p, xs.head?.or q⟩ ∧ Segment links (some x) xs q

structure Chain (links : Links κ) (order : List κ) : Prop where
  nodup : order.Nodup
  segment : Segment links none order none

structure Walk (links : Links κ) (order : List κ) : Prop extends Chain links order where
  covers : ∀ k, (links k).isSome ↔ k ∈ order

variable {links links' : Links κ} {p q v k : Option κ} {x y : κ} {xs ys : List κ}

/-! ## Segments -/

theorem Segment.congr (h : Segment links p xs q) (same : ∀ y ∈ xs, links' y = links y) :
    Segment links' p xs q := by
  induction xs generalizing p with
  | nil => trivial
  | cons x xs ih =>
      refine ⟨?_, ih h.2 fun y hy => same y (List.mem_cons_of_mem _ hy)⟩
      rw [same x List.mem_cons_self]
      exact h.1

theorem segment_append :
    Segment links p (xs ++ ys) q ↔
      Segment links p xs (ys.head?.or q) ∧ Segment links (xs.getLast?.or p) ys q := by
  induction xs generalizing p with
  | nil => simp [Segment]
  | cons x xs ih =>
      have last : ((x :: xs).getLast?.or p) = (xs.getLast?.or (some x)) := by
        cases h : xs.getLast? <;> simp [List.getLast?_cons, h]
      have first : ((xs ++ ys).head?.or q) = (xs.head?.or (ys.head?.or q)) := by
        cases xs <;> simp
      simp only [List.cons_append, Segment, ih, last, first, and_assoc]

theorem Segment.isSome (h : Segment links p xs q) (mem : x ∈ xs) : (links x).isSome := by
  induction xs generalizing p with
  | nil => cases mem
  | cons y ys ih =>
      rcases List.mem_cons.mp mem with rfl | mem
      · rw [h.1]
        rfl
      · exact ih h.2 mem

section Updates
variable [DecidableEq κ]

theorem setNext_none : setNext links none v = links := by
  funext i
  simp [setNext]

theorem setPrev_none : setPrev links none v = links := by
  funext i
  simp [setPrev]

theorem Segment.setNext_of_notMem (h : Segment links p xs q) (notMem : ∀ y ∈ xs, some y ≠ k) :
    Segment (setNext links k v) p xs q :=
  h.congr fun y hy => by simp [setNext, notMem y hy]

theorem Segment.setPrev_of_notMem (h : Segment links p xs q) (notMem : ∀ y ∈ xs, some y ≠ k) :
    Segment (setPrev links k v) p xs q :=
  h.congr fun y hy => by simp [setPrev, notMem y hy]

theorem Segment.put_of_notMem {l : Link κ} (h : Segment links p xs q) (notMem : y ∉ xs) :
    Segment (put links y l) p xs q :=
  h.congr fun z hz => by
    have : z ≠ y := fun e => notMem (e ▸ hz)
    simp [put, this]

theorem Segment.setNext_last (h : Segment links p xs q) (nodup : xs.Nodup) :
    Segment (setNext links xs.getLast? v) p xs v := by
  induction xs generalizing p with
  | nil => trivial
  | cons x xs ih =>
      obtain ⟨fresh, nodup⟩ := List.nodup_cons.mp nodup
      cases xs with
      | nil => simp [Segment, setNext, h.1]
      | cons y ys =>
          rw [List.getLast?_cons_cons]
          refine ⟨?_, ih h.2 nodup⟩
          have notLast : some x ≠ (y :: ys).getLast? := fun e =>
            fresh (List.mem_of_getLast? e.symm)
          simpa [setNext, notLast] using h.1

theorem Segment.setPrev_head (h : Segment links p xs q) (nodup : xs.Nodup) :
    Segment (setPrev links xs.head? v) v xs q := by
  cases xs with
  | nil => trivial
  | cons x xs =>
      have fresh := (List.nodup_cons.mp nodup).1
      refine ⟨by simp [setPrev, h.1], h.2.congr fun y hy => ?_⟩
      have : y ≠ x := fun e => fresh (e ▸ hy)
      simp [setPrev, this]

end Updates

/-! ## Reading a chain -/

theorem Chain.link (h : Chain links (xs ++ x :: ys)) :
    links x = some ⟨xs.getLast?, ys.head?⟩ := by
  have := (segment_append.mp h.segment).2.1
  simpa using this

theorem Chain.prev_none_iff (h : Chain links xs) {l : Link κ} (mem : x ∈ xs)
    (hl : links x = some l) : l.prev = none ↔ xs.head? = some x := by
  obtain ⟨as, bs, rfl⟩ := List.append_of_mem mem
  have notMem : x ∉ as := fun hx =>
    List.disjoint_of_nodup_append h.nodup hx List.mem_cons_self
  obtain rfl := Option.some.inj (hl.symm.trans h.link)
  cases as with
  | nil => simp
  | cons a as =>
      have : a ≠ x := fun e => notMem (e ▸ List.mem_cons_self)
      simp [List.getLast?_cons, this]

theorem Chain.next_none_iff (h : Chain links xs) {l : Link κ} (mem : x ∈ xs)
    (hl : links x = some l) : l.next = none ↔ xs.getLast? = some x := by
  obtain ⟨as, bs, rfl⟩ := List.append_of_mem mem
  have notMem : x ∉ bs := fun hx =>
    (List.nodup_cons.mp (List.nodup_append.mp h.nodup).2.1).1 hx
  obtain rfl := Option.some.inj (hl.symm.trans h.link)
  cases bs with
  | nil => simp
  | cons b bs =>
      have : (b :: bs).getLast? ≠ some x := fun e => notMem (List.mem_of_getLast? e)
      simpa [List.getLast?_cons_cons] using this

/-! ## Pointer surgery -/

section Surgery
variable [DecidableEq κ]

/-- Stitching a node's neighbours together takes exactly that node out of the chain. -/
theorem Chain.detach (h : Chain links (xs ++ x :: ys)) :
    Chain (setPrev (setNext links xs.getLast? ys.head?) ys.head? xs.getLast?) (xs ++ ys) := by
  obtain ⟨front, _, back⟩ := segment_append.mp h.segment
  have nodup : (xs ++ ys).Nodup := h.nodup.sublist (by simp)
  obtain ⟨nodupXs, nodupYs, apart⟩ := List.nodup_append.mp nodup
  refine ⟨nodup, segment_append.mpr ⟨?_, ?_⟩⟩
  · rw [Option.or_none]
    refine (front.setNext_last nodupXs).setPrev_of_notMem fun y hy e => ?_
    exact apart y hy y (List.mem_of_head? e.symm) rfl
  · rw [Option.or_none]
    refine Segment.setPrev_head (back.setNext_of_notMem fun y hy e => ?_) nodupYs
    exact apart y (List.mem_of_getLast? e.symm) y hy rfl

theorem Chain.insertAfter (h : Chain links (xs ++ y :: ys)) (fresh : x ∉ xs ++ y :: ys) :
    Chain (put (setNext (setPrev links ys.head? (some x)) (some y) (some x)) x
      ⟨some y, ys.head?⟩) (xs ++ y :: x :: ys) := by
  have split (zs : List κ) : xs ++ y :: zs = (xs ++ [y]) ++ zs := by simp
  rw [split] at h fresh ⊢
  obtain ⟨freshFront, freshBack⟩ := not_or.mp (mt List.mem_append.mpr fresh)
  obtain ⟨nodupFront, nodupBack, apart⟩ := List.nodup_append.mp h.nodup
  obtain ⟨front, back⟩ := segment_append.mp h.segment
  have last : some y = (xs ++ [y]).getLast? := by simp
  have ends (z : κ) (hz : z ∈ ys) : some z ≠ some y := fun e =>
    apart y (by simp) z hz (Option.some.inj e).symm
  constructor
  · refine List.nodup_append.mpr ⟨nodupFront, List.nodup_cons.mpr ⟨freshBack, nodupBack⟩, ?_⟩
    intro a ha b hb e
    rcases List.mem_cons.mp hb with rfl | hb
    · exact freshFront (e ▸ ha)
    · exact apart a ha b hb e
  · refine segment_append.mpr ⟨?_, ?_, ?_⟩
    · refine Segment.put_of_notMem ?_ freshFront
      rw [last]
      refine Segment.setNext_last (front.setPrev_of_notMem fun z hz e => ?_) nodupFront
      exact apart z hz z (List.mem_of_head? e.symm) rfl
    · simp [put]
    · refine Segment.put_of_notMem ?_ freshBack
      exact (back.setPrev_head nodupBack).setNext_of_notMem ends

theorem Chain.insertFront (h : Chain links xs) (fresh : x ∉ xs) :
    Chain (put (setPrev links xs.head? (some x)) x ⟨none, xs.head?⟩) (x :: xs) :=
  ⟨List.nodup_cons.mpr ⟨fresh, h.nodup⟩, by simp [put],
    (h.segment.setPrev_head h.nodup).put_of_notMem fresh⟩

theorem Chain.append (h : Chain links xs) (fresh : x ∉ xs) :
    Chain (setNext (put links x ⟨xs.getLast?, none⟩) xs.getLast? (some x)) (xs ++ [x]) := by
  have notLast : some x ≠ xs.getLast? := fun e => fresh (List.mem_of_getLast? e.symm)
  constructor
  · refine List.nodup_append.mpr ⟨h.nodup, List.nodup_singleton x, ?_⟩
    intro a ha b hb e
    rw [List.mem_singleton.mp hb] at e
    exact fresh (e ▸ ha)
  · refine segment_append.mpr ⟨?_, ?_, trivial⟩
    · exact (h.segment.put_of_notMem fresh).setNext_last h.nodup
    · simp [setNext, notLast, put]

end Surgery

end Links
end SupplyDrop.Library

namespace SupplyDrop.Library.Path
variable {κ : Type} {next : κ → Option κ} {x y d : κ} {xs : List κ} {q : Option κ}

/-- `next` leads from each of `xs` to the one behind it, and from the last of them to `q`. -/
def Leads (next : κ → Option κ) : List κ → Option κ → Prop
  | [], _ => True
  | x :: xs, q => next x = xs.head?.or q ∧ Leads next xs q

theorem leads_concat : Leads next (xs ++ [d]) q ↔ Leads next xs (some d) ∧ next d = q := by
  induction xs with
  | nil => simp [Leads]
  | cons x xs ih =>
      have first : ((xs ++ [d]).head?.or q) = (xs.head?.or (some d)) := by
        cases xs <;> rfl
      simp only [List.cons_append, Leads, ih, first, and_assoc]

/-- Where `next` leads from one of them is further on. -/
theorem Leads.mem_tail (leads : Leads next xs q) (mem : x ∈ xs) (to_ : next x = some y) :
    y ∈ xs.tail ∨ q = some y := by
  induction xs with
  | nil => cases mem
  | cons a xs ih =>
      rcases List.mem_cons.mp mem with rfl | mem
      · rw [leads.1] at to_
        cases xs with
        | nil => exact .inr to_
        | cons b xs =>
            cases to_
            exact .inl List.mem_cons_self
      · rcases ih leads.2 mem with later | out
        · exact .inl (List.mem_of_mem_tail later)
        · exact .inr out

/-- All but the first are led to. -/
theorem Leads.named (leads : Leads next xs q) (mem : y ∈ xs.tail) :
    ∃ x ∈ xs, next x = some y := by
  induction xs with
  | nil => cases mem
  | cons a xs ih =>
      cases xs with
      | nil => cases mem
      | cons b xs =>
          rcases List.mem_cons.mp mem with rfl | mem
          · exact ⟨a, List.mem_cons_self, leads.1⟩
          · obtain ⟨x, here, to_⟩ := ih leads.2 mem
            exact ⟨x, List.mem_cons_of_mem _ here, to_⟩

theorem Leads.isSome (leads : Leads next xs (some d)) (mem : x ∈ xs) : (next x).isSome := by
  induction xs with
  | nil => cases mem
  | cons a xs ih =>
      rcases List.mem_cons.mp mem with rfl | mem
      · rw [leads.1]
        cases xs <;> rfl
      · exact ih leads.2 mem

end SupplyDrop.Library.Path
