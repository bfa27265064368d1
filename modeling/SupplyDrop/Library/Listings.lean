import Mathlib

/-!
# Counting what is listed in several places

A relation lists elements of `β` in places of `α`. Counting its pairs counts an element once for
each place it is listed in.
-/

namespace SupplyDrop.Library.Listings
variable {α β : Type}

def listed [DecidableEq β] (pairs : Finset (α × β)) : Finset β := pairs.image (·.2)

theorem mem_listed [DecidableEq β] {pairs : Finset (α × β)} {b : β} :
    b ∈ listed pairs ↔ ∃ a, (a, b) ∈ pairs := by
  simp [listed]

variable [LinearOrder α] [LinearOrder β]

/-- The listings of an element besides its first. -/
def again (pairs : Finset (α × β)) : Finset (α × β) :=
  pairs.filter fun p => ∃ q ∈ pairs, q.2 = p.2 ∧ q.1 < p.1

/-- Every listed element has a first listing. -/
theorem exists_first {pairs : Finset (α × β)} {b : β} (mem : b ∈ listed pairs) :
    ∃ a, (a, b) ∈ pairs \ again pairs := by
  obtain ⟨a, here⟩ := mem_listed.mp mem
  obtain ⟨p, first, least⟩ := (pairs.filter (·.2 = b)).exists_min_image (·.1)
    ⟨(a, b), by simp [here]⟩
  obtain ⟨member, rfl⟩ := Finset.mem_filter.mp first
  refine ⟨p.1, ?_⟩
  simp only [again, Finset.mem_sdiff, Finset.mem_filter, not_and, not_exists, not_lt]
  exact ⟨member, fun _ q other same => least q (by simp [other, same])⟩

/-- Each listed element counts once for its first listing. -/
theorem card_listings (pairs : Finset (α × β)) :
    pairs.card = (listed pairs).card + (again pairs).card := by
  have first : listed (pairs \ again pairs) = listed pairs := by
    ext b
    refine ⟨fun mem => ?_, fun mem => mem_listed.mpr (exists_first mem)⟩
    obtain ⟨a, here⟩ := mem_listed.mp mem
    exact mem_listed.mpr ⟨a, (Finset.mem_sdiff.mp here).1⟩
  have once : (listed (pairs \ again pairs)).card = (pairs \ again pairs).card := by
    apply Finset.card_image_of_injOn
    rintro ⟨a, b⟩ here ⟨a', b'⟩ there (rfl : b = b')
    simp only [again, Finset.mem_coe, Finset.mem_sdiff, Finset.mem_filter, not_and, not_exists,
      not_lt] at here there
    have up := here.2 here.1 (a', b) there.1 rfl
    have down := there.2 there.1 (a, b) here.1 rfl
    rw [le_antisymm up down]
  have parts : (pairs \ again pairs).card + (again pairs).card = pairs.card :=
    Finset.card_sdiff_add_card_eq_card (Finset.filter_subset _ _)
  rw [← first, once, parts]

/-- Counting listings and taking the least listed element is exact for what is listed and some more
elements when the rest of these are as many as the further listings, and none is the least. -/
theorem exact_iff (pairs : Finset (α × β)) (more : Finset β) {least : β}
    (least_ : IsLeast (listed pairs : Set β) least) :
    (pairs.card = (listed pairs ∪ more).card ∧
        IsLeast ((listed pairs ∪ more : Finset β) : Set β) least) ↔
      (more \ listed pairs).card = (again pairs).card ∧
        ∀ b ∈ more \ listed pairs, ∃ a ∈ listed pairs, a < b := by
  have listings := card_listings pairs
  have union := Finset.card_union_of_disjoint
    (Finset.disjoint_sdiff (s := listed pairs) (t := more))
  rw [Finset.union_sdiff_self_eq_union] at union
  have count : pairs.card = (listed pairs ∪ more).card ↔
      (more \ listed pairs).card = (again pairs).card := by omega
  rw [count]
  refine and_congr_right fun _ => ⟨fun all b mem => ?_, fun later => ⟨?_, fun b mem => ?_⟩⟩
  · obtain ⟨new, other⟩ := Finset.mem_sdiff.mp mem
    have le := all.2 (Finset.mem_coe.mpr (Finset.mem_union_right _ new))
    refine ⟨least, least_.1, lt_of_le_of_ne le ?_⟩
    rintro rfl
    exact other least_.1
  · exact Finset.mem_coe.mpr (Finset.mem_union_left _ least_.1)
  · by_cases here : b ∈ listed pairs
    · exact least_.2 here
    · have new := (Finset.mem_union.mp (Finset.mem_coe.mp mem)).resolve_left here
      obtain ⟨a, mem, lt⟩ := later b (Finset.mem_sdiff.mpr ⟨new, here⟩)
      exact (least_.2 mem).trans lt.le

end SupplyDrop.Library.Listings
