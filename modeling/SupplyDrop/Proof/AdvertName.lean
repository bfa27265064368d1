import SupplyDrop.Mesh.NodeName

namespace SupplyDrop.Proof.AdvertName
open Library Mesh

/-! ## Cutting at a boundary -/

section Cut
variable {s : String} {n : Nat}

theorem lastBoundary_le (s : String) (n : Nat) : lastBoundary s n ≤ n := by
  induction n with
  | zero => exact le_rfl
  | succ n ih =>
      unfold lastBoundary
      split
      · exact le_rfl
      · exact ih.trans n.le_succ

theorem isCharBoundary_iff :
    isCharBoundary s n ↔ ∃ part, part <+: s.toList ∧ Clip.total Char.utf8Size part = n := by
  simp [isCharBoundary]

/-- The search never ends inside a character. -/
theorem lastBoundary_boundary (s : String) (n : Nat) : isCharBoundary s (lastBoundary s n) := by
  induction n with
  | zero => exact isCharBoundary_iff.mpr ⟨[], List.nil_prefix, rfl⟩
  | succ n ih =>
      unfold lastBoundary
      split
      · assumption
      · exact ih

theorem bytesTo_prefix (s : String) (n : Nat) : (bytesTo s n).toList <+: s.toList := by
  rw [bytesTo, String.toList_ofList]
  exact Clip.fitting_prefix s.toList n

theorem bytesTo_bytes (boundary : isCharBoundary s n) : (bytesTo s n).utf8ByteSize = n := by
  obtain ⟨part, starts, rfl⟩ := isCharBoundary_iff.mp boundary
  rw [bytesTo, Clip.bytes_ofList, Clip.total_fitting_of_prefix starts]

end Cut

section Names
variable {isFormat : Char → Bool} {s configured : String} {sharing : Bool}

theorem strip_plain (plain : ∀ c ∈ s.toList, isFormat c = false) :
    stripDisplaySpoofingCodepoints isFormat s = s := by
  rw [stripDisplaySpoofingCodepoints, List.filter_eq_self.mpr, String.ofList_toList]
  intro c mem
  rw [plain c mem, Bool.not_false]

theorem plain_strip {c : Char} (mem : c ∈ (stripDisplaySpoofingCodepoints isFormat s).toList) :
    isFormat c = false := by
  rw [stripDisplaySpoofingCodepoints, String.toList_ofList, List.mem_filter] at mem
  simpa using mem.2

theorem truncate_starts (s : String) (sharing : Bool) :
    (truncateMeshNodeName isFormat s sharing).toList <+:
      (stripDisplaySpoofingCodepoints isFormat s).toList := by
  unfold truncateMeshNodeName
  dsimp only
  split
  · exact List.prefix_rfl
  · exact bytesTo_prefix _ _

theorem truncate_bytes (s : String) (sharing : Bool) :
    (truncateMeshNodeName isFormat s sharing).utf8ByteSize ≤ maxMeshNodeNameBytes sharing := by
  unfold truncateMeshNodeName
  dsimp only
  split
  · assumption
  · rw [bytesTo_bytes (lastBoundary_boundary _ _)]
    exact lastBoundary_le _ _

theorem truncate_fits (plain : ∀ c ∈ s.toList, isFormat c = false)
    (short : s.utf8ByteSize ≤ maxMeshNodeNameBytes sharing) :
    truncateMeshNodeName isFormat s sharing = s := by
  unfold truncateMeshNodeName
  rw [strip_plain plain]
  exact if_pos short

/-- The name that the host keeps has only what was left of the configured one, and so has what is
cut from it once more. -/
theorem truncate_truncate_starts (s : String) (first second : Bool) :
    (truncateMeshNodeName isFormat (truncateMeshNodeName isFormat s first) second).toList <+:
      (stripDisplaySpoofingCodepoints isFormat s).toList := by
  have kept := @truncate_starts isFormat s first
  have again := @truncate_starts isFormat (truncateMeshNodeName isFormat s first) second
  rw [strip_plain fun c mem => plain_strip (kept.subset mem)] at again
  exact again.trans kept

theorem validate_ok (valid : validateMeshNodeName s sharing = .ok ()) :
    s.isEmpty = false ∧ s.utf8ByteSize ≤ maxMeshNodeNameBytes sharing := by
  unfold validateMeshNodeName at valid
  dsimp only at valid
  split_ifs at valid with empty long
  exact ⟨Bool.eq_false_iff.mpr empty, not_lt.mp long⟩

theorem budget_le (sharing : Bool) :
    maxMeshNodeNameBytes sharing + (if sharing then 8 else 0) = 31 := by
  cases sharing <;> rfl

end Names

/-! ## The names of a sequence -/

section Sequences
variable {L : Type} {isFormat : Char → Bool}

def namesOf (frames : List (AdvertFrame L)) : List String :=
  frames.filterMap fun
    | .setAdvertName name => some name
    | _ => none

/-- The name that a configured one becomes in an advert with or without a location. -/
def sentName (isFormat : Char → Bool) (configured : String) (sharing : Bool) : String :=
  truncateMeshNodeName isFormat (truncateMeshNodeName isFormat configured false) sharing

/-- The sequence sends one name, which fits, unless nothing is left of it. -/
structure Fits (isFormat : Char → Bool) (configured : String) (sharing : Bool)
    (frames : List (AdvertFrame L)) : Prop where
  name : ∃ name : String,
    name.toList <+: (stripDisplaySpoofingCodepoints isFormat configured).toList ∧
      name.utf8ByteSize + (if sharing then 8 else 0) ≤ 31 ∧
      namesOf frames = if name = "" then [] else [name]
  unchanged : validateMeshNodeName configured sharing = .ok () →
    (∀ c ∈ configured.toList, isFormat c = false) → namesOf frames = [configured]

theorem fits_of_names {configured : String} {sharing : Bool} {frames : List (AdvertFrame L)}
    (names : namesOf frames =
      if sentName isFormat configured sharing = "" then [] else [sentName isFormat configured sharing]) :
    Fits isFormat configured sharing frames where
  name := by
    refine ⟨_, truncate_truncate_starts configured false sharing, ?_, names⟩
    rw [← budget_le sharing]
    exact Nat.add_le_add_right (truncate_bytes _ sharing) _
  unchanged valid plain := by
    obtain ⟨some_, short⟩ := validate_ok valid
    have loose : configured.utf8ByteSize ≤ maxMeshNodeNameBytes false := by
      have := budget_le sharing
      exact short.trans (by rw [show maxMeshNodeNameBytes false = 31 from rfl]; omega)
    rw [names, sentName, truncate_fits plain loose, truncate_fits plain short, if_neg]
    rintro rfl
    cases some_

theorem namesOf_append (xs ys : List (AdvertFrame L)) : namesOf (xs ++ ys) = namesOf xs ++ namesOf ys :=
  List.filterMap_append

theorem namesOf_latlon (state : Option (L × Bool)) : namesOf (latlonFrames state) = [] := by
  cases state <;> rfl

theorem namesOf_policy (sharing : Bool) (params : Option DeviceOtherParams) :
    namesOf (policyFrames sharing params : List (AdvertFrame L)) = [] := by
  unfold policyFrames
  cases params with
  | none => rfl
  | some params =>
      dsimp only
      split_ifs <;> rfl

theorem namesOf_name (configured : String) (sharing : Bool) :
    namesOf (nameFrames isFormat (some (truncateMeshNodeName isFormat configured false)) sharing :
        List (AdvertFrame L)) =
      if sentName isFormat configured sharing = "" then []
      else [sentName isFormat configured sharing] := by
  unfold nameFrames sentName
  dsimp only
  simp only [String.isEmpty_iff]
  split <;> rfl

/-! ## Changes in any order -/

/-- The name in the configuration that the program last started with. -/
def configuredAfter (start : String) (changes : List (AdvertHost.Change L)) : String :=
  changes.foldl (fun name change =>
    match change with
    | .setNodeName configured => configured
    | _ => name) start

def hostAfter (isFormat : Char → Bool) (start : String) (changes : List (AdvertHost.Change L)) :
    AdvertHost L :=
  changes.foldl (AdvertHost.apply isFormat)
    ⟨some (truncateMeshNodeName isFormat start false), none, true⟩

theorem nodeName_hostAfter (start : String) (changes : List (AdvertHost.Change L)) :
    (hostAfter isFormat start changes).nodeName =
      some (truncateMeshNodeName isFormat (configuredAfter start changes) false) := by
  unfold hostAfter configuredAfter
  induction changes using List.reverseRecOn with
  | nil => rfl
  | append_singleton changes change ih =>
      rw [List.foldl_append, List.foldl_append]
      cases change with
      | setNodeName configured => rfl
      | _ => exact ih

end Sequences

end SupplyDrop.Proof.AdvertName
