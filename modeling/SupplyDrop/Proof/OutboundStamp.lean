import SupplyDrop.Mesh.OutboundStamp

namespace SupplyDrop.Proof.OutboundStamp
open Library.SwapLoop Mesh
variable {ι : Type} [DecidableEq ι]

theorem u32Max_isMax : IsMax u32Max := fun a _ => Fin.le_last a

theorem nextStamp_exceeds (now last : U32) : Exceeds u32Max (nextStamp now last) last := by
  unfold nextStamp saturatingAdd
  split
  · left
    exact lt_max_of_lt_right (Fin.lt_def.mpr (Nat.lt_succ_self _))
  · exact .inr (max_eq_right (Fin.le_last now))

theorem outboundStamps_append (actions rest : List (Action ι U32 U32)) :
    outboundStamps (actions ++ rest) = rest.foldl (Cell.next nextStamp) (outboundStamps actions) :=
  List.foldl_append

theorem rising (actions : List (Action ι U32 U32)) : Rising u32Max (outboundStamps actions) :=
  Rising.run u32Max_isMax nextStamp_exceeds 0 actions

/-- In the order in which the calls took their stamps, in the order in which calls follow one
another, and for any two calls. -/
theorem outbound_stamps_increase (actions : List (Action ι U32 U32)) :
    (outboundStamps actions).swaps.Pairwise
        (fun later earlier => earlier.2 < later.2 ∨ later.2 = u32Max) ∧
      (∀ i v, (outboundStamps actions).phase i = .returned v →
        (i, v) ∈ (outboundStamps actions).swaps) ∧
      (∀ i j v w, i ≠ j → (outboundStamps actions).phase i = .returned v →
        (outboundStamps actions).phase j = .returned w → v = w → v = u32Max) ∧
      ∀ rest i j v w, (outboundStamps actions).phase i = .returned v →
        (outboundStamps actions).phase j = .idle →
        (outboundStamps (actions ++ rest)).phase j = .returned w → v < w ∨ w = u32Max := by
  have now := rising actions
  refine ⟨?_, ?_, ?_, ?_⟩
  · exact List.pairwise_map.mp (List.pairwise_append.mp now.held).1
  · intro i v done
    rw [now.puts, done, Phase.put]
  · intro i j v w other first second same
    exact now.distinct other (by rw [first, Phase.put]) (by rw [second, Phase.put]) same
  · intro rest i j v w first idle second
    have after := rising (actions ++ rest)
    rw [outboundStamps_append] at after second
    exact after.later now (by rw [first, Phase.put]) (by rw [idle]; rfl)
      (by rw [second, Phase.put])

end SupplyDrop.Proof.OutboundStamp
