import SupplyDrop.Library.SwapLoop

namespace SupplyDrop.Mesh
open Library.SwapLoop

abbrev U32 := Fin (2 ^ 32)

def u32Max : U32 := Fin.last (2 ^ 32 - 1)

def saturatingAdd (a b : U32) : U32 :=
  if fits : a.val + b.val < 2 ^ 32 then ⟨a.val + b.val, fits⟩ else u32Max

/-- `now.max(last.saturating_add(1))` -/
def nextStamp (now last : U32) : U32 := max now (saturatingAdd last 1)

/-- Calls of `next_outbound_timestamp`: each reads the clock, which may show anything, and then runs
its loop on `NEXT_OUTBOUND_TS`. -/
def outboundStamps {ι : Type} [DecidableEq ι] (actions : List (Action ι U32 U32)) :
    Cell ι U32 U32 :=
  Cell.run nextStamp 0 actions

end SupplyDrop.Mesh
