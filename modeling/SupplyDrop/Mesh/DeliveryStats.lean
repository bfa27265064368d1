import SupplyDrop.Mesh.SendTracker

namespace SupplyDrop.Mesh

def recentConfirmedCap : Nat := 256

/-- The part of the delivery counters that a confirmation changes. -/
structure DeliveryStats where
  confirmed : UInt64
  -- `recent_confirmed`: the queue and the set under its mutex
  queue : List Crc
  seen : Finset Crc

namespace DeliveryStats

def initial : DeliveryStats := ⟨0, [], ∅⟩

def onConfirmed (s : DeliveryStats) (crc : Crc) : DeliveryStats :=
  -- a duplicate within the recent window is counted already
  if crc ∈ s.seen then s
  else
    let seen := insert crc s.seen
    let queue := s.queue ++ [crc]
    let recent :=
      if recentConfirmedCap < queue.length then
        match queue with
        | [] => (queue, seen)
        | old :: rest => (rest, seen.erase old)
      else (queue, seen)
    ⟨s.confirmed + 1, recent.1, recent.2⟩

def run (codes : List Crc) : DeliveryStats := codes.foldl onConfirmed initial

/-- The confirmation raises the counter. -/
def Counts (s : DeliveryStats) (crc : Crc) : Prop := (s.onConfirmed crc).confirmed ≠ s.confirmed

end DeliveryStats

end SupplyDrop.Mesh
