import SupplyDrop.Library.Recent
import SupplyDrop.Mesh.DeliveryStats

namespace SupplyDrop.Proof.RecentConfirmed
open Library.Recent Mesh Mesh.DeliveryStats
variable {s : DeliveryStats} {crc : Crc} {counted : List Crc}

theorem counts_iff : s.Counts crc ↔ crc ∉ s.seen := by
  unfold Counts onConfirmed
  split
  · next dup => exact ⟨fun differs => absurd rfl differs, fun new => absurd dup new⟩
  · next new =>
    refine ⟨fun _ => new, fun _ same => ?_⟩
    have := congrArg UInt64.toNat same
    simp [UInt64.toNat_add] at this
    omega

/-- The window of the counters after what was counted. -/
def Window (counted : List Crc) (s : DeliveryStats) : Prop :=
  Keeps recentConfirmedCap counted s.queue s.seen

theorem counts_iff_window (window : Window counted s) :
    s.Counts crc ↔ crc ∉ counted.take recentConfirmedCap := by
  rw [counts_iff, Keeps.known_iff window]

theorem window_onConfirmed (window : Window counted s)
    (distinct : (counted.take recentConfirmedCap).Nodup) :
    Window (count recentConfirmedCap counted crc) (s.onConfirmed crc) := by
  unfold onConfirmed
  split
  · next dup => rwa [count_known ((Keeps.known_iff window).mp dup)]
  · next new =>
    rw [count_new (fun known => new ((Keeps.known_iff window).mpr known))]
    dsimp only
    split
    · next full =>
      split
      · next none => exact absurd none (List.append_ne_nil_of_right_ne_nil _ (List.cons_ne_nil _ _))
      · next split => exact Keeps.push_pop window distinct new full split
    · next room => exact Keeps.push window (Nat.le_of_not_lt room)

theorem window_foldl (codes : List Crc) (window : Window counted s)
    (distinct : (counted.take recentConfirmedCap).Nodup) :
    Window (codes.foldl (count recentConfirmedCap) counted) (codes.foldl onConfirmed s) := by
  induction codes generalizing s counted with
  | nil => exact window
  | cons crc codes ih => exact ih (window_onConfirmed window distinct) (nodup_count distinct)

/-- The counters work like the counting of the codes that are not among the last 256 counted. -/
theorem window_run (codes : List Crc) :
    Window (codes.foldl (count recentConfirmedCap) []) (run codes) :=
  window_foldl codes Keeps.nil (nodup_start [])

theorem recent_confirmed_window (codes : List Crc) :
    (∀ crc, crc ∈ (run codes).seen ↔ crc ∈ (run codes).queue) ∧
      (run codes).queue.Nodup ∧ (run codes).queue.length ≤ 256 ∧ (run codes).seen.card ≤ 256 ∧
      ∀ before between later crc, codes = before ++ crc :: between ++ crc :: later →
        (run before).Counts crc → (run (before ++ crc :: between)).Counts crc →
        256 ≤ (between.toFinset.erase crc).card := by
  have window := window_run codes
  refine ⟨window.mem_seen, window.nodup (nodup_start _), window.length_le,
    window.card_le, ?_⟩
  intro before between later crc _ first again
  rw [counts_iff_window (window_run _)] at first again
  rw [List.foldl_append, List.foldl_cons] at again
  exact others_between (nodup_start _) first again

end SupplyDrop.Proof.RecentConfirmed
