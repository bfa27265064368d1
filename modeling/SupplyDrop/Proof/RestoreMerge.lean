import Mathlib
import SupplyDrop.Restore.Config

namespace SupplyDrop.Proof.RestoreMerge
open Library KeyTree SupplyDrop.Restore

theorem keys_named : ∀ p ∈ machineSpecificKeys, p ≠ [] := by decide

theorem keys_apart : machineSpecificKeys.Pairwise Apart := by decide +kernel

variable {Text Value : Type} {toml : TomlEdit Text Value} {current restored merged : Text}

theorem parseNamed_ok {whose : String} {text : Text} {d : Document Value}
    (h : parseNamed toml whose text = .ok d) : toml.parse text = .ok d := by
  unfold parseNamed at h
  cases parsed : toml.parse text with
  | error e =>
      rw [parsed] at h
      cases h
  | ok d' =>
      rw [parsed] at h
      exact h

theorem parseNamed_of {whose : String} {text : Text} {d : Document Value}
    (h : toml.parse text = .ok d) : parseNamed toml whose text = .ok d := by
  rw [parseNamed, h]
  rfl

theorem mergeForRestore_ok (done : mergeForRestore toml current restored = .ok merged) :
    ∃ c b m, toml.parse current = .ok c ∧ toml.parse restored = .ok b ∧
      overlay machineSpecificKeys c b = .ok m ∧ merged = toml.print m := by
  unfold mergeForRestore at done
  cases first : parseNamed toml "current config.toml" current with
  | error e =>
      rw [first] at done
      cases done
  | ok c =>
      rw [first] at done
      cases second : parseNamed toml "config.toml in the backup" restored with
      | error e =>
          simp only [second, bind, Except.bind] at done
          cases done
      | ok b =>
          simp only [second, bind, Except.bind] at done
          cases laid : overlay machineSpecificKeys c b with
          | error key =>
              simp only [laid, Except.mapError] at done
              cases done
          | ok m =>
              simp only [laid, Except.mapError] at done
              cases done
              exact ⟨c, b, m, parseNamed_ok first, parseNamed_ok second, laid, rfl⟩

theorem mergeForRestore_of {c b m : Document Value} (first : toml.parse current = .ok c)
    (second : toml.parse restored = .ok b) (laid : overlay machineSpecificKeys c b = .ok m) :
    mergeForRestore toml current restored = .ok (toml.print m) := by
  unfold mergeForRestore
  rw [parseNamed_of first, parseNamed_of second]
  simp only [bind, Except.bind, laid, Except.mapError, pure, Except.pure]

/-- `faithful`: the printer writes a document so that the parser reads the same one back. -/
theorem restore_merges (toml : TomlEdit Text Value)
    (faithful : ∀ d, toml.parse (toml.print d) = .ok d)
    (done : mergeForRestore toml current restored = .ok merged) :
    ∃ c b m, toml.parse current = .ok c ∧ toml.parse restored = .ok b ∧
      toml.parse merged = .ok m ∧ Overlaid machineSpecificKeys c b m ∧
      mergeForRestore toml current merged = .ok merged := by
  obtain ⟨c, b, m, first, second, laid, rfl⟩ := mergeForRestore_ok done
  refine ⟨c, b, m, first, second, faithful m, overlaid keys_named keys_apart laid, ?_⟩
  exact mergeForRestore_of first (faithful m) (overlay_again keys_named keys_apart laid)

/-- Trees stand for their own texts. -/
def asWritten : TomlEdit (Document String) String := ⟨.ok, id⟩

def here : Document String :=
  [("plugins", .node [("web", .node [("bind", .leaf "127.0.0.1:8080")])]),
   ("bbs", .node [("name", .leaf "x")])]

def smuggled : Document String :=
  [("plugins", .node [("web", .node [("bind", .leaf "0.0.0.0:80"), ("cookie_secure", .leaf "false")]),
     ("cli", .node [("socket_mode", .leaf "0666")])]),
   ("bbs", .node [("name", .leaf "Inline"), ("data_dir", .leaf "/evil")]),
   ("database", .node [("path", .leaf "/evil/db")])]

def guarded : Document String :=
  [("plugins", .node [("web", .node [("bind", .leaf "127.0.0.1:8080")])]),
   ("bbs", .node [("name", .leaf "Inline")])]

theorem restore_merges_smuggled :
    ∃ c b m, asWritten.parse here = .ok c ∧ asWritten.parse smuggled = .ok b ∧
      asWritten.parse guarded = .ok m ∧ Overlaid machineSpecificKeys c b m ∧
      mergeForRestore asWritten here guarded = .ok guarded :=
  restore_merges asWritten (fun _ => rfl) (by rfl)

end SupplyDrop.Proof.RestoreMerge
