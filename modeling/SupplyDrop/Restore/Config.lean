import Mathlib
import SupplyDrop.Library.KeyTree

namespace SupplyDrop.Restore
open Library KeyTree

/-- A TOML document. A table is one node however it is written (a header, dotted keys or braces),
and whatever is not a table, an array of tables among it, is a leaf. -/
abbrev Document (Value : Type) := Table String Value

/-- The parser and the printer of the documents. -/
structure TomlEdit (Text Value : Type) where
  parse : Text → Except String (Document Value)
  print : Document Value → Text

def machineSpecificKeys : List (List String) :=
  [["bbs", "data_dir"],
   ["database"],
   ["logging", "file"],
   ["backup"],
   ["security"],
   ["plugins", "cli"],
   ["plugins", "web"],
   ["plugins", "process"],
   ["plugins", "mesh", "connection_type"],
   ["plugins", "mesh", "addr"],
   ["plugins", "mesh", "serial_port"],
   ["plugins", "mesh", "baud_rate"],
   ["plugins", "mesh", "radio"],
   ["plugins", "mesh", "enabled"],
   ["plugins", "mesh", "app_target_version"],
   ["plugins", "mesh", "advert_scope"],
   ["plugins", "mesh", "protected_contact_cap"],
   ["plugins", "meshtastic", "connection_type"],
   ["plugins", "meshtastic", "addr"],
   ["plugins", "meshtastic", "serial_port"],
   ["plugins", "meshtastic", "baud_rate"],
   ["plugins", "meshtastic", "radio"],
   ["plugins", "meshtastic", "enabled"],
   ["plugins", "meshtastic", "protected_contact_cap"],
   ["plugins", "meshtastic", "short_name"],
   ["plugins", "meshtastic", "long_name"]]

variable {Text Value : Type} (toml : TomlEdit Text Value)

def parseNamed (whose : String) (text : Text) : Except String (Document Value) :=
  (toml.parse text).mapError fun e => s!"the {whose} is not valid TOML: {e}"

/-- The restored config with this machine's values for the machine-specific keys. -/
def mergeForRestore (current restored : Text) : Except String Text := do
  let current ← parseNamed toml "current config.toml" current
  let merged ← parseNamed toml "config.toml in the backup" restored
  let merged ← (overlay machineSpecificKeys current merged).mapError fun key =>
    s!"the config.toml in the backup has a `{key}` that is not a table"
  pure (toml.print merged)

end SupplyDrop.Restore
