import Mathlib
import SupplyDrop.Library.Columns
import SupplyDrop.Library.Lines
import SupplyDrop.Library.Utf8
import SupplyDrop.Host.Archive
import SupplyDrop.Host.Format

namespace SupplyDrop.Host.AuditText
open Library Library.Columns Library.Utf8 Store

/-! ## Entries as lines -/

structure AdminAuditEntry where
  id : Int64
  actor : String
  action : String
  target : Option String
  detail : Option String
  createdAt : String
deriving DecidableEq

/-- `str::replace` of a character. -/
def replace (c : Char) (t s : String) : String :=
  String.ofList (s.toList.flatMap fun d => if d = c then t.toList else [d])

def field (s : Option String) : String :=
  match s with
  | none => "-"
  | some v =>
      if v = "" then "-" else replace '\n' "\\n" (replace '\t' "\\t" (replace '\\' "\\\\" v))

def formatEntry (e : AdminAuditEntry) : String :=
  s!"{e.id}\t{e.createdAt}\t{field (some e.actor)}\t{field (some e.action)}\t{field e.target}\t" ++
    field e.detail

/-- The text of a row's time, `strftime('%Y-%m-%dT%H:%M:%SZ')`. -/
def auditTimeText (t : AuditTime) : String :=
  let clock := t.second % 86400
  let two := fun n : Nat => Text.zeroPadded 2 n
  Text.zeroPadded 4 t.year ++ "-" ++ two t.month ++ "-" ++ two (t.second / 86400 + 1) ++ "T" ++
    two (clock / 3600) ++ ":" ++ two (clock / 60 % 60) ++ ":" ++ two (clock % 60) ++ "Z"

/-- An entry as the queries of the store hand it out. -/
def adminEntry (id : Int64) (row : AuditRow) : AdminAuditEntry :=
  ⟨id, row.actor, row.action, row.target, row.detail, auditTimeText row.createdAt⟩

/-! ## The header -/

def entriesLine (count : UInt64) (firstId lastId : Int64) : String :=
  "# entries: " ++ toString count ++ " (ids " ++ toString firstId ++ "-" ++ toString lastId ++ ")"

def headerLines (count : UInt64) (firstId lastId : Int64) (takenAt : String) : List String :=
  ["# Supply Drop BBS audit log archive",
    "# taken: " ++ takenAt,
    entriesLine count firstId lastId,
    "# columns: id\\tcreated_at\\tactor\\taction\\ttarget\\tdetail",
    "# '-' means the field was empty. Tabs and newlines inside a field are",
    "# written as \\t and \\n so one entry is always one line."]

def header (count : UInt64) (firstId lastId : Int64) (takenAt : String) : String :=
  String.join ((headerLines count firstId lastId takenAt).map fun line => line ++ "\n")

/-- `str::split_once` at a text. -/
def splitOnceAt (word s : String) : Option (String × String) :=
  (cutAt word.toList s.toList).map fun parts => (String.ofList parts.1, String.ofList parts.2)

/-- The unsigned numbers of so many bits. -/
def parseUnsigned (bits : Nat) (s : String) : Option Nat :=
  if s.toList.head? = some '-' then none
  else (Text.parseInt s).bind fun n => if n < 2 ^ bits then some n.toNat else none

def parseHeaderRange (line : String) : Option Int := do
  let rest ← Text.stripPrefix "# entries: " line
  let (count, rest) ← splitOnceAt " (ids " rest
  let _ ← parseUnsigned 64 count
  let range ← Text.stripSuffix ")" rest
  if range ≠ "" ∧ '-' ∈ range.toList ∧ ¬range.toList.head? = some '-' then do
    let (first, last) ← Text.splitOnce (· = '-') range
    let first ← Text.parseI64 first
    let last ← Text.parseI64 last
    if 0 ≤ first ∧ first ≤ last then some last else none
  else none

/-- `str::lines`: what follows the last line feed is a line unless it is empty. -/
def strLines (text : String) : List String :=
  let pieces := Text.lines text
  (pieces.dropLast.map fun line => (Text.stripSuffix "\r" line).getD line) ++
    (pieces.getLast?.toList.filter (· ≠ ""))

/-- The loop of `archived_through` over the lines at the head of an archive. -/
def headRange (head : String) : Option Int :=
  ((strLines head).takeWhile fun line => line.toList.head? = some '#').findSome? parseHeaderRange

/-! ## File names -/

def isAsciiDigit (b : UInt8) : Bool := 0x30 ≤ b && b ≤ 0x39

def isAuditArchive (filename : String) : Bool :=
  match Text.stripPrefix "audit-" filename with
  | none => false
  | some rest => match Text.stripSuffix ".zip" rest with
    | none => false
    | some stem =>
        let bytes := asBytes stem
        if bytes.length ≠ 7 ∨ bytes[4]? ≠ some 0x2D then false
        else if !(bytes.zipIdx.all fun b => if b.2 = 4 then true else isAsciiDigit b.1) then false
        -- all bytes are ASCII here, so that bytes and characters are the same
        else match parseUnsigned 32 (String.ofList (stem.toList.drop 5)) with
          | some month => 1 ≤ month && month ≤ 12
          | none => false

end SupplyDrop.Host.AuditText
