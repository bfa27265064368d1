import Mathlib
import SupplyDrop.Library.Disk

namespace SupplyDrop.Restore
open Library Disk

/-! ## The files a restore touches -/

inductive Sidecar where
  | wal
  | shm
deriving DecidableEq

inductive RestoreFile where
  | db
  | sidecar (ext : Sidecar)
  | aside (ext : Sidecar)
  | copyFallbackTmp
  | pending
  | failed
  | applied
  | snapshot (stamp : Nat)
  | snapshotWal (stamp : Nat)
  | pendingConfig
  | config
  | configLock
  | preRestore
  -- the names with `.partial` and `.tmp` after them
  | partialOf (file : RestoreFile)
  | tmpOf (file : RestoreFile)
deriving DecidableEq

abbrev RestoreM (C : Type) := DiskM RestoreFile C

/-- What stays the same from one start to the next: how SQLite replays a WAL onto a database, what
merging two config files gives, and where the config is, when that is known. -/
structure Site (C : Type) where
  replay : C → C → C
  emptied : C
  replay_emptied : ∀ d, replay d emptied = d
  mergeForRestore : C → C → Except String C
  emptyText : C
  tooLarge : C → Bool
  configPath : Option String
  pendingConfigPath : String

/-- How the checkpoint before the snapshot comes out. -/
inductive Checkpoint where
  -- all of the WAL is in the database; the sidecars are gone, or the WAL is empty
  | folded (removed : Bool)
  | inUse
  | busyOrLocked (why : String)
  | damaged (why : String)
  | dies

structure Start where
  now : Nat
  checkpoint : Checkpoint
  -- why there is too little space, in the data directory and beside the database
  dataDirFull : Option String
  dbDirFull : Option String
  fate : FileOp RestoreFile → Fate

inductive ConfigOutcome where
  | notIncluded
  | applied (previous : Option RestoreFile)
  | failed (why : String)
deriving DecidableEq

inductive ApplyOutcome where
  | nothingPending
  | applied (snapshot : Option Nat) (snapshotHasWalCopy : Bool) (config : ConfigOutcome)
  | rejected (reason : String) (setAside : Option RestoreFile)
deriving DecidableEq

def safetySnapshotsKept : Nat := 3

def sidecars : List Sidecar := [.wal, .shm]

def Sidecar.suffix : Sidecar → String
  | .wal => "-wal"
  | .shm => "-shm"

variable {C : Type} (site : Site C) (start : Start)

def ensureFreeSpace (full : Option String) : RestoreM C Unit :=
  match full with
  | none => pure ()
  | some why => Program.fail (.failed why)

def setAside (name : RestoreFile) : RestoreM C (Option RestoreFile) := do
  let renamed ← tried (rename start.fate .pending name)
  match renamed with
  | .ok () => pure (some name)
  | .error _ => pure none

/-! ## The snapshot -/

def copyDurably (source target : RestoreFile) : RestoreM C Unit := do
  let result ← tried (do
    copy start.fate source (.partialOf target)
    flush start.fate (.partialOf target)
    rename start.fate (.partialOf target) target)
  match result with
  | .ok () => pure ()
  | .error why => do
      ignoring (remove start.fate (.partialOf target))
      Program.fail (.failed why)

def foldWal (removed : Bool) (t : Files RestoreFile C) : Files RestoreFile C :=
  let folded := match t.look .db, t.look (.sidecar .wal) with
    | some d, some w => (t.store .db (site.replay d w)).store (.sidecar .wal) site.emptied
    | _, _ => t
  if removed then (folded.drop (.sidecar .wal)).drop (.sidecar .shm) else folded

/-- Fold the WAL into the database. The result says whether a copy of it must go with the
snapshot. -/
def checkpointWal : RestoreM C Bool :=
  match start.checkpoint with
  | .folded removed => do
      Program.modify (foldWal site removed)
      pure false
  | .inUse => Program.fail (.failed ("the live database is in use by another process, so it " ++
      "cannot be snapshotted safely; stop the other process and stage the restore again"))
  | .busyOrLocked why => Program.fail (.failed (s!"the live database is busy or locked ({why}), " ++
      "so it cannot be snapshotted safely; stop whatever is using it and stage the restore again"))
  | .damaged _ => isThere (.sidecar .wal)
  | .dies => Program.fail .died

def snapshotStamp : RestoreFile → Option Nat
  | .snapshot stamp => some stamp
  | .snapshotWal stamp => some stamp
  | _ => none

def takenStamps (t : Files RestoreFile C) : List Nat :=
  t.entries.filterMap fun e => snapshotStamp e.1

/-- The first stamp from `stamp` on that no snapshot and no snapshot's WAL has, in `fuel` tries. -/
def firstFree (taken : List Nat) : Nat → Nat → Nat
  | 0, stamp => stamp
  | fuel + 1, stamp => if stamp ∈ taken then firstFree taken fuel (stamp + 1) else stamp

def nextSnapshotStamp (t : Files RestoreFile C) : Nat :=
  firstFree (takenStamps t) ((takenStamps t).foldr max 0 + 1) start.now

def copySnapshot (stamp : Nat) (walCopyNeeded : Bool) : RestoreM C Unit := do
  explaining (fun why => s!"could not snapshot the live database: {why}")
    (copyDurably start .db (.snapshot stamp))
  if walCopyNeeded then
    explaining (fun why => s!"could not copy the live database's WAL: {why}")
      (copyDurably start (.sidecar .wal) (.snapshotWal stamp))
  else pure ()

def snapshotLive : RestoreM C (Nat × Bool) := do
  ensureFreeSpace start.dataDirFull
  let walCopyNeeded ← checkpointWal site start
  let stamp ← Program.gets (nextSnapshotStamp start)
  let copied ← tried (copySnapshot start stamp walCopyNeeded)
  match copied with
  | .ok () => pure (stamp, walCopyNeeded)
  | .error why => do
      ignoring (remove start.fate (.snapshot stamp))
      ignoring (remove start.fate (.snapshotWal stamp))
      Program.fail (.failed why)

def snapshotsToPrune (stamps : List Nat) (keep : Nat) : List Nat :=
  (stamps.insertionSort (· ≥ ·)).drop keep

def removeSnapshots : List Nat → RestoreM C Unit
  | [] => pure ()
  | stamp :: rest => do
      ignoring (remove start.fate (.snapshot stamp))
      ignoring (remove start.fate (.snapshotWal stamp))
      removeSnapshots rest

def pruneOldSnapshots (justTaken : Option Nat) : RestoreM C Unit := do
  let listed ← tried (list start.fate)
  match listed with
  | .error _ => pure ()
  | .ok names => do
      let others := names.filterMap fun n => match n with
        | .snapshot stamp => if some stamp = justTaken then none else some stamp
        | _ => none
      let keepOthers := safetySnapshotsKept - (if justTaken.isSome then 1 else 0)
      removeSnapshots start (snapshotsToPrune others keepOthers)

/-! ## The swap -/

def restoreSidecars : List Sidecar → RestoreM C Unit
  | [] => pure ()
  | ext :: rest => do
      ignoring (rename start.fate (.aside ext) (.sidecar ext))
      restoreSidecars rest

def moveAside : List Sidecar → List Sidecar → RestoreM C (List Sidecar)
  | [], moved => pure moved
  | ext :: rest, moved => do
      let there ← isThere (.sidecar ext)
      if there then do
        let renamed ← tried (rename start.fate (.sidecar ext) (.aside ext))
        match renamed with
        | .ok () => moveAside rest (moved ++ [ext])
        | .error why => do
            restoreSidecars start moved
            Program.fail (.failed
              s!"could not move the live database's {ext.suffix} file out of the way: {why}")
      else moveAside rest moved

def moveSidecarsAside : RestoreM C (List Sidecar) := moveAside start sidecars []

def installByCopy : RestoreM C Unit := do
  ensureFreeSpace start.dbDirFull
  let swapped ← tried (do
    copy start.fate .pending .copyFallbackTmp
    flush start.fate .copyFallbackTmp
    rename start.fate .copyFallbackTmp .db)
  match swapped with
  | .error why => do
      ignoring (remove start.fate .copyFallbackTmp)
      Program.fail (.failed why)
  | .ok () => do
      let removed ← tried (remove start.fate .pending)
      match removed with
      | .ok () => pure ()
      | .error _ => do
          let _ ← setAside start .applied
          pure ()

def install : RestoreM C Unit := do
  let renamed ← tried (rename start.fate .pending .db)
  match renamed with
  | .ok () => pure ()
  | .error renameErr =>
      explaining (fun why => s!"rename failed ({renameErr}); copy fallback failed: {why}")
        (installByCopy start)

def removeAsides : List Sidecar → RestoreM C Unit
  | [] => pure ()
  | ext :: rest => do
      ignoring (remove start.fate (.aside ext))
      removeAsides rest

/-- The part of `apply` from the first sidecar moved to the last one removed. -/
def swap : RestoreM C Unit := do
  let moved ← moveSidecarsAside start
  let installed ← tried (install start)
  match installed with
  | .error why => do
      restoreSidecars start moved
      Program.fail (.failed why)
  | .ok () => removeAsides start moved

def apply : RestoreM C (Option Nat × Bool) := do
  explaining (fun why => s!"reading the staged restore file: {why}") (stat start.fate .pending)
  let live ← isThere .db
  let snapshot ← if live then do
      let (stamp, walCopy) ← snapshotLive site start
      pure (some stamp, walCopy)
    else pure (none, false)
  explaining (fun why => s!"flushing the staged restore file to disk: {why}")
    (flush start.fate .pending)
  swap start
  pure snapshot

/-! ## The config that came with it -/

def atomicWriteFile (file : RestoreFile) (text : C) : RestoreM C Unit := do
  write start.fate (.tmpOf file) text
  let renamed ← tried (rename start.fate (.tmpOf file) file)
  match renamed with
  | .ok () => pure ()
  | .error why => do
      ignoring (remove start.fate (.tmpOf file))
      Program.fail (.failed why)

def readCapped : RestoreM C C := do
  let text ← explaining (fun why => s!"could not read {site.pendingConfigPath}: {why}")
    (read start.fate .pendingConfig)
  if site.tooLarge text then
    Program.fail (.failed "the config.toml in the backup is too large")
  else pure text

def readIfThere (file : RestoreFile) : RestoreM C (Option C) := do
  let there ← isThere file
  if there then do
    let text ← read start.fate file
    pure (some text)
  else pure none

def savePrevious (current : Option C) : RestoreM C Unit :=
  match current with
  | none => pure ()
  | some old => do
      stat start.fate .config
      atomicWriteFile start .preRestore old

/-- The result says whether there was a config to save. -/
def applyConfig (path : String) : RestoreM C Bool := do
  let couldNot : String → String := fun why => s!"could not write {path}: {why}"
  let restored ← readCapped site start
  explaining couldNot (write start.fate .configLock site.emptyText)
  let current ← explaining couldNot (readIfThere start .config)
  match site.mergeForRestore (current.getD site.emptyText) restored with
  | .error why => Program.fail (.failed why)
  | .ok merged => explaining couldNot (do
      savePrevious start current
      atomicWriteFile start .config merged
      pure current.isSome)

def configOutcome : RestoreM C ConfigOutcome :=
  match site.configPath with
  | none => pure (.failed
      "the location of the config file is not known, so it was not restored")
  | some path => do
      let applied ← tried (applyConfig site start path)
      match applied with
      | .ok hadCurrent => pure (.applied (if hadCurrent then some .preRestore else none))
      | .error why => pure (.failed why)

def applyPendingConfig : RestoreM C ConfigOutcome := do
  let included ← isThere .pendingConfig
  if included then do
    let outcome ← configOutcome site start
    ignoring (remove start.fate .pendingConfig)
    pure outcome
  else pure .notIncluded

def applyPendingRestore : RestoreM C ApplyOutcome := do
  let there ← isThere .pending
  if there then do
    let outcome ← tried (apply site start)
    match outcome with
    | .ok (snapshot, hasWalCopy) => do
        pruneOldSnapshots start snapshot
        let config ← applyPendingConfig site start
        pure (.applied snapshot hasWalCopy config)
    | .error reason => do
        ignoring (remove start.fate .pendingConfig)
        let aside ← setAside start .failed
        pure (.rejected reason aside)
  else do
    ignoring (remove start.fate .pendingConfig)
    pure .nothingPending

end SupplyDrop.Restore
