import Mathlib
import SupplyDrop.Plugin.Manager

namespace SupplyDrop.Proof.PluginConfig
open Library Plugin

/-! ## Lookups -/

/-- The entry that wins among entries put one after the other. -/
def lastOf (name : String) (configs : List ProcessPluginConfig) : Option ProcessPluginConfig :=
  configs.reverse.find? fun c => c.name = name

def configOf (plugins : Plugins) (name : String) : Option ProcessPluginConfig :=
  (plugins.get? name).map (·.config)

section Lookups
variable {name : String} {configs : List ProcessPluginConfig} {c : ProcessPluginConfig}

@[simp] theorem lastOf_nil : lastOf name [] = none := rfl

theorem lastOf_append (as bs : List ProcessPluginConfig) :
    lastOf name (as ++ bs) = (lastOf name bs).or (lastOf name as) := by
  rw [lastOf, List.reverse_append, List.find?_append]
  rfl

theorem lastOf_singleton : lastOf name [c] = if c.name = name then some c else none := by
  by_cases same : c.name = name <;> simp [lastOf, same]

theorem lastOf_cons (configs : List ProcessPluginConfig) :
    lastOf name (c :: configs) =
      (lastOf name configs).or (if c.name = name then some c else none) := by
  rw [← List.singleton_append, lastOf_append, lastOf_singleton]

theorem lastOf_distinct (distinct : (configs.map (·.name)).Nodup) :
    lastOf name configs = some c ↔ c ∈ configs ∧ c.name = name := by
  have reversed : (configs.reverse.map (·.name)).Nodup := by
    rw [List.map_reverse]
    exact List.nodup_reverse.mpr distinct
  have found := KeyedTable.get?_eq_some (t := ⟨configs.reverse, reversed⟩) (a := c) (k := name)
  rwa [List.mem_reverse] at found

theorem lastOf_ne_none : lastOf name configs ≠ none ↔ ∃ d ∈ configs, d.name = name := by
  rw [lastOf, Ne, List.find?_eq_none]
  simp

theorem configOf_put (plugins : Plugins) (m : ManagedPlugin) :
    configOf (plugins.put m) name =
      if name = m.name then some m.config else configOf plugins name := by
  unfold configOf
  rw [KeyedTable.get?_put]
  split <;> rfl

theorem initPlugin_config (spawned : Spawned) (fromPluginsD : Bool) :
    (initPlugin spawned c fromPluginsD).config = c := by
  unfold initPlugin
  cases c.enabled <;> cases spawned <;> rfl

theorem initPlugin_fromPluginsD (spawned : Spawned) (fromPluginsD : Bool) :
    (initPlugin spawned c fromPluginsD).fromPluginsD = fromPluginsD := by
  unfold initPlugin
  cases c.enabled <;> cases spawned <;> rfl

theorem initPlugin_name (spawned : Spawned) (fromPluginsD : Bool) :
    (initPlugin spawned c fromPluginsD).name = c.name :=
  congrArg PluginEntry.name (initPlugin_config spawned fromPluginsD)

variable (spawns : ProcessPluginConfig → Spawned)

theorem configOf_loadConfigToml (configs : List ProcessPluginConfig) (plugins : Plugins) :
    configOf (loadConfigToml spawns configs plugins) name =
      (lastOf name configs).or (configOf plugins name) := by
  induction configs generalizing plugins with
  | nil => rfl
  | cons c configs ih =>
      rw [lastOf_cons, loadConfigToml, List.foldl_cons, ← loadConfigToml, ih, configOf_put,
        initPlugin_name, initPlugin_config, Option.or_assoc]
      by_cases same : c.name = name
      · simp [same]
      · simp [same, Ne.symm same]

theorem configOf_loadDropIns (configs : List ProcessPluginConfig) (plugins : Plugins) :
    configOf (loadDropIns spawns configs plugins) name =
      (lastOf name configs).or (configOf plugins name) := by
  induction configs generalizing plugins with
  | nil => rfl
  | cons c configs ih =>
      rw [lastOf_cons, loadDropIns, List.foldl_cons, ← loadDropIns, ih, configOf_put,
        initPlugin_name, initPlugin_config, Option.or_assoc]
      by_cases same : c.name = name
      · simp [same]
      · simp [same, Ne.symm same, configOf, KeyedTable.get?_erase]

end Lookups

/-! ## Loading -/

/-- What a start reads back for a plugin. -/
def stored (disk : Disk) (configs : List ProcessPluginConfig) (name : String) :
    Option ProcessPluginConfig :=
  (lastOf name (disk.pluginsD.elim [] loadPluginsD)).or (lastOf name configs)

theorem new_eq_some {spawns : ProcessPluginConfig → Spawned} {disk : Disk} {s : Manager} :
    Manager.new spawns disk = some s ↔
      ∃ configs, disk.configToml.mapM TomlEntry.decode = some configs ∧
        s = { plugins := loadDropIns spawns (disk.pluginsD.elim [] loadPluginsD)
                (loadConfigToml spawns configs .empty), disk } := by
  unfold Manager.new
  simp only [Option.bind_eq_bind, Option.bind_eq_some_iff, Option.pure_def, Option.some.injEq]
  exact exists_congr fun configs => and_congr Iff.rfl eq_comm

theorem configOf_new {spawns : ProcessPluginConfig → Spawned} {disk : Disk} {s : Manager}
    (h : Manager.new spawns disk = some s) :
    ∃ configs, disk.configToml.mapM TomlEntry.decode = some configs ∧
      ∀ name, configOf s.plugins name = stored disk configs name := by
  obtain ⟨configs, decoded, rfl⟩ := new_eq_some.mp h
  refine ⟨configs, decoded, fun name => ?_⟩
  rw [configOf_loadDropIns, configOf_loadConfigToml, stored]
  simp [configOf]

/-- A start from the disk finds the plugins and settings that are in memory. -/
def Restored (s : Manager) : Prop :=
  ∀ spawns, ∃ s', Manager.new spawns s.disk = some s' ∧
    ∀ name, configOf s'.plugins name = configOf s.plugins name

theorem restored_iff {s : Manager} : Restored s ↔
    ∃ configs, s.disk.configToml.mapM TomlEntry.decode = some configs ∧
      ∀ name, stored s.disk configs name = configOf s.plugins name := by
  constructor
  · intro restored
    obtain ⟨s', loaded, same⟩ := restored fun _ => .ok 0
    obtain ⟨configs, decoded, found⟩ := configOf_new loaded
    exact ⟨configs, decoded, fun name => (found name).symm.trans (same name)⟩
  · rintro ⟨configs, decoded, same⟩ spawns
    refine ⟨_, new_eq_some.mpr ⟨configs, decoded, rfl⟩, fun name => ?_⟩
    obtain ⟨configs', decoded', found⟩ := configOf_new (new_eq_some.mpr ⟨configs, decoded, rfl⟩)
    rw [decoded] at decoded'
    cases decoded'
    exact (found name).trans (same name)

/-! ## The drop-in file that decides -/

section Decides
variable {name : String} {c : ProcessPluginConfig}

theorem lastOf_sorted {files : List PluginFile}
    (sorted : files.Pairwise fun a b => a.fileName < b.fileName) :
    lastOf name (files.flatMap parsePluginFile) = some c ↔
      ∃ file ∈ files, lastOf name (parsePluginFile file) = some c ∧
        ∀ later ∈ files, file.fileName < later.fileName →
          lastOf name (parsePluginFile later) = none := by
  induction files with
  | nil => simp
  | cons file files ih =>
      obtain ⟨least, rest⟩ := List.pairwise_cons.mp sorted
      rw [List.flatMap_cons, lastOf_append, Option.or_eq_some_iff, ih rest]
      constructor
      · rintro (⟨later, mem, found, last⟩ | ⟨none, found⟩)
        · refine ⟨later, List.mem_cons_of_mem _ mem, found, fun other other_mem less => ?_⟩
          rcases List.mem_cons.mp other_mem with rfl | other_mem
          · exact absurd less (not_lt_of_gt (least later mem))
          · exact last other other_mem less
        · refine ⟨file, List.mem_cons_self, found, fun other other_mem less => ?_⟩
          rcases List.mem_cons.mp other_mem with rfl | other_mem
          · exact absurd less (lt_irrefl _)
          · by_contra some_
            obtain ⟨d, mem, named⟩ := lastOf_ne_none.mp some_
            exact lastOf_ne_none.mpr ⟨d, List.mem_flatMap.mpr ⟨other, other_mem, mem⟩, named⟩ none
      · rintro ⟨chosen, mem, found, last⟩
        rcases List.mem_cons.mp mem with rfl | mem
        · right
          refine ⟨?_, found⟩
          by_contra some_
          obtain ⟨d, d_mem, named⟩ := lastOf_ne_none.mp some_
          obtain ⟨other, other_mem, d_mem⟩ := List.mem_flatMap.mp d_mem
          exact lastOf_ne_none.mpr ⟨d, d_mem, named⟩
            (last other (List.mem_cons_of_mem _ other_mem) (least other other_mem))
        · exact .inl ⟨chosen, mem, found, fun other other_mem less =>
            last other (List.mem_cons_of_mem _ other_mem) less⟩

/-- The last file in the order of names that has an entry for the plugin. -/
def Decides (dir : PluginsD) (name : String) (c : ProcessPluginConfig) : Prop :=
  ∃ file ∈ dir.entries, hasTomlExtension file.fileName = true ∧
    lastOf name (parsePluginFile file) = some c ∧
    ∀ later ∈ dir.entries, hasTomlExtension later.fileName = true →
      file.fileName < later.fileName → lastOf name (parsePluginFile later) = none

theorem lastOf_loadPluginsD (dir : PluginsD) :
    lastOf name (loadPluginsD dir) = some c ↔ Decides dir name c := by
  let paths := dir.entries.filter fun file => hasTomlExtension file.fileName
  have perm := List.mergeSort_perm paths fun a b => decide (a.fileName ≤ b.fileName)
  have distinct : ((paths.mergeSort fun a b => decide (a.fileName ≤ b.fileName)).map
      (·.fileName)).Nodup := by
    rw [(perm.map _).nodup_iff]
    exact dir.distinct.sublist (List.filter_sublist.map _)
  have sorted : (paths.mergeSort fun a b => decide (a.fileName ≤ b.fileName)).Pairwise
      fun a b => a.fileName < b.fileName := by
    have ordered : (paths.mergeSort fun a b => decide (a.fileName ≤ b.fileName)).Pairwise
        fun a b => decide (a.fileName ≤ b.fileName) = true :=
      List.pairwise_mergeSort (fun a b c => by simpa using le_trans)
        (fun a b => by simpa using le_total _ _) paths
    refine (ordered.and (List.pairwise_map.mp distinct)).imp ?_
    rintro a b ⟨le, ne⟩
    exact lt_of_le_of_ne (by simpa using le) ne
  rw [loadPluginsD, lastOf_sorted sorted]
  simp only [perm.mem_iff, paths, List.mem_filter, Decides]
  constructor
  · rintro ⟨file, ⟨mem, toml⟩, found, last⟩
    exact ⟨file, mem, toml, found, fun later hl tl less => last later ⟨hl, tl⟩ less⟩
  · rintro ⟨file, mem, toml, found, last⟩
    exact ⟨file, ⟨mem, toml⟩, found, fun later hl less => last later hl.1 hl.2 less⟩

theorem lastOf_loadPluginsD_ne_none {dir : PluginsD} {file : PluginFile} (mem : file ∈ dir.entries)
    (toml : hasTomlExtension file.fileName = true)
    (found : lastOf name (parsePluginFile file) ≠ none) :
    lastOf name (loadPluginsD dir) ≠ none := by
  obtain ⟨d, d_mem, named⟩ := lastOf_ne_none.mp found
  refine lastOf_ne_none.mpr ⟨d, List.mem_flatMap.mpr ⟨file, ?_, d_mem⟩, named⟩
  rw [List.mem_mergeSort, List.mem_filter]
  exact ⟨mem, toml⟩

end Decides

/-! ## What `persist_config` writes -/

section Persist
variable {plugins : Plugins} {dir : PluginsD} {name : String} {c : ProcessPluginConfig}

/-- A name that is a file name without more. -/
def Plain (name : String) : Prop := name ≠ "" ∧ '/' ∉ name.toList

instance : DecidablePred Plain := fun _ => inferInstanceAs (Decidable (_ ∧ _))

def Small (c : ProcessPluginConfig) : Prop := c.restartDelaySecs.toNat < 2 ^ 63

theorem pluginFile_inj {a b : String} (h : pluginFile a = pluginFile b) : a = b := by
  have lists := congrArg String.toList h
  simp only [pluginFile, String.toList_append, List.append_cancel_right_eq] at lists
  exact String.toList_injective lists

theorem hasTomlExtension_pluginFile (h : Plain name) :
    hasTomlExtension (pluginFile name) = true := by
  have nonempty : name.toList ≠ [] := fun e => h.1 (String.toList_injective e)
  have suffix : (".toml".toList).isSuffixOf (pluginFile name).toList = true := by
    rw [List.isSuffixOf_iff_suffix, pluginFile, String.toList_append]
    exact List.suffix_append _ _
  simp only [hasTomlExtension, Text.stripSuffix, suffix, if_true, Option.any_some]
  simp [pluginFile, ← String.toList_inj, nonempty]

theorem decode_ofConfig (h : Small c) : (TomlEntry.ofConfig c).decode = some c := by
  have below : c.restartDelaySecs.toNat < 2 ^ 63 := h
  have value : c.restartDelaySecs.toInt = c.restartDelaySecs.toNat := by
    rw [BitVec.toInt_eq_toNat_cond, if_pos]
    omega
  unfold TomlEntry.decode TomlEntry.ofConfig
  rw [if_pos]
  · simp
  · rw [value]
    refine ⟨Int.natCast_nonneg _, ?_⟩
    show (c.restartDelaySecs.toNat : Int) < 2 ^ 63
    exact_mod_cast below

theorem small_of_decode {e : TomlEntry} (h : e.decode = some c) : Small c := by
  unfold TomlEntry.decode at h
  split at h
  · next range =>
    cases h
    unfold Small
    rw [BitVec.toNat_ofInt]
    have below : e.restartDelaySecs % (2 ^ 64 : Nat) < 2 ^ 63 := by
      rw [Int.emod_eq_of_lt range.1 (by have := range.2; omega)]
      exact range.2
    omega
  · cases h

theorem decode_legacy {ms : List ManagedPlugin} (small : ∀ m ∈ ms, Small m.config) :
    (ms.map fun m => TomlEntry.ofConfig m.config).mapM TomlEntry.decode =
      some (ms.map (·.config)) := by
  induction ms with
  | nil => rfl
  | cons m ms ih =>
      rw [List.map_cons, List.mapM_cons, decode_ofConfig (small m List.mem_cons_self),
        ih fun m' mem => small m' (List.mem_cons_of_mem _ mem)]
      rfl

theorem parse_written (h : Small c) (fileName : String) :
    parsePluginFile ⟨fileName, [TomlEntry.ofConfig c]⟩ = [c] := by
  simp [parsePluginFile, decode_ofConfig h]

theorem writePluginFile_eq (dir : PluginsD) (plain : Plain c.name) (small : Small c) :
    writePluginFile dir c = dir.put ⟨pluginFile c.name, [TomlEntry.ofConfig c]⟩ := by
  have below : c.restartDelaySecs.toNat < 2 ^ 63 := small
  unfold writePluginFile TomlEntry.serialise
  rw [if_pos below]
  simp [plain.2]

def writeAll (ms : List ManagedPlugin) (dir : PluginsD) : PluginsD :=
  ms.foldl (fun dir m => writePluginFile dir m.config) dir

theorem get?_writeAll {ms : List ManagedPlugin} (plain : ∀ m ∈ ms, Plain m.name)
    (small : ∀ m ∈ ms, Small m.config) (distinct : (ms.map (·.name)).Nodup) (dir : PluginsD) :
    (∀ m ∈ ms, (writeAll ms dir).get? (pluginFile m.name) =
      some ⟨pluginFile m.name, [TomlEntry.ofConfig m.config]⟩) ∧
    ∀ fileName, (∀ m ∈ ms, fileName ≠ pluginFile m.name) →
      (writeAll ms dir).get? fileName = dir.get? fileName := by
  induction ms generalizing dir with
  | nil => exact ⟨by simp, fun _ _ => rfl⟩
  | cons m ms ih =>
      obtain ⟨out, rest⟩ := List.nodup_cons.mp distinct
      obtain ⟨written, kept⟩ := ih (fun m' mem => plain m' (List.mem_cons_of_mem _ mem))
        (fun m' mem => small m' (List.mem_cons_of_mem _ mem)) rest (writePluginFile dir m.config)
      have first := writePluginFile_eq dir (plain m List.mem_cons_self)
        (small m List.mem_cons_self)
      refine ⟨fun m' mem => ?_, fun fileName other => ?_⟩
      · rcases List.mem_cons.mp mem with rfl | mem
        · rw [writeAll, List.foldl_cons, ← writeAll, kept, first, KeyedTable.get?_put]
          · exact if_pos rfl
          · intro m'' mem'' same
            exact out (List.mem_map.mpr ⟨m'', mem'', (pluginFile_inj same).symm⟩)
        · exact written m' mem
      · rw [writeAll, List.foldl_cons, ← writeAll, kept fileName fun m' mem =>
          other m' (List.mem_cons_of_mem _ mem), first, KeyedTable.get?_put]
        exact if_neg (other m List.mem_cons_self)

def ownFile (m : ManagedPlugin) : PluginFile :=
  ⟨pluginFile m.name, [TomlEntry.ofConfig m.config]⟩

theorem mem_writeAll {ms : List ManagedPlugin} (plain : ∀ m ∈ ms, Plain m.name)
    (small : ∀ m ∈ ms, Small m.config) (distinct : (ms.map (·.name)).Nodup) {file : PluginFile} :
    file ∈ (writeAll ms dir).entries ↔ (∃ m ∈ ms, file = ownFile m) ∨
      file ∈ dir.entries ∧ ∀ m ∈ ms, file.fileName ≠ pluginFile m.name := by
  obtain ⟨written, kept⟩ := get?_writeAll plain small distinct dir
  rw [KeyedTable.mem_entries]
  constructor
  · intro found
    by_cases own : ∃ m ∈ ms, file.fileName = pluginFile m.name
    · obtain ⟨m, mem, same⟩ := own
      rw [same, written m mem] at found
      exact .inl ⟨m, mem, (Option.some.inj found).symm⟩
    · have other : ∀ m ∈ ms, file.fileName ≠ pluginFile m.name := fun m mem same =>
        own ⟨m, mem, same⟩
      rw [kept _ other] at found
      exact .inr ⟨KeyedTable.mem_entries.mpr found, other⟩
  · rintro (⟨m, mem, rfl⟩ | ⟨mem, other⟩)
    · exact written m mem
    · rw [kept _ other]
      exact KeyedTable.mem_entries.mp mem

end Persist

/-! ## When the disk agrees with memory after a write -/

section Settled
variable {plugins : Plugins} {dir : PluginsD} {disk : Disk}

/-- A drop-in file named after no drop-in plugin: a write leaves it as it is. -/
def Foreign (plugins : Plugins) (file : PluginFile) : Prop :=
  hasTomlExtension file.fileName = true ∧
    ∀ m ∈ plugins.entries, m.fromPluginsD = true → file.fileName ≠ pluginFile m.name

/-- The last foreign file with an entry for a name is read before the plugin's own file or agrees
with the plugin. -/
def Settled (plugins : Plugins) (dir : PluginsD) : Prop :=
  ∀ name, ∀ file ∈ dir.entries, ∀ c, Foreign plugins file →
    lastOf name (parsePluginFile file) = some c →
    (∀ later ∈ dir.entries, Foreign plugins later → file.fileName < later.fileName →
      lastOf name (parsePluginFile later) = none) →
    ∃ m, plugins.get? name = some m ∧
      (c = m.config ∨ m.fromPluginsD = true ∧ file.fileName < pluginFile name)

/-- What holds of the plugins in memory whenever they are written. -/
structure Writable (plugins : Plugins) (disk : Disk) : Prop where
  plain : ∀ m ∈ plugins.entries, m.fromPluginsD = true → Plain m.name
  small : ∀ m ∈ plugins.entries, Small m.config
  dropIns : ∀ m ∈ plugins.entries, m.fromPluginsD = true → disk.pluginsD.isSome = true

def dropIns (listed : List ManagedPlugin) : List ManagedPlugin :=
  listed.filter fun m => m.fromPluginsD

variable {listed : List ManagedPlugin} (perm : listed.Perm plugins.entries)
include perm

theorem mem_dropIns {m : ManagedPlugin} :
    m ∈ dropIns listed ↔ m ∈ plugins.entries ∧ m.fromPluginsD = true := by
  rw [dropIns, List.mem_filter, perm.mem_iff]

theorem distinct_dropIns : ((dropIns listed).map (·.name)).Nodup := by
  have distinct : (listed.map (·.name)).Nodup := (perm.map _).nodup_iff.mpr plugins.distinct
  exact distinct.sublist (List.filter_sublist.map _)

theorem mem_written (writable : Writable plugins disk) {file : PluginFile} :
    file ∈ (writeAll (dropIns listed) dir).entries ↔
      (∃ m ∈ plugins.entries, m.fromPluginsD = true ∧ file = ownFile m) ∨
      file ∈ dir.entries ∧
        ∀ m ∈ plugins.entries, m.fromPluginsD = true → file.fileName ≠ pluginFile m.name := by
  rw [mem_writeAll (fun m mem => writable.plain m ((mem_dropIns perm).mp mem).1
      ((mem_dropIns perm).mp mem).2) (fun m mem => writable.small m ((mem_dropIns perm).mp mem).1)
    (distinct_dropIns perm)]
  simp only [mem_dropIns perm, and_assoc, and_imp]

omit perm in
theorem lastOf_ownFile (writable : Writable plugins disk) {m : ManagedPlugin}
    (mem : m ∈ plugins.entries) (name : String) :
    lastOf name (parsePluginFile (ownFile m)) = if m.name = name then some m.config else none := by
  rw [ownFile, parse_written (writable.small m mem), lastOf_singleton]
  rfl

/-- The foreign file that is read last decides, when the plugin's own file is not read after it. -/
theorem foreign_decides (writable : Writable plugins disk) {name : String}
    {c : ProcessPluginConfig} {file : PluginFile} (mem : file ∈ dir.entries)
    (foreign : Foreign plugins file) (found : lastOf name (parsePluginFile file) = some c)
    (last : ∀ later ∈ dir.entries, Foreign plugins later → file.fileName < later.fileName →
      lastOf name (parsePluginFile later) = none)
    (after : ∀ m, plugins.get? name = some m → m.fromPluginsD = true →
      ¬ file.fileName < pluginFile name) :
    Decides (writeAll (dropIns listed) dir) name c := by
  refine ⟨file, (mem_written perm writable).mpr (.inr ⟨mem, foreign.2⟩), foreign.1, found, ?_⟩
  intro later there toml less
  rcases (mem_written perm writable).mp there with ⟨m, stored, dropIn, rfl⟩ | ⟨there, other⟩
  · rw [lastOf_ownFile writable stored]
    split
    · next same =>
      subst same
      exact absurd less (after m (KeyedTable.mem_entries.mp stored) dropIn)
    · rfl
  · exact last later there ⟨toml, other⟩ less

omit perm in
theorem written_iff (dir : PluginsD) (perm : listed.Perm plugins.entries)
    (writable : Writable plugins disk) (configs : List ProcessPluginConfig)
    (legacy : ∀ name c, lastOf name configs = some c ↔
      ∃ m, plugins.get? name = some m ∧ m.fromPluginsD = false ∧ m.config = c) :
    (∀ name, (lastOf name (loadPluginsD (writeAll (dropIns listed) dir))).or (lastOf name configs) =
      configOf plugins name) ↔ Settled plugins dir := by
  constructor
  · intro same name file mem c foreign found last
    by_cases before : ∃ m, plugins.get? name = some m ∧ m.fromPluginsD = true ∧
        file.fileName < pluginFile name
    · obtain ⟨m, stored, dropIn, less⟩ := before
      exact ⟨m, stored, .inr ⟨dropIn, less⟩⟩
    · have decides := foreign_decides perm writable mem foreign found last
        fun m stored dropIn less => before ⟨m, stored, dropIn, less⟩
      have eq := same name
      rw [(lastOf_loadPluginsD _).mpr decides, Option.some_or, eq_comm, configOf,
        Option.map_eq_some_iff] at eq
      obtain ⟨m, stored, rfl⟩ := eq
      exact ⟨m, stored, .inl rfl⟩
  · intro settled name
    cases read : lastOf name (loadPluginsD (writeAll (dropIns listed) dir)) with
    | some c =>
        obtain ⟨file, mem, toml, found, last⟩ := (lastOf_loadPluginsD _).mp read
        rw [Option.some_or]
        rcases (mem_written perm writable).mp mem with ⟨m, stored, dropIn, rfl⟩ | ⟨mem, other⟩
        · rw [lastOf_ownFile writable stored] at found
          split at found
          · next same =>
            subst same
            rw [configOf, KeyedTable.mem_entries.mp stored]
            exact found.symm
          · cases found
        · have last' : ∀ later ∈ dir.entries, Foreign plugins later →
              file.fileName < later.fileName → lastOf name (parsePluginFile later) = none := by
            intro later there foreign less
            exact last later ((mem_written perm writable).mpr (.inr ⟨there, foreign.2⟩)) foreign.1
              less
          obtain ⟨m, stored, rfl | ⟨dropIn, less⟩⟩ := settled name file mem c ⟨toml, other⟩ found
            last'
          · rw [configOf, stored]
            rfl
          · -- the plugin's own file would have been read later
            have entry := (KeyedTable.get?_eq_some.mp stored).1
            have named := KeyedTable.key_of_get? stored
            subst named
            have own := last (ownFile m)
              ((mem_written perm writable).mpr (.inl ⟨m, entry, dropIn, rfl⟩))
              (hasTomlExtension_pluginFile (writable.plain m entry dropIn)) less
            rw [lastOf_ownFile writable entry, if_pos rfl] at own
            cases own
    | none =>
        rw [Option.none_or]
        cases stored : plugins.get? name with
        | none =>
            rw [configOf, stored, Option.map_none, Option.eq_none_iff_forall_ne_some]
            intro c found
            obtain ⟨m, there, -⟩ := (legacy name c).mp found
            rw [stored] at there
            cases there
        | some m =>
            rw [configOf, stored, Option.map_some]
            refine (legacy name m.config).mpr ⟨m, stored, ?_, rfl⟩
            by_contra dropIn
            rw [Bool.not_eq_false] at dropIn
            have entry := (KeyedTable.get?_eq_some.mp stored).1
            have named := KeyedTable.key_of_get? stored
            subst named
            have own : ownFile m ∈ (writeAll (dropIns listed) dir).entries :=
              (mem_written perm writable).mpr (.inl ⟨m, entry, dropIn, rfl⟩)
            refine lastOf_loadPluginsD_ne_none own
              (hasTomlExtension_pluginFile (writable.plain m entry dropIn)) ?_ read
            rw [lastOf_ownFile writable entry, if_pos rfl]
            exact Option.some_ne_none _

theorem legacy_iff (name : String) (c : ProcessPluginConfig) :
    lastOf name ((listed.filter fun m => !m.fromPluginsD).map (·.config)) = some c ↔
      ∃ m, plugins.get? name = some m ∧ m.fromPluginsD = false ∧ m.config = c := by
  have distinct : (listed.map (·.name)).Nodup := (perm.map _).nodup_iff.mpr plugins.distinct
  have sub : (((listed.filter fun m => !m.fromPluginsD).map (·.config)).map (·.name)).Nodup := by
    rw [List.map_map]
    exact distinct.sublist (List.filter_sublist.map _)
  rw [lastOf_distinct sub]
  simp only [List.mem_map, List.mem_filter, perm.mem_iff, Bool.not_eq_true']
  constructor
  · rintro ⟨⟨m, ⟨mem, legacy⟩, rfl⟩, rfl⟩
    exact ⟨m, KeyedTable.mem_entries.mp mem, legacy, rfl⟩
  · rintro ⟨m, stored, legacy, rfl⟩
    obtain ⟨mem, named⟩ := KeyedTable.get?_eq_some.mp stored
    exact ⟨⟨m, ⟨mem, legacy⟩, rfl⟩, named⟩

end Settled

def SettledOn (plugins : Plugins) (disk : Disk) : Prop :=
  ∀ dir, disk.pluginsD = some dir → Settled plugins dir

theorem persist_restored_iff {plugins : Plugins} {disk : Disk} (hash : HashOrder)
    (writable : Writable plugins disk) :
    Restored { plugins, disk := persistConfig (hash.order plugins.entries) disk } ↔
      SettledOn plugins disk := by
  have perm := hash.perm plugins.entries
  let legacy := (hash.order plugins.entries).filter fun m => !m.fromPluginsD
  have decoded : (legacy.map fun m => TomlEntry.ofConfig m.config).mapM TomlEntry.decode =
      some (legacy.map (·.config)) :=
    decode_legacy fun m mem => writable.small m (perm.mem_iff.mp (List.mem_of_mem_filter mem))
  have read : Restored { plugins, disk := persistConfig (hash.order plugins.entries) disk } ↔
      ∀ name, stored (persistConfig (hash.order plugins.entries) disk) (legacy.map (·.config)) name =
        configOf plugins name := by
    rw [restored_iff]
    constructor
    · rintro ⟨configs, again, same⟩
      obtain rfl := Option.some.inj (decoded.symm.trans again)
      exact same
    · intro same
      exact ⟨_, decoded, same⟩
  rw [read]
  cases here : disk.pluginsD with
  | some dir =>
      have written := written_iff dir perm writable (legacy.map (·.config))
        (legacy_iff perm)
      simp only [stored, persistConfig, here, Option.map_some, Option.elim_some, SettledOn,
        Option.some.injEq, forall_eq']
      exact written
  | none =>
      have nowhere : SettledOn plugins disk := fun dir there => by rw [here] at there; cases there
      refine iff_of_true (fun name => ?_) nowhere
      ext c
      simp only [stored, persistConfig, here, Option.map_none, Option.elim_none, lastOf_nil,
        Option.none_or]
      rw [legacy_iff perm, configOf, Option.map_eq_some_iff]
      refine exists_congr fun m => and_congr_right fun there => ?_
      have notD : m.fromPluginsD = false := by
        by_contra dropIn
        have isSome := writable.dropIns m (KeyedTable.get?_eq_some.mp there).1
          (Bool.not_eq_false _ ▸ dropIn)
        rw [here] at isSome
        cases isSome
      simp [notD]

end SupplyDrop.Proof.PluginConfig
