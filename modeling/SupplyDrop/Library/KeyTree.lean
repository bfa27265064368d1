import Mathlib

namespace SupplyDrop.Library

/-- A tree of tables: the entries of each in the order they were written, and values that are not
tables at the leaves. -/
inductive KeyTree (κ ν : Type) where
  | leaf (v : ν)
  | node (entries : List (κ × KeyTree κ ν))

namespace KeyTree

abbrev Table (κ ν : Type) := List (κ × KeyTree κ ν)

variable {κ ν : Type}

/-- Neither path leads through the other's end. -/
def Apart (p q : List κ) : Prop := ¬ p <+: q ∧ ¬ q <+: p

theorem Apart.symm {p q : List κ} (h : Apart p q) : Apart q p := ⟨h.2, h.1⟩

theorem Apart.tail {k : κ} {p q : List κ} (h : Apart (k :: p) (k :: q)) : Apart p q := by
  simpa [Apart, List.cons_prefix_cons] using h

variable [DecidableEq κ]

instance (p q : List κ) : Decidable (Apart p q) := inferInstanceAs (Decidable (_ ∧ _))

/-! ## One table -/

def get (t : Table κ ν) (k : κ) : Option (KeyTree κ ν) :=
  (t.find? fun entry => entry.1 = k).map (·.2)

def insert (k : κ) (item : KeyTree κ ν) : Table κ ν → Table κ ν
  | [] => [(k, item)]
  | entry :: t => if entry.1 = k then (k, item) :: t else entry :: insert k item t

def remove (t : Table κ ν) (k : κ) : Table κ ν := t.filter fun entry => entry.1 ≠ k

@[simp] theorem get_nil (k : κ) : get ([] : Table κ ν) k = none := rfl

theorem get_cons (entry : κ × KeyTree κ ν) (t : Table κ ν) (k : κ) :
    get (entry :: t) k = if entry.1 = k then some entry.2 else get t k := by
  unfold get
  rw [List.find?_cons]
  by_cases same : entry.1 = k <;> simp [same]

theorem get_insert (k : κ) (item : KeyTree κ ν) (t : Table κ ν) (i : κ) :
    get (insert k item t) i = if k = i then some item else get t i := by
  induction t with
  | nil => simp [insert, get_cons]
  | cons entry t ih =>
      unfold insert
      split
      · next same =>
        subst same
        simp only [get_cons]
        split <;> rfl
      · next other =>
        simp only [get_cons, ih]
        by_cases here : entry.1 = i
        · rw [if_pos here, if_pos here, if_neg]
          rintro rfl
          exact other here
        · rw [if_neg here, if_neg here]

@[simp] theorem get_insert_self (k : κ) (item : KeyTree κ ν) (t : Table κ ν) :
    get (insert k item t) k = some item := by simp [get_insert]

theorem get_insert_ne {k i : κ} (item : KeyTree κ ν) (t : Table κ ν) (h : k ≠ i) :
    get (insert k item t) i = get t i := by simp [get_insert, h]

theorem get_remove (t : Table κ ν) (k i : κ) :
    get (remove t k) i = if k = i then none else get t i := by
  induction t with
  | nil => simp [remove]
  | cons entry t ih =>
      unfold remove at ih ⊢
      by_cases same : entry.1 = k
      · rw [List.filter_cons_of_neg (by simp [same]), ih, get_cons, same]
        split <;> rfl
      · rw [List.filter_cons_of_pos (by simp [same]), get_cons, get_cons, ih]
        by_cases here : entry.1 = i
        · rw [if_pos here, if_pos here, if_neg]
          rintro rfl
          exact same here
        · rw [if_neg here, if_neg here]

theorem insert_get {t : Table κ ν} {k : κ} {item : KeyTree κ ν} (h : get t k = some item) :
    insert k item t = t := by
  induction t with
  | nil => simp at h
  | cons entry t ih =>
      rw [get_cons] at h
      unfold insert
      split at h
      · next same =>
        have here : entry.2 = item := by simpa using h
        rw [if_pos same, ← here, ← same]
      · next other => rw [if_neg other, ih h]

theorem remove_absent {t : Table κ ν} {k : κ} (h : get t k = none) : remove t k = t := by
  unfold remove
  rw [List.filter_eq_self]
  intro entry mem
  unfold get at h
  rw [Option.map_eq_none_iff, List.find?_eq_none] at h
  simpa using h entry mem

/-! ## Along a path -/

def getPath : Table κ ν → List κ → Option (KeyTree κ ν)
  | _, [] => none
  | t, [k] => get t k
  | t, k :: path =>
      match get t k with
      | some (.node sub) => getPath sub path
      | _ => none

/-- Put an item at a path, making the tables on the way that are missing. The error is the key
that holds something else than a table. -/
def setPath : Table κ ν → List κ → KeyTree κ ν → Except κ (Table κ ν)
  | t, [], _ => .ok t
  | t, [k], item => .ok (insert k item t)
  | t, k :: path, item =>
      match get t k with
      | none => (setPath [] path item).map fun sub => insert k (.node sub) t
      | some (.node sub) => (setPath sub path item).map fun sub => insert k (.node sub) t
      | some (.leaf _) => .error k

def removePath : Table κ ν → List κ → Table κ ν
  | t, [] => t
  | t, [k] => remove t k
  | t, k :: path =>
      match get t k with
      | some (.node sub) => insert k (.node (removePath sub path)) t
      | _ => t

def leafAt (t : Table κ ν) (path : List κ) : Option ν :=
  match getPath t path with
  | some (.leaf v) => some v
  | _ => none

def TableAt (t : Table κ ν) (path : List κ) : Prop := ∃ sub, getPath t path = some (.node sub)

/-- What stands at the end of a path is found through what stands at each key of it. -/
theorem getPath_cons {t t' : Table κ ν} {k : κ} (same : get t' k = get t k) (path : List κ) :
    getPath t' (k :: path) = getPath t (k :: path) := by
  cases path with
  | nil => exact same
  | cons k' path => simp only [getPath, same]

theorem getPath_node {t sub : Table κ ν} {k k' : κ} (h : get t k = some (.node sub))
    (path : List κ) : getPath t (k :: k' :: path) = getPath sub (k' :: path) := by
  simp only [getPath, h]

theorem setPath_node {t sub : Table κ ν} {k k' : κ} {path : List κ} {item : KeyTree κ ν}
    (h : get t k = some (.node sub)) :
    setPath t (k :: k' :: path) item =
      (setPath sub (k' :: path) item).map fun sub => insert k (.node sub) t := by
  simp only [setPath, h]

theorem removePath_node {t sub : Table κ ν} {k k' : κ} {path : List κ}
    (h : get t k = some (.node sub)) :
    removePath t (k :: k' :: path) = insert k (.node (removePath sub (k' :: path))) t := by
  simp only [removePath, h]

/-- Every step of `setPath` but the last puts back the table it went through. -/
theorem setPath_cons {t t' : Table κ ν} {k k' : κ} {path : List κ} {item : KeyTree κ ν}
    (h : setPath t (k :: k' :: path) item = .ok t') :
    ∃ sub sub', (get t k = some (.node sub) ∨ get t k = none ∧ sub = []) ∧
      setPath sub (k' :: path) item = .ok sub' ∧ t' = insert k (.node sub') t := by
  simp only [setPath] at h
  cases found : get t k with
  | none =>
      simp only [found] at h
      cases done : setPath [] (k' :: path) item with
      | error e => simp [done, Except.map] at h
      | ok sub' =>
          refine ⟨[], sub', .inr ⟨rfl, rfl⟩, done, ?_⟩
          simpa [done, Except.map] using h.symm
  | some held =>
      cases held with
      | leaf v => simp [found] at h
      | node sub =>
          simp only [found] at h
          cases done : setPath sub (k' :: path) item with
          | error e => simp [done, Except.map] at h
          | ok sub' =>
              refine ⟨sub, sub', .inl rfl, done, ?_⟩
              simpa [done, Except.map] using h.symm

theorem removePath_cons (t : Table κ ν) (k k' : κ) (path : List κ) :
    (∃ sub, get t k = some (.node sub) ∧
      removePath t (k :: k' :: path) = insert k (.node (removePath sub (k' :: path))) t) ∨
    (∀ sub, get t k ≠ some (.node sub)) ∧ removePath t (k :: k' :: path) = t := by
  cases found : get t k with
  | none => exact .inr ⟨by simp, by simp [removePath, found]⟩
  | some held =>
      cases held with
      | leaf v => exact .inr ⟨by simp, by simp [removePath, found]⟩
      | node sub => exact .inl ⟨sub, rfl, removePath_node found⟩

@[simp] theorem getPath_nil_table (path : List κ) : getPath ([] : Table κ ν) path = none := by
  cases path with
  | nil => rfl
  | cons k path => cases path <;> simp [getPath]

theorem getPath_cons_none {t : Table κ ν} {k k' : κ} (path : List κ)
    (h : ∀ sub, get t k ≠ some (.node sub)) : getPath t (k :: k' :: path) = none := by
  simp only [getPath]

/-! ### At the path -/

theorem getPath_setPath {t t' : Table κ ν} {path : List κ} {item : KeyTree κ ν}
    (named : path ≠ []) (h : setPath t path item = .ok t') : getPath t' path = some item := by
  induction path generalizing t t' with
  | nil => exact absurd rfl named
  | cons k path ih =>
      cases path with
      | nil =>
          have done : insert k item t = t' := by simpa [setPath] using h
          rw [← done]
          exact get_insert_self k item t
      | cons k' path =>
          obtain ⟨sub, sub', -, set, rfl⟩ := setPath_cons h
          rw [getPath_node (get_insert_self k _ t)]
          exact ih (by simp) set

theorem getPath_removePath (t : Table κ ν) (path : List κ) :
    getPath (removePath t path) path = none := by
  induction path generalizing t with
  | nil => rfl
  | cons k path ih =>
      cases path with
      | nil => simp [getPath, removePath, get_remove]
      | cons k' path =>
          rcases removePath_cons t k k' path with ⟨sub, -, gone⟩ | ⟨none, same⟩
          · rw [gone, getPath_node (get_insert_self k _ t)]
            exact ih sub
          · rw [same]
            exact getPath_cons_none path none

theorem setPath_getPath {t : Table κ ν} {path : List κ} {item : KeyTree κ ν}
    (h : getPath t path = some item) : setPath t path item = .ok t := by
  induction path generalizing t with
  | nil => rfl
  | cons k path ih =>
      cases path with
      | nil => simp only [setPath, insert_get h]
      | cons k' path =>
          simp only [getPath] at h
          split at h
          · next sub found =>
            rw [setPath_node found, ih h]
            simp only [Except.map, insert_get found]
          · simp at h

theorem removePath_absent {t : Table κ ν} {path : List κ} (h : getPath t path = none) :
    removePath t path = t := by
  induction path generalizing t with
  | nil => rfl
  | cons k path ih =>
      cases path with
      | nil => exact remove_absent h
      | cons k' path =>
          rcases removePath_cons t k k' path with ⟨sub, found, gone⟩ | ⟨-, same⟩
          · rw [getPath_node found] at h
            rw [gone, ih h, insert_get found]
          · exact same

theorem getPath_append_cons (t : Table κ ν) (path : List κ) (k : κ) (rest : List κ)
    (named : path ≠ []) :
    getPath t (path ++ k :: rest) =
      match getPath t path with
      | some (.node sub) => getPath sub (k :: rest)
      | _ => none := by
  induction path generalizing t with
  | nil => exact absurd rfl named
  | cons k' path ih =>
      cases path with
      | nil => rfl
      | cons j path =>
          simp only [List.cons_append, getPath]
          cases get t k' with
          | none => rfl
          | some held =>
              cases held with
              | leaf v => rfl
              | node sub => exact ih sub (by simp)

theorem getPath_append {t t' : Table κ ν} {path : List κ} (named : path ≠ [])
    (same : getPath t' path = getPath t path) (rest : List κ) :
    getPath t' (path ++ rest) = getPath t (path ++ rest) := by
  cases rest with
  | nil => simpa using same
  | cons k rest => rw [getPath_append_cons t' path k rest named, same,
      getPath_append_cons t path k rest named]

/-! ### Beside the path -/

theorem getPath_setPath_apart {t t' : Table κ ν} {p q : List κ} {item : KeyTree κ ν}
    (apart : Apart p q) (h : setPath t p item = .ok t') : getPath t' q = getPath t q := by
  induction p generalizing t t' q with
  | nil => exact absurd List.nil_prefix apart.1
  | cons k p ih =>
      cases q with
      | nil => exact absurd List.nil_prefix apart.2
      | cons j q =>
          by_cases here : k = j
          · subst here
            cases p with
            | nil => exact absurd (List.cons_prefix_cons.mpr ⟨rfl, List.nil_prefix⟩) apart.1
            | cons k' p =>
                cases q with
                | nil => exact absurd (List.cons_prefix_cons.mpr ⟨rfl, List.nil_prefix⟩) apart.2
                | cons j' q =>
                    obtain ⟨sub, sub', held, set, rfl⟩ := setPath_cons h
                    rw [getPath_node (get_insert_self k _ t), ih apart.tail set]
                    rcases held with found | ⟨missing, rfl⟩
                    · rw [getPath_node found]
                    · rw [getPath_nil_table, getPath_cons_none]
                      simp [missing]
          · apply getPath_cons
            cases p with
            | nil =>
                have done : insert k item t = t' := by simpa [setPath] using h
                rw [← done]
                exact get_insert_ne item t here
            | cons k' p =>
                obtain ⟨sub, sub', -, -, rfl⟩ := setPath_cons h
                exact get_insert_ne _ t here

theorem getPath_removePath_apart {p q : List κ} (t : Table κ ν) (apart : Apart p q) :
    getPath (removePath t p) q = getPath t q := by
  induction p generalizing t q with
  | nil => exact absurd List.nil_prefix apart.1
  | cons k p ih =>
      cases q with
      | nil => exact absurd List.nil_prefix apart.2
      | cons j q =>
          cases p with
          | nil =>
              have other : k ≠ j := by
                rintro rfl
                exact apart.1 (List.cons_prefix_cons.mpr ⟨rfl, List.nil_prefix⟩)
              apply getPath_cons
              rw [removePath, get_remove, if_neg other]
          | cons k' p =>
              rcases removePath_cons t k k' p with ⟨sub, found, gone⟩ | ⟨-, same⟩
              · rw [gone]
                by_cases here : k = j
                · subst here
                  cases q with
                  | nil => exact absurd (List.cons_prefix_cons.mpr ⟨rfl, List.nil_prefix⟩) apart.2
                  | cons j' q =>
                      rw [getPath_node (get_insert_self k _ t), getPath_node found]
                      exact ih sub apart.tail
                · exact getPath_cons (get_insert_ne _ t here) q
              · rw [same]

/-! ### Above the path -/

/-- A path that is set runs through tables only, and whatever was missing on it is a table now. -/
theorem tableAt_setPath {t t' : Table κ ν} {q rest : List κ} {j : κ} {item : KeyTree κ ν}
    (named : q ≠ []) (h : setPath t (q ++ j :: rest) item = .ok t') :
    TableAt t' q ∧ (getPath t q = none ∨ TableAt t q) := by
  induction q generalizing t t' with
  | nil => exact absurd rfl named
  | cons k q ih =>
      cases q with
      | nil =>
          obtain ⟨sub, sub', held, -, rfl⟩ := setPath_cons h
          refine ⟨⟨sub', get_insert_self k _ t⟩, ?_⟩
          rcases held with found | ⟨missing, -⟩
          · exact .inr ⟨sub, found⟩
          · exact .inl missing
      | cons k' q =>
          obtain ⟨sub, sub', held, set, rfl⟩ := setPath_cons h
          obtain ⟨⟨made, isTable⟩, before⟩ := ih (by simp) set
          refine ⟨⟨made, ?_⟩, ?_⟩
          · rw [getPath_node (get_insert_self k _ t)]
            exact isTable
          · rcases held with found | ⟨missing, rfl⟩
            · rw [TableAt, getPath_node found]
              exact before
            · refine .inl (getPath_cons_none q ?_)
              simp [missing]

theorem tableAt_removePath (t : Table κ ν) {q : List κ} (j : κ) (rest : List κ) (named : q ≠ []) :
    removePath t (q ++ j :: rest) = t ∨
      TableAt (removePath t (q ++ j :: rest)) q ∧ TableAt t q := by
  induction q generalizing t with
  | nil => exact absurd rfl named
  | cons k q ih =>
      cases q with
      | nil =>
          rcases removePath_cons t k j rest with ⟨sub, found, gone⟩ | ⟨-, same⟩
          · refine .inr ⟨?_, sub, found⟩
            rw [List.cons_append, List.nil_append, gone]
            exact ⟨_, get_insert_self k _ t⟩
          · exact .inl same
      | cons k' q =>
          rcases removePath_cons t k k' (q ++ j :: rest) with ⟨sub, found, gone⟩ | ⟨-, same⟩
          · simp only [List.cons_append] at ih ⊢
            rw [gone]
            rcases ih sub (by simp) with same | ⟨⟨after, isTable⟩, before, wasTable⟩
            · rw [same, insert_get found]
              exact .inl rfl
            · refine .inr ⟨⟨after, ?_⟩, before, ?_⟩
              · rw [getPath_node (get_insert_self k _ t)]
                exact isTable
              · rw [getPath_node found]
                exact wasTable
          · exact .inl same

theorem leafAt_table {t : Table κ ν} {q : List κ} (h : TableAt t q) : leafAt t q = none := by
  obtain ⟨sub, found⟩ := h
  simp only [leafAt, found]

theorem leafAt_none {t : Table κ ν} {q : List κ} (h : getPath t q = none) : leafAt t q = none := by
  simp only [leafAt, h]

/-! ## Laying the values of one tree over another -/

def settle (t : Table κ ν) (path : List κ) : Option (KeyTree κ ν) → Except κ (Table κ ν)
  | some item => setPath t path item
  | none => .ok (removePath t path)

/-- Give every listed path the value it has in `source`, or take it away when it has none there. -/
def overlay (paths : List (List κ)) (source t : Table κ ν) : Except κ (Table κ ν) :=
  paths.foldlM (fun t path => settle t path (getPath source path)) t

/-- What has been laid over `t` from `source`, for any path at all. -/
structure Overlaid (paths : List (List κ)) (source t t' : Table κ ν) : Prop where
  taken : ∀ p ∈ paths, ∀ rest, getPath t' (p ++ rest) = getPath source (p ++ rest)
  kept : ∀ q, (∀ p ∈ paths, Apart p q) → getPath t' q = getPath t q
  leaf : ∀ q, (∀ p ∈ paths, ¬ p <+: q) → leafAt t' q = leafAt t q
  table : ∀ q, q ≠ [] → (∀ p ∈ paths, ¬ p <+: q) →
    (TableAt t' q ↔ TableAt t q ∨ ∃ p ∈ paths, q <+: p ∧ getPath source p ≠ none)

section settle
variable {t t' : Table κ ν} {p : List κ} {value : Option (KeyTree κ ν)}

theorem getPath_settle (named : p ≠ []) (h : settle t p value = .ok t') : getPath t' p = value := by
  cases value with
  | some item => exact getPath_setPath named h
  | none =>
      have gone : removePath t p = t' := by simpa [settle] using h
      rw [← gone]
      exact getPath_removePath t p

theorem getPath_settle_apart {q : List κ} (apart : Apart p q) (h : settle t p value = .ok t') :
    getPath t' q = getPath t q := by
  cases value with
  | some item => exact getPath_setPath_apart apart h
  | none =>
      have gone : removePath t p = t' := by simpa [settle] using h
      rw [← gone]
      exact getPath_removePath_apart t apart

theorem settle_getPath (h : getPath t p = value) : settle t p value = .ok t := by
  cases value with
  | some item => exact setPath_getPath h
  | none => simp only [settle, removePath_absent h]

/-- A path is above another, or apart from it, or behind it. -/
theorem above_or_apart {p q : List κ} (outside : ¬ p <+: q) :
    (∃ j rest, p = q ++ j :: rest) ∨ Apart p q := by
  by_cases above : q <+: p
  · obtain ⟨rest, rfl⟩ := above
    cases rest with
    | nil => simp at outside
    | cons j rest => exact .inl ⟨j, rest, rfl⟩
  · exact .inr ⟨outside, above⟩

theorem leafAt_settle {q : List κ} (outside : ¬ p <+: q) (h : settle t p value = .ok t') :
    leafAt t' q = leafAt t q := by
  rcases above_or_apart outside with ⟨j, rest, rfl⟩ | apart
  · by_cases named : q = []
    · subst named
      rfl
    · cases value with
      | some item =>
          obtain ⟨after, before⟩ := tableAt_setPath named h
          rw [leafAt_table after]
          rcases before with missing | wasTable
          · rw [leafAt_none missing]
          · rw [leafAt_table wasTable]
      | none =>
          have gone : removePath t (q ++ j :: rest) = t' := by simpa [settle] using h
          rcases tableAt_removePath t j rest named with same | ⟨after, before⟩
          · rw [← gone, same]
          · rw [← gone, leafAt_table after, leafAt_table before]
  · simp only [leafAt, getPath_settle_apart apart h]

theorem tableAt_settle {q : List κ} (named : q ≠ []) (outside : ¬ p <+: q)
    (h : settle t p value = .ok t') :
    TableAt t' q ↔ TableAt t q ∨ q <+: p ∧ value ≠ none := by
  rcases above_or_apart outside with ⟨j, rest, rfl⟩ | apart
  · cases value with
    | some item =>
        obtain ⟨after, -⟩ := tableAt_setPath named h
        simp [after]
    | none =>
        have gone : removePath t (q ++ j :: rest) = t' := by simpa [settle] using h
        rcases tableAt_removePath t j rest named with same | ⟨after, before⟩
        · rw [← gone, same]
          simp
        · simp [← gone, after, before]
  · have notAbove : ¬ q <+: p := apart.2
    simp only [TableAt, getPath_settle_apart apart h, notAbove, false_and, or_false]

end settle

section overlay
variable {paths : List (List κ)} {source t t' : Table κ ν}

theorem overlay_cons {p : List κ} (h : overlay (p :: paths) source t = .ok t') :
    ∃ next, settle t p (getPath source p) = .ok next ∧ overlay paths source next = .ok t' := by
  unfold overlay at h
  rw [List.foldlM_cons] at h
  cases step : settle t p (getPath source p) with
  | error k =>
      rw [step] at h
      cases h
  | ok next =>
      rw [step] at h
      exact ⟨next, rfl, h⟩

/-- Apart paths do not disturb each other, so each keeps what it was given to the end. -/
theorem overlaid (named : ∀ p ∈ paths, p ≠ []) (apart : paths.Pairwise Apart)
    (h : overlay paths source t = .ok t') : Overlaid paths source t t' := by
  induction paths generalizing t with
  | nil =>
      have same : t = t' := by simpa [overlay, pure, Except.pure] using h
      subst same
      exact ⟨by simp, fun _ _ => rfl, fun _ _ => rfl, by simp⟩
  | cons p paths ih =>
      obtain ⟨next, step, later⟩ := overlay_cons h
      rw [List.pairwise_cons] at apart
      have rest := ih (fun p hp => named p (List.mem_cons_of_mem _ hp)) apart.2 later
      constructor
      · intro q hq r
        rcases List.mem_cons.mp hq with rfl | hq
        · apply getPath_append (named q List.mem_cons_self)
          have kept := rest.kept q fun p hp => (apart.1 p hp).symm
          rw [kept]
          exact getPath_settle (named q List.mem_cons_self) step
        · exact rest.taken q hq r
      · intro q beside
        rw [rest.kept q fun p hp => beside p (List.mem_cons_of_mem _ hp)]
        exact getPath_settle_apart (beside p List.mem_cons_self) step
      · intro q outside
        rw [rest.leaf q fun p hp => outside p (List.mem_cons_of_mem _ hp)]
        exact leafAt_settle (outside p List.mem_cons_self) step
      · intro q some outside
        rw [rest.table q some fun p hp => outside p (List.mem_cons_of_mem _ hp),
          tableAt_settle some (outside p List.mem_cons_self) step]
        simp only [List.mem_cons, exists_eq_or_imp]
        tauto

/-- Laying over a tree what it already has there changes nothing, not even the order. -/
theorem overlay_self (same : ∀ p ∈ paths, getPath t p = getPath source p) :
    overlay paths source t = .ok t := by
  induction paths with
  | nil => rfl
  | cons p paths ih =>
      have step := settle_getPath (same p List.mem_cons_self)
      have rest := ih fun q hq => same q (List.mem_cons_of_mem _ hq)
      unfold overlay at rest ⊢
      rw [List.foldlM_cons, step]
      exact rest

theorem overlay_again (named : ∀ p ∈ paths, p ≠ []) (apart : paths.Pairwise Apart)
    (h : overlay paths source t = .ok t') : overlay paths source t' = .ok t' := by
  apply overlay_self
  intro p hp
  simpa using (overlaid named apart h).taken p hp []

end overlay

end KeyTree
end SupplyDrop.Library
