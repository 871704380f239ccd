import ComponentLoader.Theme.Cache
import ComponentLoader.Proofs.Files.Walk
import ComponentLoader.Proofs.OrderedMap
import Mathlib.Data.List.Induction
import Mathlib.Data.List.Infix
import Mathlib.Data.Set.Card

namespace ComponentLoader

def FileTree.theme (files : FileTree) (path : Text) : ThemeVariables :=
  match files.readText path with
  | .ok content => .parse content
  | .error _ => .empty

namespace ThemeCache

variable {files : FileTree} {cache : ThemeCache} {path : Text}

theorem get_eq_some_iff {theme : ThemeVariables} : cache.get files path = some theme ↔
    ∃ changed, OrderedMap.get? cache (Path.components path) = some ⟨theme, changed⟩ ∧
      files.changed? path = some changed := by
  unfold get
  cases OrderedMap.get? cache (Path.components path) with
  | none => simp
  | some kept =>
    obtain ⟨held, since⟩ := kept
    cases files.changed? path with
    | none => simp
    | some changed =>
      simp [eq_comm, and_comm]

inductive Loads (files : FileTree) (cache : ThemeCache) (path : Text) :
    ThemeVariables × ThemeCache → Prop where
  | kept {theme : ThemeVariables} (found : cache.get files path = some theme) :
      Loads files cache path (theme, cache)
  | unreadable {cause : FileError} (missed : cache.get files path = none)
      (unread : files.readText path = .error cause) :
      Loads files cache path (.empty, cache.erase (Path.components path))
  | parsed {content : Text} {changed : Stamp} (missed : cache.get files path = none)
      (read : files.readText path = .ok content) (since : files.changed? path = some changed) :
      Loads files cache path (.parse content,
        cache.insert (Path.components path) ⟨.parse content, changed⟩)

theorem loads (files : FileTree) (cache : ThemeCache) (path : Text) :
    Loads files cache path (cache.load files path) := by
  unfold load
  split
  · next theme found => exact .kept found
  · next missed =>
    split
    · next cause unread => exact .unreadable missed unread
    · next content read =>
      obtain ⟨changed, since⟩ := FileTree.changed?_of_readText read
      simp only [since]
      exact .parsed missed read since

end ThemeCache

inductive ThemeStep where
  | load (path : Text)
  | get (path : Text)
  | clear
  | change (alter : FileTree → FileTree)

structure ThemeSession where
  files : FileTree
  cache : ThemeCache := .empty

namespace ThemeSession

def step (s : ThemeSession) : ThemeStep → ThemeSession
  | .load path => { s with cache := (s.cache.load s.files path).2 }
  | .get _ => s
  | .clear => { s with cache := .empty }
  | .change alter => { s with files := alter s.files }

def answer (s : ThemeSession) : ThemeStep → Option ThemeVariables
  | .load path => some (s.cache.load s.files path).1
  | .get path => s.cache.get s.files path
  | _ => none

def run (files : FileTree) (steps : List ThemeStep) : ThemeSession := steps.foldl step { files }

def trees (files : FileTree) (steps : List ThemeStep) : List FileTree :=
  steps.inits.map fun before => (run files before).files

def loaded (steps : List ThemeStep) : List Text :=
  steps.filterMap fun
    | .load path => some path
    | _ => none

-- What is loaded in the run holds the same whenever it was changed at the same time.
def Faithful (files : FileTree) (steps : List ThemeStep) : Prop :=
  ∀ t ∈ trees files steps, ∀ u ∈ trees files steps, ∀ path ∈ loaded steps,
    (t.changed? path).isSome = true → u.changed? path = t.changed? path →
      (u.readText path).toOption = (t.readText path).toOption

def LastRead (files : FileTree) (steps : List ThemeStep) (key : List Path.Component) : Prop :=
  ∃ before path after, steps = before ++ .load path :: after ∧ Path.components path = key ∧
    .clear ∉ after ∧ (∀ other, .load other ∈ after → Path.components other ≠ key) ∧
    ∃ content, (run files before).files.readText path = .ok content

variable {files : FileTree} {steps : List ThemeStep} {key : List Path.Component}

theorem run_append_singleton (files : FileTree) (steps : List ThemeStep) (x : ThemeStep) :
    run files (steps ++ [x]) = (run files steps).step x := List.foldl_append

theorem lastRead_append_singleton {x : ThemeStep} : LastRead files (steps ++ [x]) key ↔
    (∃ path, x = .load path ∧ Path.components path = key ∧
      ∃ content, (run files steps).files.readText path = .ok content) ∨
    LastRead files steps key ∧ x ≠ .clear ∧ ∀ path, x = .load path → Path.components path ≠ key := by
  constructor
  · rintro ⟨before, path, after, split, same, uncleared, unloaded, read⟩
    rcases List.eq_nil_or_concat after with rfl | ⟨between, last, rfl⟩
    · obtain ⟨rfl, rfl⟩ := List.append_singleton_inj.1 split
      exact .inl ⟨path, rfl, same, read⟩
    · rw [List.concat_eq_append] at split uncleared unloaded
      rw [← List.cons_append, ← List.append_assoc] at split
      obtain ⟨rfl, rfl⟩ := List.append_singleton_inj.1 split
      refine .inr ⟨⟨before, path, between, rfl, same, ?_, ?_, read⟩, ?_, ?_⟩
      · exact fun inside => uncleared (List.mem_append_left _ inside)
      · exact fun other inside => unloaded other (List.mem_append_left _ inside)
      · rintro rfl
        exact uncleared (by simp)
      · rintro other rfl
        exact unloaded other (by simp)
  · rintro (⟨path, rfl, same, read⟩ | ⟨⟨before, path, after, rfl, same, uncleared, unloaded, read⟩,
      uncleared', unloaded'⟩)
    · exact ⟨steps, path, [], rfl, same, by simp, by simp, read⟩
    · refine ⟨before, path, after ++ [x], by simp, same, ?_, ?_, read⟩
      · intro inside
        rcases List.mem_append.1 inside with inside | last
        · exact uncleared inside
        · exact uncleared' (List.mem_singleton.1 last).symm
      · intro other inside
        rcases List.mem_append.1 inside with inside | last
        · exact unloaded other inside
        · exact unloaded' other (List.mem_singleton.1 last).symm

-- Each entry was read from the files of an earlier point.
def Kept (files : FileTree) (steps : List ThemeStep) (key : List Path.Component)
    (kept : CachedTheme) : Prop :=
  ∃ path ∈ loaded steps, ∃ t ∈ trees files steps, Path.components path = key ∧
    t.changed? path = some kept.changed ∧
    ∃ content, t.readText path = .ok content ∧ kept.theme = .parse content

theorem mem_trees_iff {t : FileTree} :
    t ∈ trees files steps ↔ ∃ before, before <+: steps ∧ (run files before).files = t := by
  simp [trees, List.mem_inits]

theorem mem_loaded_iff {path : Text} : path ∈ loaded steps ↔ .load path ∈ steps := by
  unfold loaded
  rw [List.mem_filterMap]
  constructor
  · rintro ⟨x, member, read⟩
    cases x with
    | load p =>
      cases read
      exact member
    | get p => cases read
    | clear => cases read
    | change alter => cases read
  · exact fun member => ⟨_, member, rfl⟩

section Prefix

variable {before : List ThemeStep} (reached : before <+: steps)

include reached

theorem trees_subset : trees files before ⊆ trees files steps := by
  intro t member
  obtain ⟨first, initial, here⟩ := mem_trees_iff.1 member
  exact mem_trees_iff.2 ⟨first, initial.trans reached, here⟩

theorem loaded_subset : loaded before ⊆ loaded steps := by
  intro path member
  exact mem_loaded_iff.2 (reached.subset (mem_loaded_iff.1 member))

theorem Faithful.earlier (faithful : Faithful files steps) : Faithful files before :=
  fun t left u right path member =>
    faithful t (trees_subset reached left) u (trees_subset reached right) path
      (loaded_subset reached member)

theorem Kept.later {kept : CachedTheme} (entry : Kept files before key kept) :
    Kept files steps key kept := by
  obtain ⟨path, member, t, seen, rest⟩ := entry
  exact ⟨path, loaded_subset reached member, t, trees_subset reached seen, rest⟩

end Prefix

theorem kept_run {kept : CachedTheme}
    (entry : OrderedMap.get? (run files steps).cache key = some kept) :
    Kept files steps key kept := by
  induction steps using List.reverseRecOn generalizing kept with
  | nil => cases entry
  | append_singleton steps x ih =>
    have earlier : steps <+: steps ++ [x] := List.prefix_append ..
    rw [run_append_singleton] at entry
    cases x with
    | get path => exact (ih entry).later earlier
    | change alter => exact (ih entry).later earlier
    | clear => cases entry
    | load path =>
      have member : path ∈ loaded (steps ++ [.load path]) := mem_loaded_iff.2 (by simp)
      have seen : (run files steps).files ∈ trees files (steps ++ [.load path]) :=
        mem_trees_iff.2 ⟨steps, earlier, rfl⟩
      have which := ThemeCache.loads (run files steps).files (run files steps).cache path
      rw [step] at entry
      generalize ThemeCache.load (run files steps).files (run files steps).cache path = answer
        at which entry
      cases which with
      | kept found => exact (ih entry).later earlier
      | unreadable missed unread =>
        rw [OrderedMap.get?_erase] at entry
        split at entry
        · cases entry
        · exact (ih entry).later earlier
      | @parsed content changed missed read since =>
        rw [OrderedMap.get?_insert] at entry
        split at entry
        · next same =>
          cases entry
          exact ⟨path, member, _, seen, same, since, content, read, rfl⟩
        · exact (ih entry).later earlier

-- What the cache still answers with is what the file holds.
theorem current_of_get (faithful : Faithful files steps) {path : Text} {theme : ThemeVariables}
    (found : (run files steps).cache.get (run files steps).files path = some theme) :
    ∃ content, (run files steps).files.readText path = .ok content ∧ theme = .parse content := by
  obtain ⟨changed, entry, now⟩ := ThemeCache.get_eq_some_iff.1 found
  obtain ⟨first, member, t, seen, same, since, content, read, parsed⟩ := kept_run entry
  obtain ⟨names, node, located, moment⟩ := FileTree.changed?_eq_some_iff.1 now
  have there := FileTree.locate_of_readText same read located
  have again : (run files steps).files.changed? first = t.changed? first := by
    rw [since]
    exact FileTree.changed?_eq_some_iff.2 ⟨names, node, there, moment⟩
  have here : (run files steps).files ∈ trees files steps :=
    mem_trees_iff.2 ⟨steps, List.prefix_rfl, rfl⟩
  have equal := faithful t seen _ here first member (by rw [since]; rfl) again
  have reread : (run files steps).files.readText first = .ok content := by
    rw [read] at equal
    cases now : (run files steps).files.readText first with
    | error cause =>
      rw [now] at equal
      cases equal
    | ok text =>
      rw [now] at equal
      cases equal
      rfl
  obtain ⟨place, when_, found'⟩ := FileTree.readText_eq_ok_iff.1 reread
  rw [there] at found'
  cases found'
  exact ⟨content, FileTree.readText_eq_ok_iff.2 ⟨_, _, located⟩, parsed⟩

theorem theme_of_read {path content : Text} (read : files.readText path = .ok content) :
    files.theme path = .parse content := by
  rw [FileTree.theme, read]

theorem theme_load (faithful : Faithful files steps) (path : Text) :
    ((run files steps).cache.load (run files steps).files path).1 =
      (run files steps).files.theme path := by
  have which := ThemeCache.loads (run files steps).files (run files steps).cache path
  generalize ThemeCache.load (run files steps).files (run files steps).cache path = answer at which ⊢
  cases which with
  | kept found =>
    obtain ⟨content, read, rfl⟩ := current_of_get faithful found
    exact (theme_of_read read).symm
  | unreadable missed unread => rw [FileTree.theme, unread]
  | parsed missed read since => exact (theme_of_read read).symm

theorem contains_load (faithful : Faithful files steps) (path : Text) :
    OrderedMap.contains ((run files steps).cache.load (run files steps).files path).2 key = true ↔
      Path.components path = key ∧
        (∃ content, (run files steps).files.readText path = .ok content) ∨
      Path.components path ≠ key ∧ (run files steps).cache.contains key = true := by
  have which := ThemeCache.loads (run files steps).files (run files steps).cache path
  generalize ThemeCache.load (run files steps).files (run files steps).cache path = answer at which ⊢
  by_cases same : Path.components path = key
  · subst same
    cases which with
    | kept found =>
      obtain ⟨content, read, -⟩ := current_of_get faithful found
      obtain ⟨changed, entry, -⟩ := ThemeCache.get_eq_some_iff.1 found
      simp [OrderedMap.contains, entry, read]
    | unreadable missed unread => simp [OrderedMap.contains, OrderedMap.get?_erase, unread]
    | parsed missed read since => simp [OrderedMap.contains, OrderedMap.get?_insert, read]
  · cases which with
    | kept found => simp [same]
    | unreadable missed unread => simp [OrderedMap.contains, OrderedMap.get?_erase, same]
    | parsed missed read since => simp [OrderedMap.contains, OrderedMap.get?_insert, same]

theorem contains_run (faithful : Faithful files steps) :
    (run files steps).cache.contains key = true ↔ LastRead files steps key := by
  induction steps using List.reverseRecOn with
  | nil =>
    refine ⟨fun held => (by cases held), ?_⟩
    rintro ⟨before, path, after, split, -⟩
    exact absurd split (by simp)
  | append_singleton steps x ih =>
    have before := faithful.earlier (List.prefix_append ..)
    rw [run_append_singleton, lastRead_append_singleton, ← ih before]
    cases x with
    | load path =>
      rw [step, contains_load before path]
      simp [and_comm]
    | get path => simp [step]
    | change alter => simp [step]
    | clear =>
      simp [step]
      rfl

-- At each point of a run the cache answers with what the files hold, and its entries are those of
-- the paths that were last loaded with success since it was cleared.
theorem run_coherent (faithful : Faithful files steps) {before : List ThemeStep}
    (reached : before <+: steps) :
    (∀ path, (run files before).answer (.load path) = some ((run files before).files.theme path)) ∧
      (∀ path theme, (run files before).answer (.get path) = some theme →
        theme = (run files before).files.theme path) ∧
      (∀ path, (run files before).cache.contains (Path.components path) = true ↔
        LastRead files before (Path.components path)) ∧
      (run files before).cache.size = {key | LastRead files before key}.ncard := by
  have earlier := faithful.earlier reached
  refine ⟨fun path => ?_, fun path theme found => ?_, fun path => contains_run earlier, ?_⟩
  · rw [answer, theme_load earlier path]
  · obtain ⟨content, read, rfl⟩ := current_of_get earlier found
    exact (theme_of_read read).symm
  · have keys : {key | LastRead files before key} =
        ((run files before).cache.keys.toFinset : Set (List Path.Component)) := by
      ext key
      rw [Set.mem_ofPred_eq, List.coe_toFinset, Set.mem_ofPred_eq, OrderedMap.mem_keys_iff,
        contains_run earlier]
    have distinct : (run files before).cache.keys.Nodup := (run files before).cache.distinct
    rw [keys, Set.ncard_coe_finset, List.toFinset_card_of_nodup distinct]
    exact (List.length_map ..).symm

theorem run_coherent_changing_file :
    let write (path : String) (content : Text) (time : Int) : ThemeStep := .change fun t =>
      (t.writeText path.toList (some content) (some (.time time))).toOption.getD t
    let files := FileTree.ofDirectory ["p".toList]
    let steps : List ThemeStep := [write "/p/a" "@c: red;".toList 5, .load "/p/a".toList,
      .load "a".toList, .load "/p//a".toList, write "/p/a" "@c: blue;".toList 6,
      .get "/p/a".toList, .load "/p/a".toList, .change (FileTree.remove · "a".toList),
      .load "/p/a/".toList, .change fun t => (t.makeDirectory "/p/a".toList).toOption.getD t,
      .load "a".toList, write "/p/b" "@c: red;".toList 5, .load "/p/b".toList]
    Faithful files steps ∧ steps <+: steps ∧
      (∀ path, (run files steps).answer (.load path) = some ((run files steps).files.theme path)) ∧
      (∀ path theme, (run files steps).answer (.get path) = some theme →
        theme = (run files steps).files.theme path) ∧
      (∀ path, (run files steps).cache.contains (Path.components path) = true ↔
        LastRead files steps (Path.components path)) ∧
      (run files steps).cache.size = {key | LastRead files steps key}.ncard ∧
      (run files steps).cache.size = 1 ∧
      ((run files steps).answer (.load "/p/b".toList)).map (·.entries) =
        some [("c".toList, "red".toList)] ∧
      ((run files (steps.take 7)).answer (.get "/p/a".toList)).map (·.entries) =
        some [("c".toList, "blue".toList)] := by
  intro write files steps
  have faithful : Faithful files steps := by
    unfold Faithful
    decide
  obtain ⟨loads, gets, entries, size⟩ := run_coherent faithful List.prefix_rfl
  exact ⟨faithful, List.prefix_rfl, loads, gets, entries, size, by decide, by decide,
    by decide⟩

end ThemeSession
end ComponentLoader
