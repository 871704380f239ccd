import ComponentLoader.Proofs.Import.Outcome

namespace ComponentLoader

namespace Text

theorem length_join_map {sep : Text} {l : List α} {f g : α → Text} {n : Nat}
    (longer : ∀ x, (g x).length = (f x).length + n) :
    (join sep (l.map g)).length = (join sep (l.map f)).length + l.length * n := by
  induction l with
  | nil => simp [join]
  | cons x l ih =>
    cases l with
    | nil => simp [join, longer]
    | cons y l =>
      have parts (h : α → Text) :
          join sep ((x :: y :: l).map h) = h x ++ sep ++ join sep ((y :: l).map h) := rfl
      have count : (x :: y :: l).length * n = (y :: l).length * n + n := Nat.succ_mul _ _
      rw [parts, parts, List.length_append, List.length_append, List.length_append,
        List.length_append, ih, longer, count]
      omega

end Text

namespace Scanner

theorem replace_congr {scan : Scanner α} {f g : Text → α → Text} {s : Text}
    (same : ∀ raw, ∀ v ∈ scan.items s, f raw v = g raw v) : scan.replace f s = scan.replace g s := by
  apply List.flatMap_congr
  intro p present
  cases p with
  | char c => rfl
  | item raw v => exact same raw v (List.mem_filterMap.2 ⟨_, present, rfl⟩)

theorem length_flatMap_rewritten_le {f g : Text → α → Text}
    (le : ∀ raw v, (f raw v).length ≤ (g raw v).length) (ps : List (Piece α)) :
    (ps.flatMap (Piece.rewritten f)).length ≤ (ps.flatMap (Piece.rewritten g)).length := by
  induction ps with
  | nil => exact Nat.le_refl _
  | cons p ps ih =>
    rw [List.flatMap_cons, List.flatMap_cons, List.length_append, List.length_append]
    refine Nat.add_le_add ?_ ih
    cases p with
    | char c => exact Nat.le_refl _
    | item raw v => exact le raw v

theorem length_replace_lt {scan : Scanner α} {f g : Text → α → Text} {s : Text} {v : α}
    (le : ∀ raw v, (f raw v).length ≤ (g raw v).length) (member : v ∈ scan.items s)
    (lt : ∀ raw, (f raw v).length < (g raw v).length) :
    (scan.replace f s).length < (scan.replace g s).length := by
  obtain ⟨p, present, value⟩ := List.mem_filterMap.1 member
  cases p with
  | char c => cases value
  | item raw w =>
    cases value
    obtain ⟨ps, qs, read⟩ := List.append_of_mem present
    have whole (h : Text → α → Text) : scan.replace h s =
        ps.flatMap (Piece.rewritten h) ++ (h raw v ++ qs.flatMap (Piece.rewritten h)) := by
      have all : scan.replace h s = (scan.pieces s).flatMap (Piece.rewritten h) := rfl
      rw [all, read, List.flatMap_append, List.flatMap_cons]
      rfl
    have before := length_flatMap_rewritten_le le ps
    have behind := length_flatMap_rewritten_le le qs
    have here := lt raw
    rw [whole, whole]
    simp only [List.length_append]
    omega

end Scanner

namespace Expansion

variable {e e' : Expansion} {map : ComponentMap} {source : Text}

def withSourceDir (e : Expansion) (dir : Text) : Expansion := { e with sourceDir := dir }

@[simp]
theorem withSourceDir_kit (dir : Text) : (e.withSourceDir dir).kit = e.kit := rfl

@[simp]
theorem withSourceDir_kitPath (dir : Text) : (e.withSourceDir dir).kitPath = e.kitPath := rfl

@[simp]
theorem withSourceDir_paths (dir : Text) : (e.withSourceDir dir).paths = e.paths := rfl

@[simp]
theorem withSourceDir_resource (dir : Text) : (e.withSourceDir dir).resource = e.resource := rfl

@[simp]
theorem withSourceDir_rootEntry (dir : Text) : (e.withSourceDir dir).rootEntry = e.rootEntry := rfl

@[simp]
theorem withSourceDir_overrideDir (dir : Text) :
    (e.withSourceDir dir).overrideDir = e.overrideDir := rfl

-- What the relative directory is chosen by before the file is looked for in the kit, or in its
-- place.
def IsPlaced (e : Expansion) : Prop :=
  Path.lastName e.resource = e.rootEntry ∨ e.overrideDir.isSome = true ∨
    (Path.aboveDir? e.resource "demos".toList).isSome = true ∨
    Path.directoryName? e.resource = some "components".toList

theorem relativeDir_withSourceDir (placed : e.IsPlaced) (dir : Text) :
    (e.withSourceDir dir).relativeDir = e.relativeDir := by
  unfold IsPlaced at placed
  unfold relativeDir
  generalize "demos".toList = demos, "components".toList = components at placed ⊢
  by_cases root : Path.lastName e.resource = e.rootEntry
  · simp [root]
  · cases override : e.overrideDir with
    | some given => simp [root, override]
    | none =>
      cases below : Path.aboveDir? e.resource demos with
      | some found => simp [root, override, below]
      | none =>
        have inComponents : Path.directoryName? e.resource = some components := by
          simpa [root, override, below] using placed
        simp [root, override, below, inComponents]

theorem relativeDir_of_not_isPlaced (unplaced : ¬e.IsPlaced) :
    e.relativeDir = if e.liesInKit then "../..".toList else "..".toList := by
  unfold IsPlaced at unplaced
  unfold relativeDir
  generalize "demos".toList = demos, "components".toList = components, "..".toList = up,
    "../..".toList = higher at unplaced ⊢
  simp only [not_or, Bool.not_eq_true, Option.isSome_eq_false_iff,
    Option.isNone_iff_eq_none] at unplaced
  obtain ⟨root, override, below, elsewhere⟩ := unplaced
  simp [root, override, below, elsewhere]

theorem mem_relativeDir_of_not_isPlaced (unplaced : ¬e.IsPlaced) {c : Char}
    (member : c ∈ e.relativeDir) : c = '.' ∨ c = '/' := by
  rw [relativeDir_of_not_isPlaced unplaced] at member
  split at member
  · simpa [or_comm] using member
  · exact .inl (by simpa using member)

theorem length_relativeDir_of_not_isPlaced (unplaced : ¬e.IsPlaced) :
    e.relativeDir.length = if e.liesInKit then 5 else 2 := by
  rw [relativeDir_of_not_isPlaced unplaced, apply_ite List.length, String.length_toList,
    String.length_toList]
  rfl

theorem length_relativeDir_ne_iff (dir : Text) :
    (e.withSourceDir dir).relativeDir.length ≠ e.relativeDir.length ↔
      ¬(e.IsPlaced ∨ (e.withSourceDir dir).liesInKit = e.liesInKit) := by
  by_cases placed : e.IsPlaced
  · simp [placed, relativeDir_withSourceDir placed]
  · have unplaced : ¬(e.withSourceDir dir).IsPlaced := placed
    rw [length_relativeDir_of_not_isPlaced placed, length_relativeDir_of_not_isPlaced unplaced]
    cases (e.withSourceDir dir).liesInKit <;> cases e.liesInKit <;> simp [placed]

theorem relativeDir_withSourceDir_iff (dir : Text) :
    (e.withSourceDir dir).relativeDir = e.relativeDir ↔
      e.IsPlaced ∨ (e.withSourceDir dir).liesInKit = e.liesInKit := by
  constructor
  · intro same
    by_contra apart
    exact (length_relativeDir_ne_iff dir).2 apart (congrArg List.length same)
  · intro like
    by_cases placed : e.IsPlaced
    · exact relativeDir_withSourceDir placed dir
    · have unplaced : ¬(e.withSourceDir dir).IsPlaced := placed
      have place := like.resolve_left placed
      rw [relativeDir_of_not_isPlaced placed, relativeDir_of_not_isPlaced unplaced, place]

def Writes (kit : Text) (map : ComponentMap) (source : Text) : Prop :=
  mayOccur kit source = true ∧ firstUnmapped? map (located kit source) = none ∧
    ∃ statement ∈ located kit source, ∃ name ∈ statement.names, name.binding ≠ []

theorem expand_eq (e : Expansion) (map : ComponentMap) (source : Text) :
    e.expand map source =
      if mayOccur e.kit source then
        ((firstUnmapped? map (located e.kit source)).map e.failure).elim
          (.ok (e.expanded map source)) .error
      else .ok source := by
  rw [expand]
  split
  · exact e.expandAll_outcome map source
  · rfl

theorem expand_withSourceDir_of_lines {dir : Text}
    (lines : mayOccur e.kit source = true → firstUnmapped? map (located e.kit source) = none →
      ∀ statement ∈ located e.kit source,
        (e.withSourceDir dir).importLines map statement.names = e.importLines map statement.names) :
    (e.withSourceDir dir).expand map source = e.expand map source := by
  rw [expand_eq, expand_eq, withSourceDir_kit]
  split
  · next occurs =>
    cases unmapped : firstUnmapped? map (located e.kit source) with
    | some name =>
      simp only [Option.map_some, Option.elim_some]
      rfl
    | none =>
      have expanded : (e.withSourceDir dir).expanded map source = e.expanded map source := by
        rw [Expansion.expanded, Expansion.expanded, withSourceDir_kit]
        split
        · next compiled =>
          apply Scanner.replace_congr
          intro raw statement present
          have member : statement ∈ located e.kit source := by rwa [located, if_pos compiled]
          rw [lines occurs unmapped statement member]
        · rfl
      simp only [Option.map_none, Option.elim_none, expanded]
  · rfl

theorem importLine_relative (relative : e.paths = .relative) (whole : e.kitPath = e.kit)
    (binding mapped : Text) : e.importLine binding mapped =
      "import ".toList ++ binding ++ " from '".toList ++
        (e.relativeDir ++ '/' :: dropDotSlash mapped) ++ ['\''] := by
  have spelled : e.kit ++ '/' :: dropDotSlash mapped = e.kit ++ ['/'] ++ dropDotSlash mapped := by
    simp
  have below : Text.dropPrefix? (e.kitPath ++ ['/']) (e.kit ++ '/' :: dropDotSlash mapped) =
      some (dropDotSlash mapped) := by
    rw [whole, spelled]
    exact Text.dropPrefix?_append _ _
  unfold importLine specifier
  rw [relative]
  simp only [below]

theorem length_expanded_lt (relative : e.paths = .relative) (whole : e.kitPath = e.kit)
    (relative' : e'.paths = .relative) (whole' : e'.kitPath = e'.kit) (kit : e'.kit = e.kit)
    (longer : e.relativeDir.length < e'.relativeDir.length) {statement : ImportStatement}
    (present : statement ∈ located e.kit source) {name : ImportedName}
    (member : name ∈ statement.names) (bound : name.binding ≠ []) :
    (e.expanded map source).length < (e'.expanded map source).length := by
  obtain ⟨n, more⟩ := Nat.exists_eq_add_of_lt longer
  have line (binding mapped : Text) : (e'.importLine binding mapped).length =
      (e.importLine binding mapped).length + (n + 1) := by
    rw [importLine_relative relative whole, importLine_relative relative' whole']
    simp only [List.length_append, List.length_cons]
    omega
  have lines (names : List ImportedName) :
      (Text.join ['\n'] (e'.importLines map names)).length =
        (Text.join ['\n'] (e.importLines map names)).length +
          (names.filter (·.binding ≠ [])).length * (n + 1) :=
    Text.length_join_map fun name => line _ _
  have some_ : 0 < (statement.names.filter (·.binding ≠ [])).length :=
    List.length_pos_of_mem (List.mem_filter.2 ⟨member, by simpa using bound⟩)
  have compiled := compiles_of_mem_located present
  rw [located, if_pos compiled] at present
  rw [expanded, expanded, kit, if_pos compiled, if_pos compiled]
  refine Scanner.length_replace_lt (fun raw v => ?_) present fun raw => ?_
  · rw [lines]
    omega
  · rw [lines]
    exact Nat.lt_add_of_pos_right (Nat.mul_pos some_ (Nat.succ_pos n))

-- Where the package stands for the kit's sources, the name of their directory is seen in exactly
-- the expansions that write a relative import from a file whose relative directory hangs on it.
theorem expand_withSourceDir_iff (whole : e.kitPath = e.kit) (dir : Text) (map : ComponentMap)
    (source : Text) :
    (e.withSourceDir dir).expand map source = e.expand map source ↔
      (e.paths = .packaged ∨ (e.withSourceDir dir).relativeDir = e.relativeDir) ∨
        ¬Writes e.kit map source := by
  constructor
  · intro same
    refine or_iff_not_imp_right.2 fun writes => or_iff_not_imp_left.2 fun packaged => ?_
    obtain ⟨checked, mapped, statement, present, name, member, bound⟩ := Classical.not_not.1 writes
    have relative : e.paths = .relative := by
      cases paths : e.paths with
      | packaged => exact absurd paths packaged
      | relative => rfl
    rw [expand_eq, expand_eq, withSourceDir_kit, if_pos checked, if_pos checked, mapped] at same
    have lengths := congrArg List.length (Except.ok.inj same)
    by_contra differ
    have apart := (length_relativeDir_ne_iff dir).2
      (mt (relativeDir_withSourceDir_iff dir).2 differ)
    rcases Nat.lt_or_gt_of_ne apart with shorter | longer
    · have less : ((e.withSourceDir dir).expanded map source).length <
          (e.expanded map source).length :=
        length_expanded_lt relative whole relative whole rfl shorter present member bound
      omega
    · have less : (e.expanded map source).length <
          ((e.withSourceDir dir).expanded map source).length :=
        length_expanded_lt relative whole relative whole rfl longer present member bound
      omega
  · rintro (same | silent)
    · have named (path : Text) : (e.withSourceDir dir).specifier path = e.specifier path := by
        unfold specifier
        rcases same with packaged | same
        · rw [withSourceDir_paths, packaged]
        · rw [same]
          rfl
      refine expand_withSourceDir_of_lines fun _ _ statement _ => ?_
      unfold importLines importLine
      simp only [withSourceDir_kit, named]
    · refine expand_withSourceDir_of_lines fun occurs mapped statement present => ?_
      have none_ : statement.names.filter (·.binding ≠ []) = [] := by
        rw [List.filter_eq_nil_iff]
        intro name member bound
        exact silent ⟨occurs, mapped, statement, present, name, member, by simpa using bound⟩
      rw [importLines, importLines, none_]
      rfl

end Expansion
end ComponentLoader
