import ComponentLoader.Proofs.Import.QuickCheck
import ComponentLoader.Proofs.OrderedMap

namespace ComponentLoader
namespace Expansion

def unmapped? (map : ComponentMap) (names : List ImportedName) : Option Text :=
  (names.find? fun name => name.binding ≠ [] && !map.contains name.exported).map (·.exported)

def firstUnmapped? (map : ComponentMap) (statements : List ImportStatement) : Option Text :=
  statements.findSome? fun statement => unmapped? map statement.names

def importLines (e : Expansion) (map : ComponentMap) (names : List ImportedName) : List Text :=
  (names.filter (·.binding ≠ [])).map fun name =>
    e.importLine name.binding ((map.get? name.exported).getD [])

def expanded (e : Expansion) (map : ComponentMap) (source : Text) : Text :=
  if ImportStatement.compiles (some e.kit) then
    (ImportStatement.scanner (some e.kit)).replace
      (fun _ statement => Text.join ['\n'] (e.importLines map statement.names)) source
  else source

def failure (e : Expansion) (name : Text) : LoadError := .unresolvedComponent name e.kit e.resource

theorem statementLines_outcome (e : Expansion) (map : ComponentMap) (names : List ImportedName) :
    e.statementLines map names =
      ((unmapped? map names).map e.failure).elim (.ok (e.importLines map names)) .error := by
  induction names with
  | nil => rfl
  | cons name names ih =>
    by_cases dropped : name.binding = []
    · have rest : unmapped? map (name :: names) = unmapped? map names := by
        simp [unmapped?, dropped]
      have lines : e.importLines map (name :: names) = e.importLines map names := by
        simp [importLines, dropped]
      rw [statementLines, if_pos dropped, ih, rest, lines]
    · rw [statementLines, if_neg dropped, ih]
      cases mapped : map.get? name.exported with
      | none =>
        have first : unmapped? map (name :: names) = some name.exported := by
          simp [unmapped?, dropped, OrderedMap.contains, mapped]
        rw [first]
        rfl
      | some path =>
        have rest : unmapped? map (name :: names) = unmapped? map names := by
          simp [unmapped?, OrderedMap.contains, mapped]
        have lines : e.importLines map (name :: names) =
            e.importLine name.binding path :: e.importLines map names := by
          simp [importLines, dropped, mapped]
        rw [rest, lines]
        cases unmapped? map names with
        | some other => rfl
        | none => rfl

theorem expandAll_outcome (e : Expansion) (map : ComponentMap) (source : Text) :
    e.expandAll map source = ((firstUnmapped? map (located e.kit source)).map e.failure).elim
      (.ok (e.expanded map source)) .error := by
  have step : ∀ (raw : Text) (statement : ImportStatement), e.replacement map statement =
      ((unmapped? map statement.names).map e.failure).elim
        (.ok (Text.join ['\n'] (e.importLines map statement.names))) .error := by
    intro raw statement
    rw [replacement, statementLines_outcome]
    cases unmapped? map statement.names with
    | some name => rfl
    | none => rfl
  rw [expandAll, ImportStatement.replaceM_eq, expanded, located]
  split
  · rw [Scanner.replaceM_eq_findSome? step, firstUnmapped?, List.map_findSome?]
    rfl
  · rfl

theorem unmapped?_eq_none_iff {map : ComponentMap} {names : List ImportedName} :
    unmapped? map names = none ↔
      ∀ name ∈ names, name.binding ≠ [] → map.contains name.exported = true := by
  simp [unmapped?]

theorem length_le_specifier (e : Expansion) (path : Text) :
    path.length ≤ (e.specifier path).length + e.kitPath.length := by
  unfold specifier
  split
  · omega
  · split
    · next rest below =>
      rw [Text.dropPrefix?_eq_some.1 below]
      simp only [List.length_append, List.length_cons, List.length_nil]
      omega
    · omega

theorem specifier_infix_importLine (e : Expansion) (binding mapped : Text) :
    e.specifier (e.kit ++ '/' :: dropDotSlash mapped) <:+: e.importLine binding mapped :=
  ⟨_, ['\''], rfl⟩

theorem length_of_importLine {e : Expansion} {map : ComponentMap} {names : List ImportedName}
    {name : ImportedName} {path : Text} (member : name ∈ names) (bound : name.binding ≠ [])
    (mapped : map.get? name.exported = some path) (direct : dropDotSlash path = path) :
    path.length ≤ (Text.join ['\n'] (e.importLines map names)).length + e.kitPath.length := by
  have listed : e.importLine name.binding path ∈ e.importLines map names := by
    refine List.mem_map.2 ⟨name, List.mem_filter.2 ⟨member, by simpa using bound⟩, ?_⟩
    rw [mapped]
    rfl
  have inside : e.specifier (e.kit ++ '/' :: dropDotSlash path) <:+:
      Text.join ['\n'] (e.importLines map names) :=
    (e.specifier_infix_importLine name.binding path).trans (Text.infix_join_of_mem listed)
  have written := e.length_le_specifier (e.kit ++ '/' :: path)
  rw [direct] at inside
  rw [List.length_append, List.length_cons] at written
  have bound := inside.length_le
  omega

theorem infix_expanded {e : Expansion} {source : Text} {statement : ImportStatement}
    (member : statement ∈ located e.kit source) (map : ComponentMap) :
    Text.join ['\n'] (e.importLines map statement.names) <:+: e.expanded map source := by
  have compiled := compiles_of_mem_located member
  rw [located, if_pos compiled] at member
  obtain ⟨piece, present, value⟩ := List.mem_filterMap.1 member
  cases piece with
  | char c => cases value
  | item raw found =>
    cases value
    obtain ⟨ps, qs, read⟩ := List.append_of_mem present
    rw [expanded, if_pos compiled, Scanner.replace, read, List.flatMap_append, List.flatMap_cons]
    exact ⟨_, _, List.append_assoc ..⟩

theorem exists_map_changing {e : Expansion} {source : Text} (some_ : located e.kit source ≠ []) :
    ∃ map, firstUnmapped? map (located e.kit source) = none ∧ e.expanded map source ≠ source := by
  by_cases bound : ∃ statement ∈ located e.kit source, ∃ name ∈ statement.names, name.binding ≠ []
  · obtain ⟨statement, present, name, member, bound⟩ := bound
    let long : Text := List.replicate (source.length + e.kitPath.length + 1) 'x'
    let names := (located e.kit source).flatMap (·.names)
    let map : ComponentMap := .ofList (names.map fun name => (name.exported, long))
    have contains : ∀ statement ∈ located e.kit source, ∀ name ∈ statement.names,
        map.contains name.exported = true := by
      intro statement present name member
      refine OrderedMap.contains_ofList.2 ⟨(name.exported, long), ?_, rfl⟩
      exact List.mem_map.2 ⟨name, List.mem_flatMap.2 ⟨statement, present, member⟩, rfl⟩
    have mapped : map.get? name.exported = some long := by
      obtain ⟨path, found⟩ := Option.isSome_iff_exists.1 (contains statement present name member)
      rcases OrderedMap.mem_of_get?_extend found with old | new
      · cases old
      · obtain ⟨other, -, same⟩ := List.mem_map.1 new
        rw [found, ← (Prod.mk.inj same).2]
    refine ⟨map, List.findSome?_eq_none_iff.2 fun statement present => ?_, fun same => ?_⟩
    · exact unmapped?_eq_none_iff.2 fun name member _ => contains statement present name member
    · have direct : dropDotSlash long = long := by simp [long, List.replicate_succ, dropDotSlash]
      have written := length_of_importLine (e := e) member bound mapped direct
      have inside := (infix_expanded present map).length_le
      rw [same] at inside
      simp only [long, List.length_replicate] at written
      omega
  · have none_ : firstUnmapped? .empty (located e.kit source) = none := by
      refine List.findSome?_eq_none_iff.2 fun statement present => ?_
      exact unmapped?_eq_none_iff.2 fun name member filled =>
        absurd ⟨statement, present, name, member, filled⟩ bound
    refine ⟨.empty, none_, fun same => some_ ?_⟩
    have all := e.expandAll_outcome .empty source
    rw [none_, same] at all
    exact located_eq_nil_of_kept all

-- The expansion fails on the first name that the map lacks, where the check for `from` clauses lets
-- it begin. Otherwise the statements and nothing else are replaced, in exactly the sources that
-- pass the check or hold no statement for the kit.
theorem expand_outcome (e : Expansion) (source : Text) :
    (∀ map cause, e.expand map source = .error cause ↔ mayOccur e.kit source = true ∧
      ∃ name, firstUnmapped? map (located e.kit source) = some name ∧
        cause = .unresolvedComponent name e.kit e.resource) ∧
    ((∀ map, firstUnmapped? map (located e.kit source) = none →
        e.expand map source = .ok (e.expanded map source)) ↔
      located e.kit source = [] ∨ mayOccur e.kit source = true) := by
  have passed : mayOccur e.kit source = true → ∀ map, e.expand map source =
      ((firstUnmapped? map (located e.kit source)).map e.failure).elim
        (.ok (e.expanded map source)) .error := by
    intro checked map
    rw [expand, if_pos checked]
    exact e.expandAll_outcome map source
  have kept : mayOccur e.kit source = false → ∀ map, e.expand map source = .ok source := by
    intro checked map
    rw [expand, checked]
    rfl
  refine ⟨fun map cause => ?_, fun every => ?_, fun either map none_ => ?_⟩
  · cases checked : mayOccur e.kit source with
    | false => simp [kept checked]
    | true =>
      rw [passed checked]
      cases firstUnmapped? map (located e.kit source) with
      | none => simp
      | some name => simp [failure, eq_comm]
  · cases checked : mayOccur e.kit source with
    | true => exact .inr rfl
    | false =>
      refine .inl (Classical.byContradiction fun some_ => ?_)
      obtain ⟨map, none_, changed⟩ := exists_map_changing some_
      have same := every map none_
      rw [kept checked] at same
      exact changed (Except.ok.inj same).symm
  · cases checked : mayOccur e.kit source with
    | true => rw [passed checked, none_]; rfl
    | false =>
      have nothing : located e.kit source = [] :=
        either.resolve_right (by rw [checked]; decide)
      have all := e.expandAll_outcome map source
      rw [none_, expandAll_of_none nothing] at all
      rw [kept checked]
      exact all

-- A quote in a comment hides a statement from the check, and a name that the map lacks goes
-- unnoticed with it.
theorem hidden_statement_kept :
    let e : Expansion := {
      kit := "vux".toList, kitPath := "vux".toList, paths := .packaged
      resource := "/p/App.vue".toList, rootEntry := "App.vue".toList
      overrideDir := none, sourceDir := "src".toList }
    let map : ComponentMap := .ofList [("A".toList, "components/a.vue".toList)]
    let source := "/* \x7d from 'a */ import \x7b A \x7d from 'vux'".toList
    firstUnmapped? map (located e.kit source) = none ∧
      e.expanded map source = "/* \x7d from 'a */ import A from 'vux/components/a.vue'".toList ∧
      e.expand map source = .ok source := by
  intro e map source
  have compiled : ImportStatement.compiles (some e.kit) = true :=
    ImportStatement.compiles_of_length_le (by decide)
  rw [located, expanded, if_pos compiled, if_pos compiled]
  decide +kernel

end Expansion
end ComponentLoader
