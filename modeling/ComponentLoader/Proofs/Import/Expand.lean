import ComponentLoader.Proofs.Import.Lines

namespace ComponentLoader
open ImportStatement (isQuote isSpecifierChar QuoteFree quoteFree_append quoteFree_cons
  quoteFree_of_specifier Idle)

namespace Expansion

theorem dropDotSlash_eq (path : Text) :
    (∃ n, path = (List.replicate n ['.', '/']).flatten ++ dropDotSlash path) ∧
      ¬['.', '/'] <+: dropDotSlash path := by
  induction path using dropDotSlash.induct with
  | case1 r ih =>
    obtain ⟨⟨n, same⟩, stripped⟩ := ih
    refine ⟨⟨n + 1, ?_⟩, stripped⟩
    rw [dropDotSlash, List.replicate_succ, List.flatten_cons, List.append_assoc, ← same]
    rfl
  | case2 path other =>
    have kept : dropDotSlash path = path := dropDotSlash.eq_2 path other
    rw [kept]
    refine ⟨⟨0, rfl⟩, ?_⟩
    rintro ⟨r, same⟩
    exact other r same.symm

def importText (kit : Text) (map : ComponentMap) (name : ImportedName) : Text :=
  "import ".toList ++ name.binding ++ " from '".toList ++ kit ++
    '/' :: dropDotSlash ((map.get? name.exported).getD []) ++ ['\'']

def imports (kit : Text) (map : ComponentMap) (names : List ImportedName) : List Text :=
  (names.filter fun name => name.binding ≠ []).map (importText kit map)

def Mapped (map : ComponentMap) (names : List ImportedName) : Prop :=
  ∀ name ∈ names, name.binding ≠ [] → (map.get? name.exported).isSome

theorem statementLines_eq {e : Expansion} {map : ComponentMap} (packaged : e.paths = .packaged)
    {names : List ImportedName} (mapped : Mapped map names) :
    e.statementLines map names = .ok (imports e.kit map names) := by
  induction names with
  | nil => rfl
  | cons name names ih =>
    have later := ih fun n member => mapped n (List.mem_cons_of_mem name member)
    rw [statementLines]
    split
    · next unbound =>
      rw [later, imports, imports, List.filter_cons_of_neg (by simpa using unbound)]
    · next bound =>
      obtain ⟨path, found⟩ := Option.isSome_iff_exists.1 (mapped name (by simp) bound)
      have line : e.importLine name.binding path = importText e.kit map name := by
        unfold importLine importText specifier
        generalize "import ".toList = import_
        generalize " from '".toList = from_
        simp [packaged, found]
      rw [found, later, imports, imports, List.filter_cons_of_pos (by simpa using bound),
        List.map_cons, ← line]
      rfl

theorem expand_of_idle {e : Expansion} {source : Text} (single : '\n' ∉ e.kit)
    (idle : Idle e.kit source) (map : ComponentMap) : e.expand map source = .ok source := by
  unfold expand
  split
  · rw [ImportStatement.replaceM_eq]
    split
    · exact Scanner.replaceM_eq_self (ImportStatement.inert_of_idle single (by simp) idle)
    · rfl
  · rfl

end Expansion

namespace SourceLine

def expanded (kit : Text) (map : ComponentMap) : SourceLine → Text
  | other t => t
  | statement s =>
    (if s.module.val = kit then Text.join ['\n'] (Expansion.imports kit map s.clause.names)
      else s.raw) ++ s.ending

end SourceLine

namespace Expansion

theorem mayOccur_source {kit : Text} {lines : List SourceLine} {s : WrittenImport}
    (member : .statement s ∈ lines) (named : s.module.val = kit) :
    mayOccur kit (source lines) = true := by
  subst named
  obtain ⟨u, r, same, front⟩ := @Text.join_of_mem ['\n'] _ _
    (List.mem_map_of_mem (f := SourceLine.text) member)
  have clause : IsClause s.between.val s.gap.val s.quote.val s.module.val s.quote.val :=
    ⟨isBlank_of_mem_spacing, isBlank_of_mem_spacing, s.quote.property, s.quote.property,
      s.module.property.1, s.module.property.2⟩
  have unquoted : Unquoted (u ++ s.parts.head) := by
    rcases front with rfl | ⟨v, rfl⟩
    · exact unquoted_of_quoteFree s.head_quoteFree
    · rw [List.append_assoc]
      exact unquoted_newline s.head_quoteFree
  have spelled : source lines = u ++ s.parts.head ++
      (clauseText s.between s.gap s.quote s.module s.quote ++ (s.ending ++ r)) := by
    rw [source, same]
    unfold SourceLine.text WrittenImport.raw ImportStatement.Parts.text ImportStatement.Parts.tail
      clauseText
    generalize "from".toList = from_
    simp [WrittenImport.parts]
  rw [spelled]
  exact mayOccur_of_clause unquoted clause _

def expandedSource (kit : Text) (map : ComponentMap) (lines : List SourceLine) : Text :=
  Text.join ['\n'] (lines.map (SourceLine.expanded kit map))

theorem visit_eq {e : Expansion} {map : ComponentMap} (packaged : e.paths = .packaged)
    {line : SourceLine} (mapped : ∀ s, line = .statement s → s.module.val = e.kit →
      Mapped map s.clause.names) :
    line.visit e.kit (fun _ statement => e.replacement map statement) =
      .ok (line.expanded e.kit map) := by
  cases line with
  | other t => rfl
  | statement s =>
    by_cases named : s.module.val = e.kit
    · rw [SourceLine.visit, SourceLine.expanded, if_pos named, if_pos named, replacement,
        WrittenImport.value, statementLines_eq packaged (mapped s rfl named)]
      rfl
    · rw [SourceLine.visit, SourceLine.expanded, if_neg named, if_neg named]
      rfl

theorem expand_source_eq {e : Expansion} {map : ComponentMap} {lines : List SourceLine}
    (compiled : ImportStatement.compiles (some e.kit) = true) (packaged : e.paths = .packaged)
    (plain : ∀ c ∈ e.kit, isSpecifierChar c = true)
    (mapped : ∀ s, .statement s ∈ lines → s.module.val = e.kit → Mapped map s.clause.names) :
    e.expand map (source lines) = .ok (expandedSource e.kit map lines) := by
  by_cases any : ∃ s, .statement s ∈ lines ∧ s.module.val = e.kit
  · obtain ⟨s, member, named⟩ := any
    rw [expand, if_pos (mayOccur_source member named), ImportStatement.replaceM_source compiled plain,
      mapM_ok fun line inside => visit_eq packaged fun s same => mapped s (same ▸ inside)]
    rfl
  · have same : lines.map (SourceLine.expanded e.kit map) = lines.map SourceLine.text := by
      refine List.map_congr_left fun line inside => ?_
      cases line with
      | other t => rfl
      | statement s =>
        have other : s.module.val ≠ e.kit := fun named => any ⟨s, inside, named⟩
        rw [SourceLine.expanded, if_neg other, SourceLine.text]
    rw [expandedSource, same]
    refine expand_of_idle (newline_not_mem plain) (ImportStatement.idle_join fun t member => ?_) map
    obtain ⟨line, inside, rfl⟩ := List.mem_map.1 member
    exact line.idle_text plain fun s same named => any ⟨s, same ▸ inside, named⟩

def PlainPaths (map : ComponentMap) : Prop := ∀ entry ∈ map.entries, QuoteFree entry.2

theorem PlainPaths.quoteFree {map : ComponentMap} (paths : PlainPaths map) (name : Text) :
    QuoteFree (dropDotSlash ((map.get? name).getD [])) := by
  cases found : map.get? name with
  | none => exact fun _ member => absurd member (by simp [dropDotSlash])
  | some path =>
    intro c member
    obtain ⟨⟨n, same⟩, -⟩ := dropDotSlash_eq path
    refine paths (name, path) (Entries.mem_of_get? found) c ?_
    rw [same]
    exact List.mem_append_right _ member

-- What is imported lies below the kit, so it is not from the kit.
theorem idle_importText {kit : Text} {map : ComponentMap}
    (plain : ∀ c ∈ kit, isSpecifierChar c = true) (paths : PlainPaths map) {name : ImportedName}
    (binding : QuoteFree name.binding) {b : Text} (behind : QuoteFree b) :
    Idle kit (importText kit map name ++ b) := by
  have named := quoteFree_of_specifier plain
  have front : QuoteFree ("import ".toList ++ name.binding ++ " from ".toList) := by
    have words : QuoteFree "import ".toList ∧ QuoteFree " from ".toList :=
      ⟨Text.forall_of_all (by decide), Text.forall_of_all (by decide)⟩
    exact quoteFree_append.2 ⟨quoteFree_append.2 ⟨words.1, binding⟩, words.2⟩
  have below : QuoteFree (kit ++ '/' :: dropDotSlash ((map.get? name.exported).getD [])) :=
    quoteFree_append.2 ⟨named, quoteFree_cons.2 ⟨rfl, paths.quoteFree name.exported⟩⟩
  have spelled : importText kit map name ++ b =
      ("import ".toList ++ name.binding ++ " from ".toList) ++
        '\'' :: (kit ++ '/' :: dropDotSlash ((map.get? name.exported).getD [])) ++ '\'' :: b := by
    have word : " from '".toList = " from ".toList ++ ['\''] := by decide
    unfold importText
    generalize "import ".toList = import_
    generalize " from ".toList = from_ at word ⊢
    generalize " from '".toList = quoted at word ⊢
    simp [word]
  have other : kit ≠ kit ++ '/' :: dropDotSlash ((map.get? name.exported).getD []) := fun same =>
    absurd (congrArg List.length same) (by simp)
  rw [spelled]
  exact ImportStatement.idle_of_quoted rfl rfl named front below behind other

theorem idle_imports {kit : Text} {map : ComponentMap}
    (plain : ∀ c ∈ kit, isSpecifierChar c = true) (paths : PlainPaths map)
    {names : List ImportedName} (bindings : ∀ name ∈ names, QuoteFree name.binding) {b : Text}
    (behind : QuoteFree b) : Idle kit (Text.join ['\n'] (imports kit map names) ++ b) := by
  have lines : ∀ t ∈ imports kit map names, ∀ {u : Text}, QuoteFree u → Idle kit (t ++ u) := by
    intro t member u free
    obtain ⟨name, inside, rfl⟩ := List.mem_map.1 member
    exact idle_importText plain paths (bindings name (List.mem_of_mem_filter inside)) free
  generalize imports kit map names = ts at lines
  induction ts with
  | nil => exact ImportStatement.idle_of_quoteFree behind
  | cons t ts ih =>
    have later := ih fun u member => lines u (List.mem_cons_of_mem t member)
    cases ts with
    | nil => exact lines t (by simp) behind
    | cons u ts =>
      have first := lines t (by simp) (u := []) (by simp [QuoteFree])
      rw [List.append_nil] at first
      rw [Text.join_cons (by simp), List.append_assoc, List.append_assoc]
      exact ImportStatement.idle_append first later

theorem idle_expanded {kit : Text} {map : ComponentMap}
    (plain : ∀ c ∈ kit, isSpecifierChar c = true) (paths : PlainPaths map) (line : SourceLine) :
    Idle kit (line.expanded kit map) := by
  cases line with
  | other t => exact ImportStatement.idle_of_no_keyword t.property.1
  | statement s =>
    rw [SourceLine.expanded]
    split
    · exact idle_imports plain paths s.clause.quoteFree_of_mem_names s.ending_quoteFree
    · next other => exact s.idle_of_ne plain other

-- Statements for the kit are read as they are written and handed over in order, whatever is done
-- with them; the expansion puts their imports in their places and leaves its own result as it is.
theorem expand_source {e : Expansion} (compiled : ImportStatement.compiles (some e.kit) = true)
    (packaged : e.paths = .packaged) (plain : ∀ c ∈ e.kit, isSpecifierChar c = true)
    (lines : List SourceLine) (map : ComponentMap) :
    (∀ (m : Type → Type) [Monad m] [LawfulMonad m] (f : Text → ImportStatement → m Text),
      ImportStatement.replaceM (some e.kit) f (source lines) =
        Text.join ['\n'] <$> lines.mapM (SourceLine.visit e.kit f)) ∧
    ((∀ s, .statement s ∈ lines → s.module.val = e.kit → Mapped map s.clause.names) →
      e.expand map (source lines) = .ok (expandedSource e.kit map lines) ∧
      (PlainPaths map → ∀ again, e.expand again (expandedSource e.kit map lines) =
        .ok (expandedSource e.kit map lines))) := by
  refine ⟨fun m _ _ f => ImportStatement.replaceM_source compiled plain f lines,
    fun mapped => ⟨?_, ?_⟩⟩
  · exact expand_source_eq compiled packaged plain mapped
  · intro paths again
    refine expand_of_idle (newline_not_mem plain) ?_ again
    refine ImportStatement.idle_join fun t member => ?_
    obtain ⟨line, -, rfl⟩ := List.mem_map.1 member
    exact idle_expanded plain paths line

theorem expand_source_of_three :
    let e : Expansion := {
      kit := "vux".toList, kitPath := "vux".toList, paths := .packaged
      resource := "/p/App.vue".toList, rootEntry := "App.vue".toList
      overrideDir := none, sourceDir := "src".toList }
    let map : ComponentMap :=
      .ofList [("A".toList, "./a.vue".toList), ("B".toList, "components/b.vue".toList)]
    let none_ : Spacing := ⟨[], Text.forall_of_all rfl⟩
    let space : Spacing := ⟨[' '], Text.forall_of_all (by decide)⟩
    let gap : Gap := ⟨⟨['\t'], Text.forall_of_all (by decide)⟩, by decide⟩
    let a : Identifier := ⟨"A".toList, by decide, Text.forall_of_all (by decide)⟩
    let b : Identifier := ⟨"B".toList, by decide, Text.forall_of_all (by decide)⟩
    let c : Identifier := ⟨"C".toList, by decide, Text.forall_of_all (by decide)⟩
    let bound : Identifier := ⟨"$b".toList, by decide, Text.forall_of_all (by decide)⟩
    let kit : WrittenImport := {
      before := space, between := space, gap := space, quote := ⟨'\'', rfl⟩
      module := ⟨"vux".toList, by decide, Text.forall_of_all (by decide)⟩, semicolon := true
      clause := {
        entries := [⟨space, .plain a, none_⟩, ⟨space, .dropped c gap, none_⟩,
          ⟨none_, .aliased b gap gap bound, space⟩]
        trailing := some space } }
    let other : WrittenImport := {
      kit with
      module := ⟨"vuex".toList, by decide, Text.forall_of_all (by decide)⟩, clause := ⟨[], none⟩ }
    let lines : List SourceLine := [.other ⟨"// from 'vux'".toList, by decide⟩, .statement kit,
      .statement other]
    let result := Text.join ['\n'] ["// from 'vux'".toList, "import A from 'vux/a.vue'".toList,
      "import $b from 'vux/components/b.vue';".toList, "import \x7b\x7d from 'vuex';".toList]
    source lines = Text.join ['\n'] ["// from 'vux'".toList,
        "import \x7b A, C\tas,B\tas\t$b , \x7d from 'vux';".toList,
        "import \x7b\x7d from 'vuex';".toList] ∧
      ImportStatement.compiles (some e.kit) = true ∧ e.paths = .packaged ∧
      (∀ c ∈ e.kit, isSpecifierChar c = true) ∧ PlainPaths map ∧
      e.expand map (source lines) = .ok result ∧ ∀ again, e.expand again result = .ok result := by
  intro e map none_ space gap a b c bound kit other lines result
  have compiled : ImportStatement.compiles (some e.kit) = true :=
    ImportStatement.compiles_of_length_le (by decide)
  have plain : ∀ c ∈ e.kit, isSpecifierChar c = true := Text.forall_of_all (by decide)
  have paths : PlainPaths map := by
    refine List.forall_mem_cons.2 ⟨?_, List.forall_mem_cons.2 ⟨?_, by simp⟩⟩
    all_goals exact Text.forall_of_all (by decide)
  have mapped : ∀ s, .statement s ∈ lines → s.module.val = e.kit → Mapped map s.clause.names := by
    intro s member named
    have names : Mapped map kit.clause.names ∧ other.module.val ≠ e.kit := by
      unfold Mapped
      decide
    simp only [lines, List.mem_cons, SourceLine.statement.injEq, reduceCtorEq, List.not_mem_nil,
      false_or, or_false] at member
    rcases member with rfl | rfl
    · exact names.1
    · exact absurd named names.2
  have whole : expandedSource e.kit map lines = result := by decide
  obtain ⟨-, expanded⟩ := expand_source (e := e) compiled rfl plain lines map
  obtain ⟨first, again⟩ := expanded mapped
  rw [whole] at first again
  exact ⟨by decide, compiled, rfl, plain, paths, first, again paths⟩

end Expansion
end ComponentLoader
