import ComponentLoader.Proofs.Chain.Crossing

namespace ComponentLoader

namespace Request

def call (chain : Text) : Text := "require(".toList ++ '"' :: (chain ++ ['"', ')'])

theorem rewrite_call_alone (g : Text → Text) {chain : Text} (closed : '"' ∉ chain) :
    Request.rewrite g (call chain) = call (g chain) := by
  have found := rewrite_call g [] closed
  rwa [rewrite_nil] at found

theorem unescaped_call {chain : Text} (closed : '"' ∉ chain) (ends : chain.getLast? ≠ some '\\') :
    Injection.Unescaped (call chain) := by
  refine List.isChain_append.2 ⟨Injection.unescaped_of_not_mem (by decide),
    List.isChain_cons.2 ⟨by simp, List.isChain_append.2
      ⟨Injection.unescaped_of_not_mem closed, by simp, ?_⟩⟩, ?_⟩
  · rintro x last y - rfl
    exact absurd last ends
  · rintro x last y - rfl
    simp at last

theorem call_injective {a b : Text} (same : call a = call b) : a = b := by
  unfold call at same
  simpa using same

end Request

namespace Settings
open Injection

variable {s : Settings} {theme : ThemeVariables} {i : Injection}

def styleChain (s : Settings) : Text :=
  s.options.preprocessor ++ '?' :: (Block.style.marker ++ '!' :: reference .style)

theorem styleChain_plain (name : IsStyleName s.options.preprocessor) :
    '"' ∉ s.styleChain ∧ (∀ b : Block, b ≠ .style → ¬b.marker <:+: s.styleChain) ∧
      s.styleChain.getLast? ≠ some '\\' := by
  obtain ⟨apart, others⟩ := name
  have behind : '"' ∉ '?' :: (Block.style.marker ++ '!' :: reference .style) := by decide
  refine ⟨?_, fun b differs => ?_, ?_⟩
  · rw [styleChain, List.mem_append, not_or]
    exact ⟨apart '"' (by simp), behind⟩
  · have query : '?' ∉ b.marker := by cases b <;> decide
    rw [styleChain, Text.infix_append_cons query, not_or]
    refine ⟨others b differs, ?_⟩
    cases b with
    | script => decide
    | template => decide
    | style => exact absurd rfl differs
  · rw [styleChain, List.getLast?_append_of_ne_nil _ (by simp)]
    decide

theorem segments_styleChain (name : IsStyleName s.options.preprocessor) :
    (Chain.parse s.styleChain).segments =
      [s.options.preprocessor ++ '?' :: Block.style.marker, reference .style] := by
  have front : '!' ∉ s.options.preprocessor ++ '?' :: Block.style.marker := by
    have query : '!' ∉ '?' :: Block.style.marker := by decide
    rw [List.mem_append, not_or]
    exact ⟨name.1 '!' (by simp), query⟩
  have last := Text.splitOn_of_not_mem (reference_plain .style).2.1
  have parts : s.styleChain =
      (s.options.preprocessor ++ '?' :: Block.style.marker) ++ '!' :: reference .style := by
    simp [styleChain]
  rw [Chain.parse, parts, Text.splitOn_append_cons, Text.splitOn_of_not_mem front, last]
  rfl

theorem marker_styleSegment (name : Text) :
    Block.style.marker <:+: name ++ '?' :: Block.style.marker :=
  ⟨name ++ ['?'], [], by simp⟩

theorem stageName_append_query {name : Text} (plain : '?' ∉ name) (query : Text) :
    Segment.stageName (name ++ '?' :: query) = name := by
  have front : ∀ c ∈ name, decide (c ≠ '?') = true := by
    intro c member
    rw [decide_eq_true_eq]
    rintro rfl
    exact plain member
  rw [Segment.stageName, Text.takeWhile_append_cons front (by decide)]

theorem selector?_styleChain (name : IsStyleName s.options.preprocessor) :
    (Chain.parse s.styleChain).selector? .style = some 0 := by
  rw [Chain.selector?, segments_styleChain name, List.findIdx?_cons]
  exact if_pos (Text.contains_iff.2 (marker_styleSegment _))

theorem hasStage_styleChain (separate : s.Separate theme)
    (name : IsStyleName s.options.preprocessor) :
    (Chain.parse s.styleChain).hasStage s.options.styleStage = false := by
  have unmarked := (separate.stages s.options.styleStage (by simp [stages])).2 .style
  rw [Bool.eq_false_iff, Ne, Chain.hasStage, segments_styleChain name, List.contains_iff_mem]
  simp only [List.mem_cons, List.not_mem_nil, or_false]
  rintro (same | same)
  · refine unmarked ?_
    rw [same]
    exact marker_styleSegment _
  · refine unmarked ?_
    rw [same, marker_reference_iff]

theorem splitOn_extend_styleChain (separate : s.Separate theme)
    (name : IsStyleName s.options.preprocessor) (filled : theme.isEmpty = false) :
    Text.splitOn '!' ((s.styleInjection theme).extend s.styleChain) =
      [Chain.themed s.options.preprocessor theme s.options.styleStage,
        Chain.themedSegment theme (s.options.preprocessor ++ '?' :: Block.style.marker),
        reference .style] := by
  have member : s.styleInjection theme ∈ s.injections theme := by simp [injections]
  have found : (Chain.parse s.styleChain).selector? (s.styleInjection theme).block = some 0 :=
    selector?_styleChain name
  have absent : (s.styleInjection theme).stage ∉ (Chain.parse s.styleChain).segments :=
    mt List.contains_iff_mem.2 (Bool.eq_false_iff.1 (hasStage_styleChain separate name))
  have place := Nat.le_zero.1 ((s.styleInjection theme).index_le (c := Chain.parse s.styleChain)
    (Nat.zero_le _))
  have stage : s.options.preprocessor <:+:
      Segment.stageName (s.options.preprocessor ++ '?' :: Block.style.marker) := by
    rw [stageName_append_query (name.1 '?' (by simp))]
  have finished : ∀ c, (s.styleInjection theme).finish c =
      c.withTheme s.options.preprocessor theme := by
    intro c
    simp [Injection.finish, styleInjection, filled]
  rw [splitOn_extend (separate.whole member), extendChain_of_found found absent, place, finished,
    Chain.withTheme_segments, segments_styleChain name]
  exact congrArg (fun t => [_, t, reference .style]) (Chain.themed_of_stage stage)

theorem spares_of_fixed (separate : s.Separate theme) (member : i ∈ s.injections theme)
    (fixed : i.block ≠ .style → IsStyleName s.options.preprocessor →
      i.extend ((s.styleInjection theme).extend s.styleChain) =
        (s.styleInjection theme).extend s.styleChain) : s.Spares theme i := by
  intro plain spells name
  have style : s.styleInjection theme ∈ s.injections theme := by simp [injections]
  have unmarked := fun entry listed => (separate.markless style).theme theme rfl i.block entry listed
  have spelled : ∀ t : Segment, i.block.marker <:+: Chain.themedSegment theme t := by
    intro t
    rw [Chain.marker_themedSegment_iff unmarked]
    exact .inr spells
  have filled : theme.isEmpty = false := by
    obtain ⟨entry, listed, -⟩ := spells
    rw [OrderedMap.isEmpty, List.isEmpty_eq_false_iff]
    exact List.ne_nil_of_mem listed
  have parts := splitOn_extend_styleChain separate name filled
  have found : ∃ selector, (Chain.parse ((s.styleInjection theme).extend s.styleChain)).selector?
      i.block = some selector := by
    rw [← Option.isSome_iff_exists, Chain.selector?, List.findIdx?_isSome, Chain.parse, parts,
      List.any_eq_true]
    exact ⟨_, List.mem_cons_of_mem _ List.mem_cons_self, Text.contains_iff.2 (spelled _)⟩
  obtain ⟨selector, found⟩ := found
  have present := stage_mem_extend (separate.closed member).stage.separator
    (fun style => absurd style plain) found
  have markless := (separate.markless member).stage
  rw [fixed plain name, parts] at present
  simp only [List.mem_cons, List.not_mem_nil, or_false] at present
  rcases present with stage | query | asked
  · by_cases handed : s.options.preprocessor <:+: Segment.stageName s.options.styleStage
    · rw [Chain.themed_of_stage handed] at stage
      exact absurd (stage ▸ spelled _) (markless i.block)
    · rw [Chain.themed_of_not handed] at stage
      exact ⟨stage, stage ▸ handed⟩
  · exact absurd (query ▸ spelled _) (markless i.block)
  · refine absurd ?_ (markless .style)
    rw [asked, marker_reference_iff]

theorem styleCall_plain (separate : s.Separate theme) (name : IsStyleName s.options.preprocessor) :
    Unmarked (Request.call s.styleChain) ∧ Unescaped (Request.call s.styleChain) := by
  obtain ⟨closed, -, ends⟩ := styleChain_plain name
  have quote : '"' ∉ mark := by decide
  have query : '?' ∉ mark := by decide
  have chain : Unmarked s.styleChain :=
    (unmarked_append_cons query).2 ⟨separate.unmarked, unmarked_of_not_mem (by decide)⟩
  refine ⟨(unmarked_append_cons quote).2 ⟨unmarked_of_not_mem (by decide), ?_⟩,
    Request.unescaped_call closed ends⟩
  exact (unmarked_append_cons quote).2 ⟨chain, unmarked_of_not_mem (by decide)⟩

theorem singleBlock_of_styleCall (separate : s.Separate theme)
    (name : IsStyleName s.options.preprocessor) {chain : Text}
    (member : chain ∈ chains (Request.call s.styleChain)) : SingleBlock chain := by
  obtain ⟨unmarked, unescaped⟩ := styleCall_plain separate name
  obtain ⟨-, others, -⟩ := styleChain_plain name
  obtain ⟨r, found, rfl⟩ := List.mem_map.1 member
  rw [hideQuotes_eq_self unmarked unescaped] at found
  obtain ⟨part, closed⟩ := Request.mem_items found
  rcases (Text.infix_append_cons closed).1 part with opening | behind
  · exact (singleBlock_of_none (by decide)).of_part opening
  · rcases (Text.infix_append_cons closed).1 behind with inside | ending
    · exact (singleBlock_of_only others).of_part inside
    · exact (singleBlock_of_none (by decide)).of_part ending

theorem inject_styleCall (separate : s.Separate theme) (member : i ∈ s.injections theme)
    (name : IsStyleName s.options.preprocessor) (differs : i.block ≠ .style) :
    i.inject (Request.call s.styleChain) = Request.call s.styleChain := by
  obtain ⟨unmarked, unescaped⟩ := styleCall_plain separate name
  obtain ⟨closed, others, -⟩ := styleChain_plain name
  obtain ⟨same, -⟩ := inject_eq (separate.closed member) unescaped
    (Request.rewrite_call_alone i.extend closed)
  rwa [extend_of_other (others _ differs), showQuotes_eq_self unmarked] at same

-- If its pass changes places with that for styles, an injection spares what is handed the theme.
theorem spares_of_comm (separate : s.Separate theme) (member : i ∈ s.injections theme)
    (commute : IsStyleName s.options.preprocessor → i.block ≠ .style →
      i.inject ((s.styleInjection theme).inject (Request.call s.styleChain)) =
        (s.styleInjection theme).inject (i.inject (Request.call s.styleChain))) :
    s.Spares theme i := by
  refine spares_of_fixed separate member fun differs name => ?_
  have style : s.styleInjection theme ∈ s.injections theme := by simp [injections]
  obtain ⟨unmarked, unescaped⟩ := styleCall_plain separate name
  obtain ⟨closed, -⟩ := styleChain_plain name
  have same := commute name differs
  obtain ⟨first, unescaped₁⟩ := inject_eq (separate.closed style) unescaped
    (Request.rewrite_call_alone _ closed)
  have closed₁ := not_mem_extend (separate.closed style) closed
  obtain ⟨second, unescaped₂⟩ := inject_eq (separate.closed member) unescaped₁
    (Request.rewrite_call_alone _ closed₁)
  rw [showQuotes_eq_self unmarked] at first
  rw [inject_styleCall separate member name differs, first, second] at same
  exact Request.call_injective (showQuotes_injective unescaped₂ unescaped₁ same)

-- On all sources whose chains are for one block at most, the order of the passes does not matter
-- exactly when no stage begins with a parenthesis and no injection is given a marker by the theme.
theorem injectAll_perm_iff (separate : s.Separate theme) :
    (∀ source, Unmarked source → (∀ chain ∈ chains source, SingleBlock chain) →
      ∀ order : List Injection, order.Perm (s.injections theme) →
        injectAll order source = injectAll (s.injections theme) source) ↔
      ∀ i ∈ s.injections theme, i.stage.head? ≠ some ')' ∧ s.Spares theme i := by
  constructor
  · intro commute i member
    constructor
    · intro front
      obtain ⟨j, other, plain, differs⟩ : ∃ j ∈ s.injections theme, j.block ≠ .style ∧
          i.block ≠ j.block := by
        by_cases script : i.block = .script
        · exact ⟨s.templateInjection, by simp [injections], by simp [templateInjection],
            by simp [script, templateInjection]⟩
        · exact ⟨s.scriptInjection, by simp [injections], by simp [scriptInjection], script⟩
      obtain ⟨unmarked, -, absent⟩ := crossing_plain i.block j.block
      refine inject_crossing_ne separate member other differs plain front ?_
      refine inject_comm_of_perm member other differs (fun k _ apart apart' => ?_)
        (commute _ unmarked fun chain => singleBlock_of_crossing)
      refine inject_of_not_mayApply ?_
      rw [mayApply, Bool.eq_false_iff, Ne, Text.contains_iff]
      exact absent k.block apart apart'
    · refine spares_of_comm separate member fun name differs => ?_
      have style : s.styleInjection theme ∈ s.injections theme := by simp [injections]
      refine inject_comm_of_perm style member differs.symm (fun k third apart _ => ?_)
        (commute _ (styleCall_plain separate name).1 fun chain =>
          singleBlock_of_styleCall separate name)
      exact inject_styleCall separate third name apart
  · intro spared source unmarked single order perm
    exact injectAll_of_perm separate (fun i member => (spared i member).1)
      (fun i member => (spared i member).2) perm unmarked single

-- The loader's own order of the passes is as good as any other for exactly the same stages and
-- themes.
theorem loadComponent_perm_iff {files : FileTree} (separate : s.Separate (s.readTheme files).1) :
    (∀ source, Unmarked source → (∀ chain ∈ chains source, SingleBlock chain) →
      ∀ order : List Injection, order.Perm (s.injections (s.readTheme files).1) →
        injectAll order source = (s.loadComponent files source).1) ↔
      ∀ i ∈ s.injections (s.readTheme files).1,
        i.stage.head? ≠ some ')' ∧ s.Spares (s.readTheme files).1 i := by
  simp only [loadComponent_eq]
  exact injectAll_perm_iff separate

theorem separate_of_default (default : s.options = {})
    (entries : ∀ entry ∈ theme.entries, ∀ t ∈ [entry.1, entry.2],
      '!' ∉ t ∧ ∀ b : Block, ¬b.marker <:+: t) : s.Separate theme := by
  have plain : ∀ stage ∈ s.stages, ('!' ∉ stage ∧ '"' ∉ stage ∧ '\\' ∉ stage) ∧
      ∀ b : Block, ¬b.marker <:+: stage := by
    rw [stages, default]
    decide
  refine ⟨fun stage member => ?_, entries, ?_, ?_⟩
  · obtain ⟨⟨separator, quote, backslash⟩, unmarked⟩ := plain stage member
    exact ⟨⟨separator, quote, backslash⟩, unmarked⟩
  · rw [default]
    decide
  · rw [default]
    exact unmarked_of_not_mem (by decide)

theorem loadComponent_perm_iff_less_theme :
    let start := FileTree.ofDirectory []
    let files := (start.writeText "theme.less".toList (some "@brand: red;".toList)
      none).toOption.getD start
    let s : Settings := {
      options := {}
      plugins := [{
        name := "less-theme".toList
        plugin := .lessTheme "theme.less".toList .empty }] }
    s.Separate (s.readTheme files).1 ∧
      ((∀ source, Unmarked source → (∀ chain ∈ chains source, SingleBlock chain) →
        ∀ order : List Injection, order.Perm (s.injections (s.readTheme files).1) →
          injectAll order source = (s.loadComponent files source).1) ↔
        ∀ i ∈ s.injections (s.readTheme files).1,
          i.stage.head? ≠ some ')' ∧ s.Spares (s.readTheme files).1 i) := by
  intro start files s
  have separate : s.Separate (s.readTheme files).1 := separate_of_default rfl (by decide)
  exact ⟨separate, loadComponent_perm_iff separate⟩

-- A tab in the theme makes a request for a template of one for a style, unless the templates are
-- seen to first.
theorem tab_taken_for_template :
    let start := FileTree.ofDirectory []
    let files := (start.writeText "theme.less".toList (some "@x: a\type=template;".toList)
      none).toOption.getD start
    let s : Settings := {
      options := {}
      plugins := [{
        name := "less-theme".toList
        plugin := .lessTheme "theme.less".toList .empty }] }
    let theme := (s.readTheme files).1
    let source := "require(\"less-loader!a?type=style\")".toList
    let order := [s.scriptInjection, s.templateInjection, s.styleInjection theme]
    s.Separate theme ∧ Unmarked source ∧ (∀ chain ∈ chains source, SingleBlock chain) ∧
      order.Perm (s.injections theme) ∧ injectAll order source ≠ (s.loadComponent files source).1 := by
  intro start files s theme source order
  have separate : s.Separate theme := separate_of_default rfl (by decide)
  have found : chains source = ["less-loader!a?type=style".toList] := by decide +kernel
  refine ⟨separate, unmarked_of_not_mem (by decide), ?_, (List.Perm.swap ..).cons _,
    by decide +kernel⟩
  rw [found, List.forall_mem_singleton]
  exact singleBlock_of_only (b := .style) (by decide)

example :
    let s : Settings := { options := { scriptStage := ")x".toList }, plugins := [] }
    let source := crossing .script .template
    injectAll [s.templateInjection, s.scriptInjection] source ≠
      injectAll [s.scriptInjection, s.templateInjection] source := by
  decide +kernel

end Settings
end ComponentLoader
