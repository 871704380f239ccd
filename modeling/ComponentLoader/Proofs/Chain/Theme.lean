import ComponentLoader.Proofs.Chain.Repetition
import ComponentLoader.Proofs.Chain.ThemeQuery

namespace ComponentLoader
namespace Segment

def query? (s : Segment) : Option Json :=
  Json.parse? ((s.dropWhile (· ≠ '?')).tail.map Json.requote)

end Segment

namespace Chain

theorem name_ne_mark (s : Segment) : ∀ c ∈ s.stageName, decide (c ≠ '?') = true :=
  fun _ member => List.mem_takeWhile_imp (p := fun c => decide (c ≠ '?')) member

theorem stageName_themedSegment (theme : ThemeVariables) (s : Segment) :
    (themedSegment theme s).stageName = s.stageName :=
  Text.takeWhile_append_cons (name_ne_mark s) (by decide)

theorem query?_themedSegment (theme : ThemeVariables) (s : Segment) :
    (themedSegment theme s).query? =
      Json.parse? ((themeQuery theme (Text.contains "sourceMap".toList s)).render.map
        Json.requote) := by
  have behind : ((themedSegment theme s).dropWhile (· ≠ '?')).tail =
      (themeQuery theme (Text.contains "sourceMap".toList s)).render.map fun c =>
        if c = '"' then '\'' else c := by
    rw [themedSegment, Text.dropWhile_append_cons (name_ne_mark s) (by decide)]
    rfl
  rw [Segment.query?, behind, List.map_map]
  congr 1
  refine List.map_congr_left fun c _ => ?_
  by_cases double : c = '"'
  · rw [double]
    rfl
  · simp [double]

theorem exists_carries_iff {theme : ThemeVariables} {s : Segment} {on : Prop} :
    (∃ query, (themedSegment theme s).query? = some query ∧ query.Carries theme on) ↔
      (∀ entry ∈ theme.entries, '\'' ∉ entry.1 ∧ '\'' ∉ entry.2) ∧
        (on ↔ "sourceMap".toList <:+: s) := by
  rw [query?_themedSegment, Json.carries_requoted_iff, Text.contains_iff]

theorem mem_themedSegment_iff {theme : ThemeVariables} {s : Segment} (whole : '!' ∉ s) :
    '!' ∈ themedSegment theme s ↔ ∃ entry ∈ theme.entries, '!' ∈ entry.1 ∨ '!' ∈ entry.2 := by
  have name : '!' ∉ s.stageName := fun member => whole ((List.takeWhile_prefix _).subset member)
  have quotes : ∀ t : Text, '!' ∈ t.map (fun c => if c = '"' then '\'' else c) ↔ '!' ∈ t := by
    intro t
    induction t with
    | nil => simp
    | cons c t ih =>
      rw [List.map_cons, List.mem_cons, List.mem_cons, ih]
      by_cases double : c = '"'
      · simp [double]
      · simp [double]
  rw [themedSegment, List.mem_append, List.mem_cons, quotes, Json.mem_themeQuery_iff (.inl rfl)]
  simp [name]

def themed (preprocessor : Text) (theme : ThemeVariables) (s : Segment) : Segment :=
  if isStageOf preprocessor s then themedSegment theme s else s

theorem withTheme_segments (c : Chain) (preprocessor : Text) (theme : ThemeVariables) :
    (c.withTheme preprocessor theme).segments =
      c.segments.dropLast.map (themed preprocessor theme) ++ c.segments.getLast?.toList := rfl

theorem isStageOf_iff {preprocessor : Text} {s : Segment} :
    isStageOf preprocessor s = true ↔ preprocessor <:+: s.stageName := Text.contains_iff

theorem themed_of_not {preprocessor : Text} {theme : ThemeVariables} {s : Segment}
    (other : ¬preprocessor <:+: s.stageName) : themed preprocessor theme s = s := by
  rw [themed, if_neg]
  rwa [isStageOf_iff]

theorem themed_of_stage {preprocessor : Text} {theme : ThemeVariables} {s : Segment}
    (stage : preprocessor <:+: s.stageName) :
    themed preprocessor theme s = themedSegment theme s := by
  rw [themed, if_pos]
  rwa [isStageOf_iff]

theorem stageName_themed (preprocessor : Text) (theme : ThemeVariables) (s : Segment) :
    (themed preprocessor theme s).stageName = s.stageName := by
  unfold themed
  split
  · exact stageName_themedSegment theme s
  · rfl

theorem withTheme_insert {preprocessor : Text} (theme : ThemeVariables) {stage : Text}
    (spared : ¬preprocessor <:+: Segment.stageName stage) (a : List Segment) {b : List Segment}
    (behind : b ≠ []) : ∃ l r, (withTheme ⟨a ++ b⟩ preprocessor theme).segments = l ++ r ∧
      (withTheme ⟨a ++ stage :: b⟩ preprocessor theme).segments = l ++ stage :: r := by
  refine ⟨a.map (themed preprocessor theme),
    b.dropLast.map (themed preprocessor theme) ++ b.getLast?.toList, ?_, ?_⟩
  · rw [withTheme_segments, List.dropLast_append_of_ne_nil behind,
      List.getLast?_append_of_ne_nil _ behind, List.map_append, List.append_assoc]
  · rw [withTheme_segments, List.dropLast_append_of_ne_nil (by simp),
      List.getLast?_append_of_ne_nil _ (by simp), List.dropLast_cons_of_ne_nil behind,
      List.getLast?_cons_of_ne_nil behind, List.map_append, List.map_cons, themed_of_not spared,
      List.append_assoc, List.cons_append]

theorem dropLast_withTheme (c : Chain) (preprocessor : Text) (theme : ThemeVariables) :
    (c.withTheme preprocessor theme).segments.dropLast =
      c.segments.dropLast.map (themed preprocessor theme) := by
  rw [withTheme_segments]
  rcases List.eq_nil_or_concat c.segments with none_ | ⟨init, last, same⟩
  · simp [none_]
  · simp [same]

theorem getElem?_of_dropLast {segments : List Segment} {k : Nat} {s : Segment}
    (place : segments.dropLast[k]? = some s) : segments[k]? = some s := by
  rw [List.getElem?_dropLast] at place
  split at place
  · exact place
  · cases place

def EachStage (preprocessor : Text) (segments : List Segment) (p : Segment → Prop) : Prop :=
  ∀ s ∈ segments.dropLast, preprocessor <:+: s.stageName → p s

theorem whole_withTheme_iff {segments : List Segment} (whole : ∀ s ∈ segments, '!' ∉ s)
    (preprocessor : Text) (theme : ThemeVariables) :
    (∀ t ∈ (withTheme ⟨segments⟩ preprocessor theme).segments, '!' ∉ t) ↔
      EachStage preprocessor segments fun _ =>
        ∀ entry ∈ theme.entries, '!' ∉ entry.1 ∧ '!' ∉ entry.2 := by
  have early : ∀ s ∈ segments.dropLast, '!' ∉ s := fun s member =>
    whole s (List.mem_of_mem_dropLast member)
  rw [withTheme_segments]
  constructor
  · intro absent s member stage entry here
    have clean := absent (themed preprocessor theme s)
      (List.mem_append_left _ (List.mem_map_of_mem member))
    rw [themed_of_stage stage, mem_themedSegment_iff (early s member)] at clean
    exact ⟨fun name => clean ⟨entry, here, .inl name⟩, fun value => clean ⟨entry, here, .inr value⟩⟩
  · intro clean t member
    rcases List.mem_append.1 member with early_ | last
    · obtain ⟨s, here, rfl⟩ := List.mem_map.1 early_
      by_cases stage : preprocessor <:+: s.stageName
      · rw [themed_of_stage stage, mem_themedSegment_iff (early s here)]
        rintro ⟨entry, listed, name | value⟩
        · exact (clean s here stage entry listed).1 name
        · exact (clean s here stage entry listed).2 value
      · rw [themed_of_not stage]
        exact early s here
    · exact whole t (List.mem_of_getLast? (Option.mem_toList.1 last))

theorem not_mem_withTheme {segments : List Segment} {preprocessor stage : Text}
    (theme : ThemeVariables) (absent : stage ∉ segments)
    (spared : ¬preprocessor <:+: Segment.stageName stage) :
    stage ∉ (withTheme ⟨segments⟩ preprocessor theme).segments := by
  rw [withTheme_segments]
  intro member
  rcases List.mem_append.1 member with early | last
  · obtain ⟨s, here, same⟩ := List.mem_map.1 early
    have name := stageName_themed preprocessor theme s
    rw [same] at name
    rw [name] at spared
    rw [themed_of_not spared] at same
    exact absent (same ▸ List.mem_of_mem_dropLast here)
  · exact absent (List.mem_of_getLast? (Option.mem_toList.1 last))

end Chain

namespace Injection

-- The chain gets the stage and nothing more, and every stage of the preprocessor before the last
-- segment is handed the whole theme, with source maps where its segment had them. `on` tells which
-- segments switch source maps on; segments are compared with the stage left out.
structure HandsTheme (i : Injection) (theme : ThemeVariables) (on : Segment → Prop)
    (chain : Text) : Prop where
  count : (Text.splitOn '!' (i.extend chain)).length = (Text.splitOn '!' chain).length + 1
  queries : ∀ (k : Nat) (s : Segment),
    ((Text.splitOn '!' (i.extend chain)).erase i.stage).dropLast[k]? = some s →
    i.preprocessor <:+: s.stageName →
    ∃ (original : Segment) (query : Json), (Text.splitOn '!' chain)[k]? = some original ∧
      s.query? = some query ∧ query.Carries theme (on original)

section

variable {i : Injection} {theme : ThemeVariables} {chain : Text}
variable (style : i.block = .style) (given : i.theme = some theme) (filled : theme.isEmpty = false)
  (spared : ¬i.preprocessor <:+: Segment.stageName i.stage)
  (marked : ∃ s ∈ Text.splitOn '!' chain, Block.style.marker <:+: s)
  (absent : i.stage ∉ Text.splitOn '!' chain)

include style given filled spared marked absent

theorem extend_style :
    ∃ l r, ((Chain.parse chain).withTheme i.preprocessor theme).segments = l ++ r ∧
      i.extend chain = (Chain.mk (l ++ i.stage :: r)).render := by
  obtain ⟨selector, found⟩ : ∃ selector, (Chain.parse chain).selector? i.block = some selector := by
    obtain ⟨s, member, mark⟩ := marked
    rw [← Option.isSome_iff_exists, Chain.selector?, List.findIdx?_isSome, List.any_eq_true, style]
    exact ⟨s, member, Text.contains_iff.2 mark⟩
  have bound := selector_lt found
  have near := i.index_le (Nat.le_of_lt bound)
  have finish : ∀ c, i.finish c = c.withTheme i.preprocessor theme := by
    intro c
    simp [Injection.finish, style, given, filled]
  have behind : (Chain.parse chain).segments.drop (i.index (Chain.parse chain) selector) ≠ [] := by
    rw [Ne, List.drop_eq_nil_iff]
    omega
  obtain ⟨l, r, before, after⟩ := Chain.withTheme_insert theme spared
    ((Chain.parse chain).segments.take (i.index (Chain.parse chain) selector)) behind
  refine ⟨l, r, by rw [← before, List.take_append_drop], ?_⟩
  rw [extend_eq, extendChain_of_found found absent, finish, ← after]

theorem splitOn_extend_style :
    ∃ l r, ((Chain.parse chain).withTheme i.preprocessor theme).segments = l ++ r ∧
      i.stage ∉ l ∧
      Text.splitOn '!' (i.extend chain) = (l ++ i.stage :: r).flatMap (Text.splitOn '!') := by
  obtain ⟨l, r, segments, extended⟩ := extend_style style given filled spared marked absent
  have other : i.stage ∉ ((Chain.parse chain).withTheme i.preprocessor theme).segments :=
    Chain.not_mem_withTheme theme absent spared
  rw [segments] at other
  refine ⟨l, r, segments, fun member => other (List.mem_append_left _ member), ?_⟩
  rw [extended]
  exact Text.splitOn_join '!' (by simp)

variable (single : '!' ∉ i.stage)

include single

theorem length_extend_style_iff :
    (Text.splitOn '!' (i.extend chain)).length = (Text.splitOn '!' chain).length + 1 ↔
      Chain.EachStage i.preprocessor (Text.splitOn '!' chain) fun _ =>
        ∀ entry ∈ theme.entries, '!' ∉ entry.1 ∧ '!' ∉ entry.2 := by
  obtain ⟨l, r, segments, -, parts⟩ :=
    splitOn_extend_style style given filled spared marked absent
  have length : (l ++ r).length = (Text.splitOn '!' chain).length := by
    rw [← segments]
    exact Chain.length_withTheme ..
  rw [parts, ← length, Text.length_flatMap_splitOn_insert_iff single, ← segments]
  exact Chain.whole_withTheme_iff (fun _ => Text.not_mem_of_mem_splitOn) ..

theorem dropLast_extend_style
    (clean : Chain.EachStage i.preprocessor (Text.splitOn '!' chain) fun _ =>
      ∀ entry ∈ theme.entries, '!' ∉ entry.1 ∧ '!' ∉ entry.2) :
    ((Text.splitOn '!' (i.extend chain)).erase i.stage).dropLast =
      (Text.splitOn '!' chain).dropLast.map (Chain.themed i.preprocessor theme) := by
  obtain ⟨l, r, segments, fresh, parts⟩ :=
    splitOn_extend_style style given filled spared marked absent
  have whole : ∀ t ∈ l ++ r, '!' ∉ t := by
    rw [← segments]
    exact (Chain.whole_withTheme_iff (fun _ => Text.not_mem_of_mem_splitOn) ..).2 clean
  rw [parts, Text.flatMap_splitOn_of_not_mem ((Text.forall_mem_insert_iff single).2 whole),
    List.erase_append_right _ fresh, List.erase_cons_head, ← segments]
  exact Chain.dropLast_withTheme ..

end

-- The theme reaches the preprocessor intact exactly when neither the separator of stages nor the
-- quote of the query occurs in it, and the text `sourceMap` stands in just those segments that
-- switch source maps on.
theorem handsTheme_iff {i : Injection} {theme : ThemeVariables} (style : i.block = .style)
    (given : i.theme = some theme) (filled : theme.isEmpty = false) (single : '!' ∉ i.stage)
    (spared : ¬i.preprocessor <:+: Segment.stageName i.stage) {chain : Text}
    (marked : ∃ s ∈ Text.splitOn '!' chain, Block.style.marker <:+: s)
    (absent : i.stage ∉ Text.splitOn '!' chain) (on : Segment → Prop) :
    i.HandsTheme theme on chain ↔
      Chain.EachStage i.preprocessor (Text.splitOn '!' chain) fun s =>
        (∀ entry ∈ theme.entries, ∀ c ∈ ['!', '\''], c ∉ entry.1 ∧ c ∉ entry.2) ∧
          (on s ↔ "sourceMap".toList <:+: s) := by
  have count_iff := length_extend_style_iff style given filled spared marked absent single
  have kept := dropLast_extend_style style given filled spared marked absent single
  -- Either side gives a theme without separators, and then no segment is cut.
  constructor
  · intro hands
    have clean := count_iff.1 hands.count
    intro s member stage
    obtain ⟨k, place⟩ := List.mem_iff_getElem?.1 member
    have themed := congrArg (·[k]?) (kept clean)
    simp only [List.getElem?_map, place, Option.map_some, Chain.themed_of_stage stage] at themed
    obtain ⟨original, query, here, read, carries⟩ := hands.queries k _ themed
      (by rwa [Chain.stageName_themedSegment])
    rw [Chain.getElem?_of_dropLast place] at here
    cases here
    obtain ⟨quotes, switched⟩ := Chain.exists_carries_iff.1 ⟨query, read, carries⟩
    refine ⟨fun entry listed c mark => ?_, switched⟩
    simp only [List.mem_cons, List.not_mem_nil, or_false] at mark
    rcases mark with rfl | rfl
    · exact clean s member stage entry listed
    · exact quotes entry listed
  · intro each
    have clean : Chain.EachStage i.preprocessor (Text.splitOn '!' chain) fun _ =>
        ∀ entry ∈ theme.entries, '!' ∉ entry.1 ∧ '!' ∉ entry.2 :=
      fun s member stage entry listed => (each s member stage).1 entry listed '!' (by simp)
    refine ⟨count_iff.2 clean, fun k s place stage => ?_⟩
    rw [kept clean, List.getElem?_map] at place
    obtain ⟨original, here, rfl⟩ := Option.map_eq_some_iff.1 place
    rw [Chain.stageName_themed] at stage
    obtain ⟨plain, switched⟩ := each original (List.mem_of_getElem? here) stage
    obtain ⟨query, read, carries⟩ := Chain.exists_carries_iff.2
      ⟨fun entry listed => plain entry listed '\'' (by simp), switched⟩
    refine ⟨original, query, Chain.getElem?_of_dropLast here, ?_, carries⟩
    rwa [Chain.themed_of_stage stage]

theorem handsTheme_iff_quoted_values :
    let theme : ThemeVariables :=
      .ofList [("font".toList, "\"A\\B\", C".toList), ("size".toList, "2px\t?".toList)]
    let i : Injection := { block := .style, stage := "AFTER".toList, theme := some theme }
    let chain := "!!css-loader!less-loader?sourceMap!less-loader!./a.vue?type=style".toList
    let on : Segment → Prop := (· = "less-loader?sourceMap".toList)
    (i.block = .style ∧ i.theme = some theme ∧ theme.isEmpty = false ∧ '!' ∉ i.stage ∧
      ¬i.preprocessor <:+: Segment.stageName i.stage ∧
      (∃ s ∈ Text.splitOn '!' chain, Block.style.marker <:+: s) ∧
      i.stage ∉ Text.splitOn '!' chain) ∧ i.HandsTheme theme on chain := by
  intro theme i chain on
  have single : '!' ∉ i.stage := by decide
  have spared : ¬i.preprocessor <:+: Segment.stageName i.stage := by decide
  have marked : ∃ s ∈ Text.splitOn '!' chain, Block.style.marker <:+: s := by decide
  have absent : i.stage ∉ Text.splitOn '!' chain := by decide
  have each : Chain.EachStage i.preprocessor (Text.splitOn '!' chain) fun s =>
      (∀ entry ∈ theme.entries, ∀ c ∈ ['!', '\''], c ∉ entry.1 ∧ c ∉ entry.2) ∧
        (on s ↔ "sourceMap".toList <:+: s) := by
    have clean : ∀ entry ∈ theme.entries, ('!' ∉ entry.1 ∧ '!' ∉ entry.2) ∧
        '\'' ∉ entry.1 ∧ '\'' ∉ entry.2 := by decide
    have switched : ∀ s ∈ (Text.splitOn '!' chain).dropLast,
        on s ↔ Text.contains "sourceMap".toList s = true := by decide
    intro s member stage
    refine ⟨fun entry listed => ?_, by rw [switched s member, Text.contains_iff]⟩
    exact List.forall_mem_cons.2
      ⟨(clean entry listed).1, List.forall_mem_singleton.2 (clean entry listed).2⟩
  exact ⟨⟨rfl, rfl, rfl, single, spared, marked, absent⟩,
    (handsTheme_iff rfl rfl rfl single spared marked absent on).2 each⟩

theorem important_value_cut :
    let theme : ThemeVariables := .ofList [("color".toList, "red !important".toList)]
    let i : Injection := { block := .style, stage := "AFTER".toList, theme := some theme }
    let chain := "less-loader!./a.vue?type=style".toList
    theme.isEmpty = false ∧ '!' ∉ i.stage ∧ i.preprocessor ≠ [] ∧
      ¬i.preprocessor <:+: Segment.stageName i.stage ∧
      (∃ s ∈ Text.splitOn '!' chain, Block.style.marker <:+: s) ∧
      i.stage ∉ Text.splitOn '!' chain ∧
      Text.splitOn '!' (i.extend chain) = ["AFTER".toList,
        "less-loader?\x7b'modifyVars':\x7b'color':'red ".toList, "important'\x7d\x7d".toList,
        "./a.vue?type=style".toList] ∧
      ∀ on : Segment → Prop, ¬i.HandsTheme theme on chain := by
  intro theme i chain
  have parts : Text.splitOn '!' (i.extend chain) = ["AFTER".toList,
      "less-loader?\x7b'modifyVars':\x7b'color':'red ".toList, "important'\x7d\x7d".toList,
      "./a.vue?type=style".toList] := by decide +kernel
  refine ⟨rfl, by decide, by decide, by decide, by decide, by decide, parts, ?_⟩
  intro on hands
  have count := hands.count
  rw [parts] at count
  exact absurd count (by decide)

end Injection
end ComponentLoader
