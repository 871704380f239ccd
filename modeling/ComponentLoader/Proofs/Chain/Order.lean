import ComponentLoader.Loader
import ComponentLoader.Proofs.Chain.Passes

namespace ComponentLoader

def SingleBlock (chain : Text) : Prop :=
  ∀ a b : Block, a.marker <:+: chain → b.marker <:+: chain → a = b

theorem SingleBlock.of_part {s t : Text} (part : s <:+: t) (single : SingleBlock t) :
    SingleBlock s :=
  fun a b left right => single a b (left.trans part) (right.trans part)

theorem singleBlock_of_none {t : Text} (none_ : ∀ b : Block, ¬b.marker <:+: t) : SingleBlock t :=
  fun a _ found _ => absurd found (none_ a)

theorem singleBlock_of_only {t : Text} {b : Block} (others : ∀ c : Block, c ≠ b → ¬c.marker <:+: t) :
    SingleBlock t := by
  have only : ∀ c : Block, c.marker <:+: t → c = b := fun c found => by
    by_contra differs
    exact others c differs found
  exact fun c d left right => (only c left).trans (only d right).symm

def Injection.chains (source : Text) : List Text :=
  (Request.scanner.items (hideQuotes source)).map (·.chain)

namespace Settings
open Injection

def injections (s : Settings) (theme : ThemeVariables) : List Injection :=
  [s.scriptInjection, s.styleInjection theme, s.templateInjection]

def stages (s : Settings) : List Text :=
  [s.options.scriptStage, s.options.styleStage, s.options.templateStage,
    s.options.beforeTemplateStage]

theorem loadComponent_eq (files : FileTree) (s : Settings) (source : Text) :
    (s.loadComponent files source).1 =
      injectAll (s.injections (s.readTheme files).1) source := by
  have nothing : ∀ i : Injection, i.inject [] = [] := by
    intro i
    have may : i.mayApply [] = false := by
      rw [mayApply, Bool.eq_false_iff, Ne, Text.contains_iff, List.infix_nil]
      cases i.block <;> decide
    rw [inject, may]
    rfl
  unfold loadComponent
  split
  · next empty => simp [empty, injectAll, injections, nothing]
  · rfl

-- Each stage is one segment of a chain in one request, and no text that is put into a chain asks
-- for a block.
structure Separate (s : Settings) (theme : ThemeVariables) : Prop where
  stages : ∀ stage ∈ s.stages, Plain stage ∧ ∀ b : Block, ¬b.marker <:+: stage
  theme : ∀ entry ∈ theme.entries, ∀ t ∈ [entry.1, entry.2],
    '!' ∉ t ∧ ∀ b : Block, ¬b.marker <:+: t
  named : s.options.preprocessor ≠ []
  unmarked : Unmarked s.options.preprocessor

variable {s : Settings} {theme : ThemeVariables} {i : Injection}

theorem parts_of_mem (member : i ∈ s.injections theme) :
    i.preprocessor = s.options.preprocessor ∧ i.stage ∈ s.stages ∧
      (∀ post, i.postCompile = some post → post ∈ s.stages) ∧
      ∀ handed, i.theme = some handed → handed = theme ∧ i.block = .style ∧
        i.stage = s.options.styleStage := by
  simp only [injections, List.mem_cons, List.not_mem_nil, or_false] at member
  rcases member with rfl | rfl | rfl
  · simp [scriptInjection, stages]
  · simp [styleInjection, stages]
  · simp [templateInjection, stages]

theorem nodup_injections (s : Settings) (theme : ThemeVariables) :
    ((s.injections theme).map (·.block)).Nodup := by
  simp [injections, scriptInjection, styleInjection, templateInjection]

theorem Separate.closed (separate : s.Separate theme) (member : i ∈ s.injections theme) :
    i.Closed := by
  obtain ⟨-, stage, post, -⟩ := parts_of_mem member
  exact ⟨(separate.stages _ stage).1, fun t given => (separate.stages t (post t given)).1⟩

theorem Separate.markless (separate : s.Separate theme) (member : i ∈ s.injections theme) :
    i.Markless := by
  obtain ⟨-, stage, post, handed⟩ := parts_of_mem member
  refine ⟨(separate.stages _ stage).2, fun t given => (separate.stages t (post t given)).2, ?_⟩
  intro other given b entry listed
  obtain ⟨rfl, -⟩ := handed other given
  exact ⟨(separate.theme entry listed _ (by simp)).2 b, (separate.theme entry listed _ (by simp)).2 b⟩

theorem Separate.whole (separate : s.Separate theme) (member : i ∈ s.injections theme) :
    i.Whole := by
  obtain ⟨-, stage, post, handed⟩ := parts_of_mem member
  refine ⟨(separate.stages _ stage).1.separator,
    fun t given => (separate.stages t (post t given)).1.separator, ?_⟩
  intro other given entry listed
  obtain ⟨rfl, -⟩ := handed other given
  exact ⟨(separate.theme entry listed _ (by simp)).1, (separate.theme entry listed _ (by simp)).1⟩

theorem Separate.fits (separate : s.Separate theme) (member : i ∈ s.injections theme)
    (front : i.stage.head? ≠ some ')') : Request.Fits i.extend := by
  refine extend_fits (separate.closed member) (fun _ _ _ _ => ?_) front
  rw [(parts_of_mem member).1]
  exact separate.named

def IsStyleName (name : Text) : Prop :=
  (∀ c ∈ ['!', '?', '"'], c ∉ name) ∧ ∀ b : Block, b ≠ .style → ¬b.marker <:+: name

-- The injection does not take a chain for styles that has been handed the theme for one of its own:
-- nothing in the theme reads as its marker, or no stage is handed the theme, or the chain has its
-- stage already.
def Spares (s : Settings) (theme : ThemeVariables) (i : Injection) : Prop :=
  i.block ≠ .style → theme.Spells i.block → IsStyleName s.options.preprocessor →
    i.stage = s.options.styleStage ∧ ¬s.options.preprocessor <:+: Segment.stageName i.stage

theorem isStyleName_of_part {chain : Text} {t : Segment} (closed : '"' ∉ chain)
    (others : ∀ b : Block, b ≠ .style → ¬b.marker <:+: chain) (part : t ∈ Text.splitOn '!' chain)
    {name : Text} (named : name <:+: t.stageName) : IsStyleName name := by
  have inside : name <:+: t := named.trans (List.takeWhile_prefix _).isInfix
  have whole := inside.trans (Text.infix_of_mem_splitOn part)
  refine ⟨?_, fun b other found => others b other (found.trans whole)⟩
  simp only [List.forall_mem_cons]
  refine ⟨fun member => Text.not_mem_of_mem_splitOn part (inside.subset member), fun member => ?_,
    fun member => closed (whole.subset member), fun c none_ => absurd none_ List.not_mem_nil⟩
  exact absurd (Chain.name_ne_mark t '?' (named.subset member)) (by simp)

theorem isStyleName_of_stage {stage name : Text} (plain : Plain stage)
    (unmarked : ∀ b : Block, ¬b.marker <:+: stage) (named : name <:+: Segment.stageName stage) :
    IsStyleName name := by
  have whole : stage ∈ Text.splitOn '!' stage := by
    rw [Text.splitOn_of_not_mem plain.separator]
    exact List.mem_singleton_self stage
  exact isStyleName_of_part plain.quote (fun b _ => unmarked b) whole named

theorem extend_extend_of_spares (separate : s.Separate theme) (member : i ∈ s.injections theme)
    {j : Injection} (differs : j.block ≠ i.block) (spares : s.Spares theme j) {chain : Text}
    (closed : '"' ∉ chain) (others : ∀ b : Block, b ≠ i.block → ¬b.marker <:+: chain) :
    j.extend (i.extend chain) = i.extend chain := by
  cases found : (Chain.parse chain).selector? i.block with
  | none =>
    have same : i.extend chain = chain := by simp [extend, found]
    rw [same, extend_of_other (others _ differs)]
  | some selector =>
    by_cases marked : j.block.marker <:+: i.extend chain
    · obtain ⟨handed, given, spells, t, part, named⟩ :=
        spells_of_extend (separate.markless member) (others _ differs) marked
      obtain ⟨preprocessor, stage, -, style⟩ := parts_of_mem member
      obtain ⟨rfl, block, same⟩ := style handed given
      rw [preprocessor] at named
      have style_name : IsStyleName s.options.preprocessor := by
        rcases part with part | rfl
        · exact isStyleName_of_part closed (fun b other => others b (block ▸ other)) part named
        · exact isStyleName_of_stage (separate.stages _ stage).1 (separate.stages _ stage).2 named
      obtain ⟨shared, spared⟩ := spares (block ▸ differs) spells style_name
      have theme_spares : i.ThemeSpares := by
        intro _ _ _ _
        rwa [preprocessor, same, ← shared]
      refine extend_of_hasStage ?_
      rw [shared, ← same]
      exact stage_mem_extend (separate.closed member).stage.separator theme_spares found
    · exact extend_of_other marked

-- The order of the passes does not matter for a chain that is for one block at most.
theorem extendAll_of_perm (separate : s.Separate theme)
    (spares : ∀ i ∈ s.injections theme, s.Spares theme i) {order : List Injection}
    (perm : order.Perm (s.injections theme)) {chain : Text} (closed : '"' ∉ chain)
    (single : SingleBlock chain) :
    extendAll order chain = extendAll (s.injections theme) chain := by
  have distinct : (order.map (·.block)).Nodup :=
    (perm.map _).nodup_iff.2 (s.nodup_injections theme)
  by_cases owned : ∃ i ∈ s.injections theme, i.block.marker <:+: chain
  · obtain ⟨i, member, marked⟩ := owned
    have others : ∀ b : Block, b ≠ i.block → ¬b.marker <:+: chain :=
      fun b differs found => differs (single b i.block found marked)
    have left : ∀ j ∈ s.injections theme, j.block ≠ i.block →
        j.extend chain = chain ∧ j.extend (i.extend chain) = i.extend chain := by
      intro j other differs
      exact ⟨extend_of_other (others _ differs),
        extend_extend_of_spares separate member differs (spares j other) closed others⟩
    rw [extendAll_of_mem (s.nodup_injections theme) member left,
      extendAll_of_mem distinct (perm.mem_iff.2 member) fun j other => left j (perm.mem_iff.1 other)]
  · have fixed : ∀ i ∈ s.injections theme, i.extend chain = chain :=
      fun i member => extend_of_other fun marked => owned ⟨i, member, marked⟩
    rw [extendAll_eq_self fixed, extendAll_eq_self fun i member => fixed i (perm.mem_iff.1 member)]

theorem injectAll_of_perm (separate : s.Separate theme)
    (front : ∀ i ∈ s.injections theme, i.stage.head? ≠ some ')')
    (spares : ∀ i ∈ s.injections theme, s.Spares theme i) {order : List Injection}
    (perm : order.Perm (s.injections theme)) {source : Text} (unmarked : Unmarked source)
    (single : ∀ chain ∈ chains source, SingleBlock chain) :
    injectAll order source = injectAll (s.injections theme) source := by
  have passes : ∀ is : List Injection, (∀ i ∈ is, i ∈ s.injections theme) → injectAll is source =
      showQuotes (Request.rewrite (extendAll is) (hideQuotes source)) := by
    intro is known
    conv_lhs => rw [← showQuotes_hideQuotes unmarked]
    exact injectAll_showQuotes (fun i member => separate.closed (known i member))
      (fun i member => separate.fits (known i member) (front i (known i member)))
      (unescaped_hideQuotes source)
  rw [passes order fun i => perm.mem_iff.1, passes _ fun i member => member]
  refine congrArg showQuotes (Request.rewrite_congr fun r member => ?_)
  exact extendAll_of_perm separate spares perm (Request.mem_items member).2
    (single _ (List.mem_map_of_mem member))

theorem exists_orders {j : Injection} (member : i ∈ s.injections theme)
    (other : j ∈ s.injections theme) (differs : i.block ≠ j.block) :
    ∃ k ∈ s.injections theme, k.block ≠ i.block ∧ k.block ≠ j.block ∧
      [k, i, j].Perm (s.injections theme) ∧ [k, j, i].Perm (s.injections theme) := by
  have mirrored : ∀ {k a b : Injection}, [k, a, b].Perm (s.injections theme) →
      [k, b, a].Perm (s.injections theme) := fun perm => ((List.Perm.swap _ _ []).cons _).trans perm
  have last : [s.templateInjection, s.scriptInjection, s.styleInjection theme].Perm
      (s.injections theme) := (List.Perm.swap ..).trans ((List.Perm.swap ..).cons _)
  have middle : [s.styleInjection theme, s.scriptInjection, s.templateInjection].Perm
      (s.injections theme) := .swap ..
  have first : [s.scriptInjection, s.styleInjection theme, s.templateInjection].Perm
      (s.injections theme) := .refl _
  simp only [injections, List.mem_cons, List.not_mem_nil, or_false] at member other
  rcases member with rfl | rfl | rfl <;> rcases other with rfl | rfl | rfl
  · exact absurd rfl differs
  · exact ⟨s.templateInjection, by simp [injections], nofun, nofun, last, mirrored last⟩
  · exact ⟨s.styleInjection theme, by simp [injections], nofun, nofun, middle, mirrored middle⟩
  · exact ⟨s.templateInjection, by simp [injections], nofun, nofun, mirrored last, last⟩
  · exact absurd rfl differs
  · exact ⟨s.scriptInjection, by simp [injections], nofun, nofun, first, mirrored first⟩
  · exact ⟨s.styleInjection theme, by simp [injections], nofun, nofun, mirrored middle, middle⟩
  · exact ⟨s.scriptInjection, by simp [injections], nofun, nofun, mirrored first, first⟩
  · exact absurd rfl differs

theorem inject_comm_of_perm {j : Injection} (member : i ∈ s.injections theme)
    (other : j ∈ s.injections theme) (differs : i.block ≠ j.block) {source : Text}
    (idle : ∀ k ∈ s.injections theme, k.block ≠ i.block → k.block ≠ j.block →
      k.inject source = source)
    (commute : ∀ order : List Injection, order.Perm (s.injections theme) →
      injectAll order source = injectAll (s.injections theme) source) :
    j.inject (i.inject source) = i.inject (j.inject source) := by
  obtain ⟨k, third, apart, apart', first, second⟩ := exists_orders member other differs
  have same := (commute _ first).trans (commute _ second).symm
  simp only [injectAll, List.foldl_cons, List.foldl_nil, idle k third apart apart'] at same
  exact same

end Settings
end ComponentLoader
