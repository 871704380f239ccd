import ComponentLoader.Proofs.Host.Remerge
import Mathlib.Data.List.Forall2

namespace ComponentLoader
namespace Rule

def Names (p : Text → Bool) (r : Rule) : Prop :=
  (∃ head, r.head? = some head ∧ p head = true) ∨ ∃ e ∈ r.entries, p e.loader = true

def stages (r : Rule) : List Text :=
  match r.use, r.loader with
  | some es, _ => es.flatMap fun e => Text.splitOn '!' e.loader
  | none, some chain => Text.splitOn '!' chain
  | none, none => []

def Transpiles (r : Rule) : Prop :=
  match r.use, r.loader with
  | some es, _ => ∃ e ∈ es, isTranspiler e.loader = true
  | none, some chain => isTranspiler (chainHead chain) = true
  | none, none => False

def HasStage (stage : Text) (r : Rule) : Prop :=
  match r.use, r.loader with
  | some es, _ => ∃ e ∈ es, e.loader = stage
  | none, some chain => stage ∈ Text.splitOn '!' chain
  | none, none => False

structure Merged (o : Options) (format : RuleFormat) (r r' : Rule) : Prop where
  test : r'.test = r.test
  directory : r'.directory = r.directory
  unnamed : ¬r.Names isComponentCompiler → ¬r.Names isTranspiler → r' = r
  options : ∀ value, r.options = some value → r'.options = some value ∨
    ∃ chain, r.loader = some chain ∧ .stage chain (some value) ∈ r'.entries
  entries : r.entries.Sublist r'.entries
  -- Behind all stages that the rule has after the first pass.
  added : isKitRule [] o r = false → (componentStep o format r).Transpiles →
    ¬(componentStep o format r).HasStage o.jsStage →
      r'.stages = (componentStep o format r).stages ++ Text.splitOn '!' o.jsStage
  left : isKitRule [] o r = true ∨ ¬(componentStep o format r).Transpiles ∨
    (componentStep o format r).HasStage o.jsStage → r' = componentStep o format r

variable {o : Options} {format : RuleFormat} {r : Rule}

theorem isKitRule_componentStep (o : Options) (format : RuleFormat) (r : Rule) :
    isKitRule [] o (componentStep o format r) = isKitRule [] o r := by
  rw [isKitRule, (edited_componentStep o format r).test]
  rfl

theorem hasTranspiler_iff {es : List StageEntry} :
    hasTranspiler es = true ↔ ∃ e ∈ es, isTranspiler e.loader = true := List.any_eq_true

theorem hasLoader_iff {name : Text} {es : List StageEntry} :
    hasLoader name es = true ↔ ∃ e ∈ es, e.loader = name := by
  simp [hasLoader]

theorem mergeStep_of_not_names (compilers : ¬r.Names isComponentCompiler)
    (transpilers : ¬r.Names isTranspiler) : mergeStep o format r = r := by
  obtain ⟨noCompiler, compilers⟩ := not_or.1 compilers
  obtain ⟨noTranspiler, transpilers⟩ := not_or.1 transpilers
  cases bare : r.use with
  | some es =>
    rw [Rule.entries, bare] at compilers transpilers
    have compiler : hasCompiler es = false :=
      Bool.eq_false_iff.2 (mt List.any_eq_true.1 compilers)
    have transpiler : hasTranspiler es = false :=
      Bool.eq_false_iff.2 (mt List.any_eq_true.1 transpilers)
    have own : ownList o es = es := by simp [ownList, compiler]
    have script : scriptList o (isKitRule [] o r) es = es := by simp [scriptList, transpiler]
    rw [mergeStep_list bare, mergeList, own, script, ← bare]
  | none =>
    cases named : r.loader with
    | none => exact mergeStep_unnamed bare named
    | some chain =>
      have head := head?_eq named
      have kept : ¬GivesWay o chain := by
        intro gives
        refine noCompiler ⟨_, head, ?_⟩
        rw [isComponentCompiler_stageHead]
        exact gives.2.1
      have untaken : ¬TakesScriptStage o chain := by
        intro takes
        refine noTranspiler ⟨_, head, ?_⟩
        rw [isTranspiler_stageHead]
        exact takes.1
      rw [mergeStep, componentStep_kept bare named kept, scriptStep_kept bare named untaken]

theorem stages_scriptStep (plain : isKitRule [] o r = false) (transpiles : r.Transpiles)
    (fresh : ¬r.HasStage o.jsStage) :
    (scriptStep o format r).stages = r.stages ++ Text.splitOn '!' o.jsStage := by
  unfold Transpiles at transpiles
  unfold HasStage at fresh
  cases bare : r.use with
  | some es =>
    simp only [bare] at transpiles fresh
    have absent : hasLoader o.jsStage es = false := Bool.eq_false_iff.2 (mt hasLoader_iff.1 fresh)
    have longer : scriptList o (isKitRule [] o r) es = es ++ [.name o.jsStage] := by
      simp [scriptList, plain, hasTranspiler_iff.2 transpiles, absent]
    rw [scriptStep_list bare, longer, stages, stages, bare]
    simp [StageEntry.loader]
  | none =>
    cases named : r.loader with
    | none => simp only [bare, named] at transpiles
    | some chain =>
      simp only [bare, named] at transpiles fresh
      have takes : TakesScriptStage o chain := ⟨transpiles, fresh⟩
      have before : r.stages = Text.splitOn '!' chain := by rw [stages, bare, named]
      by_cases listed : IsListed format r
      · rw [scriptStep_listed plain bare named takes listed, before]
        simp [stages, StageEntry.loader]
      · rw [scriptStep_behind plain bare named takes listed, before, ← Text.splitOn_append_cons]
        simp [stages, bare]

theorem scriptStep_left (left : isKitRule [] o r = true ∨ ¬r.Transpiles ∨ r.HasStage o.jsStage) :
    scriptStep o format r = r := by
  rcases left with kit | left
  · exact scriptStep_kit kit
  unfold Transpiles HasStage at left
  cases bare : r.use with
  | some es =>
    simp only [bare] at left
    have same : scriptList o (isKitRule [] o r) es = es := by
      rcases left with other | present
      · have none_ : hasTranspiler es = false := Bool.eq_false_iff.2 (mt hasTranspiler_iff.1 other)
        simp [scriptList, none_]
      · simp [scriptList, hasLoader_iff.2 present]
    rw [scriptStep_list bare, same, ← bare]
  | none =>
    cases named : r.loader with
    | none => exact scriptStep_unnamed bare named
    | some chain =>
      simp only [bare, named] at left
      refine scriptStep_kept bare named fun takes => ?_
      rcases left with other | present
      · exact other takes.1
      · exact takes.2 present

theorem merged_mergeStep (o : Options) (format : RuleFormat) (r : Rule) :
    Merged o format r (mergeStep o format r) where
  test := test_mergeStep
  directory := (edited_mergeStep o format r).directory
  unnamed := mergeStep_of_not_names
  options _ := (edited_mergeStep o format r).options_kept
  entries := (edited_mergeStep o format r).entries_sublist
  added plain := by
    rw [← isKitRule_componentStep o format r] at plain
    exact stages_scriptStep plain
  left other := by
    rw [← isKitRule_componentStep o format r] at other
    exact scriptStep_left other

theorem lacksKit_iff (cwd : Text) (rules : List Rule) :
    (o.compileKitSource && !rules.any (isKitRule [] o)) = true ↔
      o.compileKitSource = true ∧ ∀ r ∈ rules, r.test ≠ (ofKit cwd o).test := by
  rw [Bool.and_eq_true, Bool.not_eq_true']
  refine and_congr_right fun compiles => ?_
  rw [List.any_eq_false]
  refine forall₂_congr fun r _ => ?_
  rw [isKitRule, compiles, Bool.true_and, beq_iff_eq]
  rfl

end Rule

namespace Host

-- A merge edits each rule of the detected format in place and appends at most a rule for components
-- and a rule for the kit's scripts; what is not a rule of the format stays.
theorem rules_of_merge {h next : Host} {files : FileTree} {o : Options}
    {incoming : List Descriptor} (ok : h.merge files o incoming = .ok next) :
    let format := h.module.format o.modernRules
    next.module = h.module.setRules format (next.module.rulesOf format) ∧
      ∃ merged, List.Forall₂ (Rule.Merged o format)
          (Rule.withComponentRule o format (h.module.rulesOf format)) merged ∧
        next.module.rulesOf format = merged ++
          if o.compileKitSource = true ∧
              ∀ r ∈ merged, r.test ≠ (Rule.ofKit files.cwdPath o).test then
            [Rule.ofKit files.cwdPath o]
          else [] := by
  intro format
  have rulesOf : ∀ rules, (h.module.setRules format rules).rulesOf format = rules := by
    intro rules
    cases format <;> rfl
  have module : next.module = h.module.setRules format
      (Rule.adaptAll files.cwdPath o format (h.module.rulesOf format)) := module_of_merge ok
  rw [module, rulesOf, Rule.adaptAll_eq, Rule.addKitRule_eq]
  refine ⟨rfl, (Rule.withComponentRule o format (h.module.rulesOf format)).map
    (Rule.mergeStep o format), ?_, ?_⟩
  · rw [List.forall₂_map_right_iff, List.forall₂_same]
    exact fun r _ => Rule.merged_mergeStep o format r
  · simp only [Rule.lacksKit_iff files.cwdPath]

theorem rules_of_merge_options_moved :
    let files := FileTree.ofDirectory []
    let o : Options := { compileKitSource := true }
    let css : Rule := .ofLoader "\\.css$".toList "css-loader".toList
    let h : Host := { module := { rules := some [
      .ofLoader "\\.vue$".toList "vue-loader".toList,
      { loader := some "babel-loader!cache".toList, options := some (.object []) }, css] } }
    ∃ next, h.merge files o [] = .ok next ∧
      next.module.rulesOf .modern = [.ofLoader "\\.vue$".toList "vux-loader!vue-loader".toList,
        { use := some [.stage "babel-loader!cache".toList (some (.object [])),
          .name "vux-loader/src/js-loader.js".toList] }, css,
        { test := some "node_modules.*vux.src.*?js$".toList, loader := some "babel-loader".toList
          directory := some "/node_modules/vux".toList }] ∧
      next.module.loaders = none ∧
      ∃ merged, List.Forall₂ (Rule.Merged o .modern)
          (Rule.withComponentRule o .modern (h.module.rulesOf .modern)) merged ∧
        next.module.rulesOf .modern = merged ++
          if o.compileKitSource = true ∧
              ∀ r ∈ merged, r.test ≠ (Rule.ofKit files.cwdPath o).test then
            [Rule.ofKit files.cwdPath o]
          else [] := by
  intro files o css h
  refine ⟨_, rfl, rfl, rfl, ?_⟩
  exact (@rules_of_merge h _ files o [] rfl).2

theorem chain_beside_list_passed_over :
    let files := FileTree.ofDirectory []
    let o : Options := {}
    let r : Rule := { loader := some "x!vux-loader/src/js-loader.js".toList,
                      use := some [.name "babel-loader".toList] }
    let h : Host := { module := { rules := some [r] } }
    ∃ next, h.merge files o [] = .ok next ∧ Rule.componentStep o .modern r = r ∧
      (∃ chain, r.loader = some chain ∧ o.jsStage ∈ Text.splitOn '!' chain) ∧
      (next.module.rulesOf .modern).head? =
        some { r with use := some [.name "babel-loader".toList, .name o.jsStage] } := by
  intro files o r h
  refine ⟨_, rfl, rfl, ⟨_, rfl, by decide⟩, rfl⟩

end Host
end ComponentLoader
