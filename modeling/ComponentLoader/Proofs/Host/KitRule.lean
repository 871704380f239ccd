import ComponentLoader.Proofs.Host.Failure
import ComponentLoader.Proofs.Host.Handover
import ComponentLoader.Proofs.Host.Remerge

namespace ComponentLoader

def transpilerChain : Text := "babel-loader".toList

namespace Rule

variable (kit : Rule) {o : Options} {format : RuleFormat}

def kitRules (rules : List Rule) : List Rule := rules.filter fun r => r.test == kit.test

def withChain (chain : Text) : Rule := { kit with loader := some chain }

-- What a merge makes of the chain of the kit's rule: without the rule of its own options before it,
-- a merge takes the rule for one of the host's.
def kitChain (o : Options) (chain : Text) : Text :=
  if o.compileKitSource || (Text.splitOn '!' chain).contains o.jsStage then chain
  else chain ++ '!' :: o.jsStage

theorem kitRules_append (a b : List Rule) :
    kitRules kit (a ++ b) = kitRules kit a ++ kitRules kit b := List.filter_append ..

variable {kit}

theorem test_ne_componentTest {cwd : Text} (same : ofKit cwd o = kit) :
    (some componentTest == kit.test) = false := by
  rw [← same, beq_eq_false_iff_ne]
  intro equal
  have first : componentTest.head? = some 'n' := by
    rw [Option.some.inj equal]
    rfl
  exact absurd first (by decide)

theorem kitRules_withComponentRule {cwd : Text} (same : ofKit cwd o = kit) (rules : List Rule) :
    kitRules kit (withComponentRule o format rules) = kitRules kit rules := by
  have other : kitRules kit [ofLoader componentTest o.componentChain] = [] := by
    simp [kitRules, ofLoader, test_ne_componentTest same]
  unfold withComponentRule
  split
  · rw [kitRules_append, other, List.append_nil]
  · rfl

theorem kitRules_map_mergeStep (rules : List Rule) :
    kitRules kit (rules.map (mergeStep o format)) =
      (kitRules kit rules).map (mergeStep o format) := by
  unfold kitRules
  rw [List.filter_map]
  congr 2
  funext r
  exact congrArg (· == kit.test) test_mergeStep

theorem any_isKitRule {cwd : Text} (same : ofKit cwd o = kit) (compiles : o.compileKitSource = true)
    (rules : List Rule) : rules.any (isKitRule [] o) = !(kitRules kit rules).isEmpty := by
  have test : (ofKit [] o).test = kit.test := by
    rw [← same]
    rfl
  have found : isKitRule [] o = fun r => r.test == kit.test := by
    funext r
    rw [isKitRule, compiles, test]
    rfl
  rw [found, kitRules]
  induction rules with
  | nil => rfl
  | cons r rules ih =>
    rw [List.any_cons, List.filter_cons, ih]
    cases r.test == kit.test <;> rfl

theorem kitRules_adaptAll {cwd : Text} (same : ofKit cwd o = kit) (rules : List Rule) :
    kitRules kit (adaptAll cwd o format rules) =
      (kitRules kit rules).map (mergeStep o format) ++
        if o.compileKitSource && (kitRules kit rules).isEmpty then [kit] else [] := by
  have whole : kitRules kit [kit] = [kit] := by simp [kitRules]
  rw [adaptAll_eq, addKitRule_eq, kitRules_append, kitRules_map_mergeStep,
    kitRules_withComponentRule same]
  congr 1
  cases compiles : o.compileKitSource with
  | false => rfl
  | true =>
    rw [any_isKitRule same compiles, Bool.not_not, kitRules_map_mergeStep,
      kitRules_withComponentRule same, List.isEmpty_map, same]
    split
    · exact whole
    · rfl

theorem isKitRule_withChain {cwd : Text} (same : ofKit cwd o = kit) (chain : Text) :
    isKitRule [] o (withChain kit chain) = o.compileKitSource := by
  rw [isKitRule, withChain, ← same]
  change (o.compileKitSource && (ofKit [] o).test == (ofKit [] o).test) = _
  rw [beq_self_eq_true, Bool.and_true]

theorem mergeStep_withChain {cwd : Text} (same : ofKit cwd o = kit) {chain : Text}
    (transpiles : chainHead chain = transpilerChain) :
    mergeStep o format (withChain kit chain) = withChain kit (kitChain o chain) := by
  have bare : (withChain kit chain).use = none := by
    rw [← same]
    rfl
  have unlisted : ¬IsListed format (withChain kit chain) := by
    rintro ⟨-, options⟩
    rw [← same] at options
    cases options
  have kept : ¬GivesWay o chain := by
    rintro ⟨-, compiler, -⟩
    rw [transpiles] at compiler
    exact absurd compiler (by decide)
  have plain := isKitRule_withChain same chain
  rw [mergeStep, componentStep_kept bare rfl kept]
  unfold kitChain
  cases compiles : o.compileKitSource with
  | true =>
    rw [compiles] at plain
    exact scriptStep_kit plain
  | false =>
    rw [compiles] at plain
    cases has : (Text.splitOn '!' chain).contains o.jsStage with
    | true =>
      refine scriptStep_kept bare rfl fun takes => takes.2 ?_
      exact List.contains_iff_mem.1 has
    | false =>
      have takes : TakesScriptStage o chain := by
        refine ⟨by rw [transpiles]; decide, fun member => ?_⟩
        rw [List.contains_iff_mem.2 member] at has
        cases has
      exact scriptStep_behind plain bare rfl takes unlisted

theorem chainHead_kitChain {chain : Text} (transpiles : chainHead chain = transpilerChain) :
    chainHead (kitChain o chain) = transpilerChain := by
  unfold kitChain
  split
  · exact transpiles
  · rw [chainHead_append, transpiles]

theorem length_le_kitChain (o : Options) (chain : Text) :
    chain.length ≤ (kitChain o chain).length := by
  unfold kitChain
  split
  · exact Nat.le_refl _
  · rw [List.length_append]
    exact Nat.le_add_right _ _

def LeavesKitRule (o : Options) : Prop :=
  o.compileKitSource = true ∨ o.jsStage = transpilerChain

theorem kitChain_transpilerChain_iff :
    kitChain o transpilerChain = transpilerChain ↔ LeavesKitRule o := by
  have parts : (Text.splitOn '!' transpilerChain).contains o.jsStage = true ↔
      o.jsStage = transpilerChain := by
    have single : Text.splitOn '!' transpilerChain = [transpilerChain] :=
      Text.splitOn_of_not_mem (by decide)
    rw [single, List.contains_iff_mem, List.mem_singleton]
  unfold kitChain LeavesKitRule
  rw [← parts, ← Bool.or_eq_true]
  split
  · next kept => exact iff_of_true rfl kept
  · next taken => exact iff_of_false (by simp) taken

def kitChainAfter (chain : Text) (calls : List MergeCall) : Text :=
  calls.foldl (fun chain call => kitChain call.options chain) chain

theorem length_le_kitChainAfter (chain : Text) (calls : List MergeCall) :
    chain.length ≤ (kitChainAfter chain calls).length := by
  induction calls generalizing chain with
  | nil => exact Nat.le_refl _
  | cons call calls ih => exact (length_le_kitChain call.options chain).trans (ih _)

theorem kitChainAfter_eq_iff (calls : List MergeCall) :
    kitChainAfter transpilerChain calls = transpilerChain ↔
      ∀ call ∈ calls, LeavesKitRule call.options := by
  induction calls with
  | nil => exact iff_of_true rfl fun call member => absurd member List.not_mem_nil
  | cons call calls ih =>
    have step : kitChainAfter transpilerChain (call :: calls) =
        kitChainAfter (kitChain call.options transpilerChain) calls := rfl
    rw [List.forall_mem_cons, ← kitChain_transpilerChain_iff, step]
    by_cases kept : kitChain call.options transpilerChain = transpilerChain
    · rw [kept, ih, and_iff_right rfl]
    · refine iff_of_false (fun same => ?_) fun both => kept both.1
      have longer := length_le_kitChainAfter (kitChain call.options transpilerChain) calls
      rw [same] at longer
      unfold kitChain at kept longer
      split at kept
      · exact kept rfl
      · next taken =>
        rw [if_neg taken, List.length_append, List.length_cons] at longer
        omega

end Rule

namespace Host

variable {kit : Rule} {format : RuleFormat}

def kitRules (h : Host) (kit : Rule) (format : RuleFormat) : List Rule :=
  Rule.kitRules kit (h.module.rulesOf format)

theorem kitRules_of_merge {h next : Host} {call : MergeCall}
    (merged : h.merge call.files call.options call.plugins = .ok next)
    (same_format : h.module.format call.options.modernRules = format)
    (same_kit : Rule.ofKit call.files.cwdPath call.options = kit) :
    next.kitRules kit format =
      (h.kitRules kit format).map (Rule.mergeStep call.options format) ++
        if call.options.compileKitSource && (h.kitRules kit format).isEmpty then [kit] else [] := by
  have rules : next.module.rulesOf format =
      Rule.adaptAll call.files.cwdPath call.options format (h.module.rulesOf format) := by
    rw [module_of_merge merged, Module.merged, same_format]
    cases format <;> rfl
  rw [kitRules, rules, Rule.kitRules_adaptAll same_kit]
  rfl

structure SameKit (h : Host) (kit : Rule) (format : RuleFormat) (calls : List MergeCall) : Prop where
  formats : ∀ e ∈ h.handovers calls, e.format = format
  kits : ∀ call ∈ (h.run calls).1, Rule.ofKit call.files.cwdPath call.options = kit

theorem SameKit.of_error {h : Host} {call : MergeCall} {calls : List MergeCall} {e : LoadError}
    (same : h.SameKit kit format (call :: calls))
    (failed : h.merge call.files call.options call.plugins = .error e) :
    h.SameKit kit format calls := by
  obtain ⟨formats, kits⟩ := same
  rw [handovers, failed] at formats
  rw [run, failed] at kits
  exact ⟨formats, kits⟩

theorem SameKit.of_ok {h next : Host} {call : MergeCall} {calls : List MergeCall}
    (same : h.SameKit kit format (call :: calls))
    (merged : h.merge call.files call.options call.plugins = .ok next) :
    h.module.format call.options.modernRules = format ∧
      Rule.ofKit call.files.cwdPath call.options = kit ∧ next.SameKit kit format calls := by
  obtain ⟨formats, kits⟩ := same
  obtain ⟨s, built, -⟩ := built_of_merge merged
  rw [handovers, merged, built] at formats
  rw [run, merged] at kits
  obtain ⟨here, later⟩ := List.forall_mem_cons.1 formats
  obtain ⟨this, others⟩ := List.forall_mem_cons.1 kits
  exact ⟨here, this, later, others⟩

theorem kitRules_run_of_placed {h : Host} {calls : List MergeCall} {chain : Text}
    (same : h.SameKit kit format calls) (transpiles : chainHead chain = transpilerChain)
    (placed : h.kitRules kit format = [kit.withChain chain]) :
    (h.run calls).2.kitRules kit format =
      [kit.withChain (Rule.kitChainAfter chain (h.run calls).1)] := by
  induction calls generalizing h chain with
  | nil => exact placed
  | cons call calls ih =>
    cases merged : h.merge call.files call.options call.plugins with
    | error e =>
      have later := ih (same.of_error merged) transpiles placed
      rwa [run, merged]
    | ok next =>
      obtain ⟨same_format, same_kit, same⟩ := same.of_ok merged
      have step : next.kitRules kit format =
          [kit.withChain (Rule.kitChain call.options chain)] := by
        rw [kitRules_of_merge merged same_format same_kit, placed, List.map_singleton,
          Rule.mergeStep_withChain same_kit transpiles, List.isEmpty_cons, Bool.and_false]
        rfl
      have later := ih same (Rule.chainHead_kitChain transpiles) step
      rwa [run, merged]

theorem kitRules_run {h : Host} {calls before later : List MergeCall} {push : MergeCall}
    (same : h.SameKit kit format calls) (fresh : h.kitRules kit format = [])
    (done : (h.run calls).1 = before ++ push :: later)
    (without : ∀ call ∈ before, call.options.compileKitSource = false)
    (asked : push.options.compileKitSource = true) :
    (h.run calls).2.kitRules kit format =
      [kit.withChain (Rule.kitChainAfter transpilerChain later)] := by
  induction calls generalizing h before with
  | nil =>
    rw [run] at done
    exact absurd done.symm (by simp)
  | cons call calls ih =>
    cases merged : h.merge call.files call.options call.plugins with
    | error e =>
      rw [run, merged] at done ⊢
      exact ih (same.of_error merged) fresh done without
    | ok next =>
      obtain ⟨same_format, same_kit, same⟩ := same.of_ok merged
      have step := kitRules_of_merge merged same_format same_kit
      rw [fresh, List.map_nil, List.nil_append, List.isEmpty_nil, Bool.and_true] at step
      rw [run, merged] at done ⊢
      cases before with
      | nil =>
        obtain ⟨rfl, rest⟩ := List.cons.inj done
        have placed : next.kitRules kit format = [kit.withChain transpilerChain] := by
          rw [step, asked, ← same_kit]
          rfl
        rw [← rest]
        exact kitRules_run_of_placed same (by decide) placed
      | cons first before =>
        obtain ⟨rfl, rest⟩ := List.cons.inj done
        obtain ⟨here, others⟩ := List.forall_mem_cons.1 without
        rw [here] at step
        exact ih same step rest others

-- From the first merge that asks for it on there is one rule for the kit's scripts, and it stays as
-- it was created exactly when each later merge asks for it too or has no stage but the transpiler
-- to add.
theorem kitRules_run_iff {h : Host} {calls before later : List MergeCall} {push : MergeCall}
    (same : h.SameKit kit format calls) (fresh : h.kitRules kit format = [])
    (done : (h.run calls).1 = before ++ push :: later)
    (without : ∀ call ∈ before, call.options.compileKitSource = false)
    (asked : push.options.compileKitSource = true) :
    (∃ chain, (h.run calls).2.kitRules kit format = [kit.withChain chain]) ∧
      ((h.run calls).2.kitRules kit format = [kit] ↔
        ∀ call ∈ later, Rule.LeavesKitRule call.options) := by
  have rules := kitRules_run same fresh done without asked
  refine ⟨⟨_, rules⟩, ?_⟩
  have whole : kit = kit.withChain transpilerChain := by
    rw [← same.kits push (by simp [done])]
    rfl
  have chains : kit.withChain (Rule.kitChainAfter transpilerChain later) = kit ↔
      Rule.kitChainAfter transpilerChain later = transpilerChain := by
    constructor
    · intro unchanged
      rw [whole] at unchanged
      exact Option.some.inj (congrArg (·.loader) unchanged)
    · intro unchanged
      rw [unchanged, ← whole]
  rw [rules, List.cons.injEq, and_iff_left rfl, chains]
  exact Rule.kitChainAfter_eq_iff later

theorem run_of_plain {h : Host} {calls : List MergeCall} (none_ : h.mergedPlugins = [])
    (plain : ∀ call ∈ calls, call.plugins = [] ∧ call.options.expandKit = false) :
    (h.run calls).1 = calls := by
  induction calls generalizing h with
  | nil => rfl
  | cons call calls ih =>
    obtain ⟨⟨bare, keeps⟩, others⟩ := List.forall_mem_cons.1 plain
    have merged : h.merge call.files call.options call.plugins =
        .ok (h.adopt call.files.cwdPath [] { options := call.options, plugins := [] }) := by
      rw [bare, merge_of_distinct (by simp [Descriptor.names]), none_]
      simp [Descriptor.putAll, Settings.build, Settings.expandsKit, keeps]
    have history := (adopt_facts call.files.cwdPath h []
      { options := call.options, plugins := [] }).1
    rw [run, merged]
    exact congrArg _ (ih (by rw [mergedPlugins, history]) others)

theorem sameKit_of_forall {h : Host} {calls : List MergeCall}
    (formats : ∀ call ∈ calls, ∀ m : Module, m.format call.options.modernRules = format)
    (kits : ∀ call ∈ calls, Rule.ofKit call.files.cwdPath call.options = kit) :
    h.SameKit kit format calls := by
  induction calls generalizing h with
  | nil => exact ⟨fun e member => absurd member List.not_mem_nil,
      fun call member => absurd member List.not_mem_nil⟩
  | cons call calls ih =>
    obtain ⟨same_format, formats⟩ := List.forall_mem_cons.1 formats
    obtain ⟨same_kit, kits⟩ := List.forall_mem_cons.1 kits
    cases merged : h.merge call.files call.options call.plugins with
    | error e =>
      obtain ⟨formats, kits⟩ := ih (h := h) formats kits
      constructor
      · rwa [handovers, merged]
      · rwa [run, merged]
    | ok next =>
      obtain ⟨s, built, -⟩ := built_of_merge merged
      obtain ⟨formats, kits⟩ := ih (h := next) formats kits
      constructor
      · rw [handovers, merged, built]
        exact List.forall_mem_cons.2 ⟨same_format _, formats⟩
      · rw [run, merged]
        exact List.forall_mem_cons.2 ⟨same_kit, kits⟩

theorem kitRules_run_iff_four_calls :
    let files := FileTree.ofDirectory []
    let modern : Options := { modernRules := some true }
    let kit := Rule.ofKit files.cwdPath modern
    let h : Host := { module := { rules := some [.ofLoader "\\.js$".toList transpilerChain] } }
    let push : MergeCall := ⟨files, { modern with compileKitSource := true }, []⟩
    let before : List MergeCall := [⟨files, modern, []⟩]
    let later : List MergeCall := [⟨files, { modern with compileKitSource := true, ssr := true }, []⟩,
      ⟨files, { modern with jsStage := transpilerChain }, []⟩]
    let calls := before ++ push :: later
    (h.SameKit kit .modern calls ∧ h.kitRules kit .modern = [] ∧
      (h.run calls).1 = before ++ push :: later ∧
      (∀ call ∈ before, call.options.compileKitSource = false) ∧
      push.options.compileKitSource = true) ∧
      (∃ chain, (h.run calls).2.kitRules kit .modern = [kit.withChain chain]) ∧
      ((h.run calls).2.kitRules kit .modern = [kit] ↔
        ∀ call ∈ later, Rule.LeavesKitRule call.options) := by
  intro files modern kit h push before later calls
  have same : h.SameKit kit .modern calls := by
    apply sameKit_of_forall
    · simp [calls, before, push, later, modern, Module.format]
    · simp [calls, before, push, later, kit, modern, Rule.ofKit, Options.kitRoot,
        Options.rootDir]
  have fresh : h.kitRules kit .modern = [] := by decide
  have done : (h.run calls).1 = calls :=
    run_of_plain rfl (by simp [calls, before, push, later, modern])
  have without : ∀ call ∈ before, call.options.compileKitSource = false :=
    List.forall_mem_singleton.2 rfl
  exact ⟨⟨same, fresh, done, without, rfl⟩, kitRules_run_iff same fresh done without rfl⟩

-- A merge that does not ask for the kit's rule gives it the script stage.
theorem kit_rule_given_stage :
    let files := FileTree.ofDirectory []
    let kit := Rule.ofKit files.cwdPath {}
    ∃ h₁ h₂, Host.merge files {} { compileKitSource := true } [] = .ok h₁ ∧
      h₁.merge files {} [] = .ok h₂ ∧ h₁.kitRules kit .modern = [kit] ∧
      h₂.kitRules kit .modern ≠ [kit] := by
  intro files kit
  refine ⟨_, _, rfl, rfl, rfl, fun same => ?_⟩
  have chains := congrArg (List.map (·.loader)) same
  revert chains
  decide

end Host
end ComponentLoader
