import ComponentLoader.Proofs.Host.Edits
import ComponentLoader.Proofs.Host.History

namespace ComponentLoader
namespace Rule

variable (o : Options) (format : RuleFormat)

def withComponentRule (rules : List Rule) : List Rule :=
  if o.adaptsComponents && !rules.any (isForComponents o format) then
    rules ++ [ofLoader componentTest o.componentChain]
  else rules

-- A merge comes to the same rules after any number of further merges.
def Settled (rules : List Rule) : Prop :=
  (∀ r ∈ withComponentRule o format rules, isKitRule [] o r = false → Settles o format r) ∧
    (o.adaptsComponents = true →
      (∃ r ∈ withComponentRule o format rules, IsKnown o format r) ∨
        o.compileKitSource = true ∧
          (withComponentRule o format rules).any (isKitRule [] o) = false ∧
          o.ownStage = "babel-loader".toList)

variable {o format}

theorem componentStep_of_not_adapts (other : o.adaptsComponents = false) (r : Rule) :
    componentStep o format r = r := by
  rw [componentStep, other]
  rfl

theorem adaptAll_eq (cwd : Text) (rules : List Rule) : adaptAll cwd o format rules =
    addKitRule cwd o ((withComponentRule o format rules).map (mergeStep o format)) := by
  have script : ∀ rules : List Rule, (rules.map fun r =>
      if isKitRule cwd o r then r else r.withScriptStage o.jsStage format) =
        rules.map (scriptStep o format) := fun rules => rfl
  unfold adaptAll
  dsimp only
  rw [script]
  congr 1
  cases adapts : o.adaptsComponents with
  | false =>
    have whole : withComponentRule o format rules = rules := by
      rw [withComponentRule, adapts]
      rfl
    rw [whole, if_neg (by decide)]
    exact List.map_congr_left fun r _ => by rw [mergeStep, componentStep_of_not_adapts adapts]
  | true =>
    have step : (rules.map fun r => (r.forComponents? o.componentChain format).getD r) =
        rules.map (componentStep o format) := by
      refine List.map_congr_left fun r _ => ?_
      rw [componentStep, if_pos adapts]
    have added : componentStep o format (ofLoader componentTest o.componentChain) =
        ofLoader componentTest o.componentChain :=
      componentStep_own rfl rfl fun listed => by simpa [ofLoader] using listed.2
    rw [if_pos rfl, adaptComponents, step]
    unfold withComponentRule
    rw [adapts]
    change List.map _ (if rules.any (isForComponents o format) = true then _ else _) = _
    cases rules.any (isForComponents o format) with
    | true => exact List.map_map
    | false =>
      simp only [Bool.false_eq_true, if_false, Bool.not_false, Bool.and_self, if_true,
        List.map_append, List.map_map, List.map_cons, List.map_nil, mergeStep, added]
      rfl

theorem isKitRule_mergeStep (r : Rule) :
    isKitRule [] o (mergeStep o format r) = isKitRule [] o r := by
  rw [isKitRule, test_mergeStep]
  rfl

theorem addKitRule_eq (cwd : Text) (rules : List Rule) : addKitRule cwd o rules =
    rules ++ if o.compileKitSource && !rules.any (isKitRule [] o) then [ofKit cwd o] else [] := by
  unfold addKitRule
  change (if (o.compileKitSource && !rules.any (isKitRule [] o)) = true then _ else _) = _
  split
  · rfl
  · rw [List.append_nil]

theorem isKitRule_ofKit (cwd : Text) (compiles : o.compileKitSource = true) :
    isKitRule [] o (ofKit cwd o) = true := by
  rw [isKitRule, compiles]
  exact beq_self_eq_true _

theorem mergeStep_ofKit (cwd : Text) (compiles : o.compileKitSource = true) :
    mergeStep o format (ofKit cwd o) = ofKit cwd o := by
  have other : isComponentCompiler (chainHead "babel-loader".toList) = false := by decide
  have kept : ¬GivesWay o "babel-loader".toList := by
    rintro ⟨-, compiler, -⟩
    rw [other] at compiler
    cases compiler
  rw [mergeStep, componentStep_kept rfl rfl kept, scriptStep_kit (isKitRule_ofKit cwd compiles)]

theorem isForComponents_ofKit (cwd : Text) :
    isForComponents o format (ofKit cwd o) = true ↔ o.ownStage = "babel-loader".toList := by
  have other : isComponentCompiler (chainHead "babel-loader".toList) = false := by decide
  have head : stageHead (chainHead "babel-loader".toList) = "babel-loader".toList := by decide
  rw [isForComponents_bare (r := ofKit cwd o) rfl rfl, other, head]
  simp [eq_comm]

theorem withComponentRule_eq_self_iff {rules : List Rule} :
    withComponentRule o format rules = rules ↔
      (o.adaptsComponents = true → rules.any (isForComponents o format) = true) := by
  unfold withComponentRule
  cases o.adaptsComponents <;> cases rules.any (isForComponents o format) <;> simp

theorem map_eq_self_iff {f : α → α} {l : List α} : l.map f = l ↔ ∀ a ∈ l, f a = a := by
  conv => lhs; rhs; rw [← List.map_id l]
  exact List.map_inj_left

-- Once the kit has its rule, a merge leaves the rules that it leaves one by one, if one of them is
-- for components.
theorem adaptAll_eq_self_iff (cwd : Text) {rules : List Rule}
    (kit : o.compileKitSource = true → rules.any (isKitRule [] o) = true) :
    adaptAll cwd o format rules = rules ↔
      (o.adaptsComponents = true → rules.any (isForComponents o format) = true) ∧
        ∀ r ∈ rules, mergeStep o format r = r := by
  have full : o.compileKitSource = true →
      ((withComponentRule o format rules).map (mergeStep o format)).any (isKitRule [] o) = true := by
    intro compiles
    obtain ⟨r, member, found⟩ := List.any_eq_true.1 (kit compiles)
    have still : r ∈ withComponentRule o format rules := by
      unfold withComponentRule
      split
      · exact List.mem_append_left _ member
      · exact member
    refine List.any_eq_true.2 ⟨_, List.mem_map_of_mem still, ?_⟩
    rwa [isKitRule_mergeStep]
  have nothing : (o.compileKitSource &&
      !((withComponentRule o format rules).map (mergeStep o format)).any (isKitRule [] o)) =
        false := by
    cases compiles : o.compileKitSource with
    | false => rfl
    | true => rw [full compiles]; rfl
  rw [adaptAll_eq, addKitRule_eq, nothing, if_neg (by decide), List.append_nil,
    ← withComponentRule_eq_self_iff, ← map_eq_self_iff]
  constructor
  · intro same
    have whole : withComponentRule o format rules = rules := by
      have length := congrArg List.length same
      rw [List.length_map] at length
      unfold withComponentRule at length ⊢
      split at length
      · simp at length
      · next kept => rw [if_neg kept]
    rw [whole] at same
    exact ⟨whole, same⟩
  · rintro ⟨whole, same⟩
    rw [whole, same]

theorem any_isKitRule_map (rules : List Rule) :
    (rules.map (mergeStep o format)).any (isKitRule [] o) = rules.any (isKitRule [] o) := by
  rw [List.any_map]
  congr 1
  funext r
  exact isKitRule_mergeStep r

theorem adaptAll_adaptAll_iff (cwd again : Text) (rules : List Rule) :
    adaptAll again o format (adaptAll cwd o format rules) = adaptAll cwd o format rules ↔
      Settled o format rules := by
  have merged : adaptAll cwd o format rules =
      (withComponentRule o format rules).map (mergeStep o format) ++
        if o.compileKitSource && !(withComponentRule o format rules).any (isKitRule [] o) then
          [ofKit cwd o]
        else [] := by
    rw [adaptAll_eq, addKitRule_eq, any_isKitRule_map]
  unfold Settled
  generalize withComponentRule o format rules = all at merged ⊢
  rw [merged, adaptAll_eq_self_iff, List.any_append, Bool.or_eq_true, List.any_map,
    List.any_eq_true, List.forall_mem_append, List.forall_mem_map, and_comm]
  · have each : (∀ r ∈ all, mergeStep o format (mergeStep o format r) = mergeStep o format r) ↔
        ∀ r ∈ all, isKitRule [] o r = false → Settles o format r :=
      forall₂_congr fun r _ => mergeStep_mergeStep_iff
    cases added : o.compileKitSource && !all.any (isKitRule [] o) with
    | true =>
      obtain ⟨compiles, lacks⟩ := Bool.and_eq_true_iff.1 added
      rw [Bool.not_eq_true'] at lacks
      rw [if_pos rfl, List.forall_mem_singleton, List.any_cons, List.any_nil, Bool.or_false,
        isForComponents_ofKit, each, and_iff_left (mergeStep_ofKit cwd compiles)]
      refine and_congr_right fun _ => imp_congr_right fun adapts => or_congr ?_ ?_
      · exact exists_congr fun r => and_congr_right fun _ => known_iff adapts
      · exact ⟨fun own => ⟨compiles, lacks, own⟩, fun all => all.2.2⟩
    | false =>
      have absent : ¬(o.compileKitSource = true ∧ all.any (isKitRule [] o) = false ∧
          o.ownStage = "babel-loader".toList) := by
        rintro ⟨compiles, lacks, -⟩
        rw [compiles, lacks] at added
        cases added
      rw [if_neg (by decide), List.any_nil, each]
      simp only [List.not_mem_nil, false_implies, implies_true, and_true, Bool.false_eq_true]
      refine and_congr_right fun _ => imp_congr_right fun adapts => or_congr ?_ ?_
      · exact exists_congr fun r => and_congr_right fun _ => known_iff adapts
      · exact iff_of_false not_false absent
  · intro compiles
    rw [List.any_append, any_isKitRule_map, Bool.or_eq_true]
    cases present : all.any (isKitRule [] o) with
    | true => exact .inl rfl
    | false => simp [compiles, isKitRule_ofKit cwd compiles]

theorem known_of_plain {r : Rule} (adapts : o.adaptsComponents = true) (query : '?' ∉ o.ownStage)
    (transpiler : isTranspiler o.ownStage = false)
    (named : ∀ chain, r.loader = some chain → IsListed format r → GivesWay o chain →
      isComponentCompiler chain = true)
    (found : isForComponents o format r = true) : IsKnown o format r := by
  unfold IsKnown
  cases bare : r.use with
  | some entries => exact .inl (by rwa [← isForComponents_list bare])
  | none =>
    cases loader : r.loader with
    | none =>
      have nameless : r.head? = none := by rw [head?, loader]; rfl
      simp [isForComponents, forComponents?, bare, nameless] at found
    | some chain =>
      dsimp only
      rw [isForComponents_bare bare loader] at found
      by_cases gives : GivesWay o chain
      · rw [if_pos gives]
        split
        · next listed => exact .inr (.inl (named chain loader listed gives))
        · exact .inl query
      · have own : stageHead (chainHead chain) = o.ownStage := by
          rcases found with own | compiler
          · exact own
          · exact not_not.1 fun other => gives ⟨adapts, compiler, other⟩
        rw [if_neg gives, if_neg]
        · exact own
        · rintro ⟨-, takes, -⟩
          have first := takes.1
          rw [← isTranspiler_stageHead, own, transpiler] at first
          cases first

theorem settled_of_plain {rules : List Rule} (query : '?' ∉ o.ownStage)
    (transpiler : isTranspiler o.ownStage = false) (single : '!' ∉ o.jsStage)
    (compiler : isComponentCompiler o.jsStage = false)
    (named : ∀ r ∈ rules, ∀ chain, r.loader = some chain → IsListed format r →
      GivesWay o chain → isComponentCompiler chain = true) : Settled o format rules := by
  have settles : ∀ r, Settles o format r := by
    intro r
    have list : ∀ entries, ListSettles o entries := by
      intro entries _ script
      rw [compiler] at script
      cases script
    unfold Settles
    split
    · exact fun _ => .inr (list _)
    · split
      · exact fun _ _ => single
      · intro _
        split
        · exact list _
        · exact single
    · trivial
  refine ⟨fun r _ _ => settles r, fun adapts => .inl ?_⟩
  cases present : rules.any (isForComponents o format) with
  | true =>
    obtain ⟨r, member, found⟩ := List.any_eq_true.1 present
    refine ⟨r, ?_, known_of_plain adapts query transpiler (named r member) found⟩
    simp [withComponentRule, present, member]
  | false =>
    refine ⟨ofLoader componentTest o.componentChain, by simp [withComponentRule, adapts, present],
      known_of_plain adapts query transpiler ?_ ?_⟩
    · intro chain _ listed
      simpa [ofLoader] using listed.2
    · exact (isForComponents_bare rfl rfl).2 (.inl (stageHead_eq_self_iff.2 query))

end Rule

namespace Module

def Settled (o : Options) (m : Module) : Prop :=
  Rule.Settled o (m.format o.modernRules) (m.rulesOf (m.format o.modernRules))

def merged (cwd : Text) (o : Options) (m : Module) : Module :=
  m.adapt cwd o (m.format o.modernRules)

theorem setRules_injective {m : Module} {format : RuleFormat} {a b : List Rule} :
    m.setRules format a = m.setRules format b ↔ a = b := by
  cases format <;> simp [setRules]

theorem merged_merged_iff (cwd again : Text) (o : Options) (m : Module) :
    (m.merged cwd o).merged again o = m.merged cwd o ↔ m.Settled o := by
  have rules : ∀ (format : RuleFormat) (rules : List Rule),
      (m.setRules format rules).rulesOf format = rules := by
    intro format rules
    cases format <;> rfl
  have twice : ∀ (format : RuleFormat) (a b : List Rule),
      (m.setRules format a).setRules format b = m.setRules format b := by
    intro format a b
    cases format <;> rfl
  unfold merged adapt Settled
  rw [format_setRules, rules, twice, setRules_injective]
  exact Rule.adaptAll_adaptAll_iff cwd again _

end Module

namespace Host

theorem module_of_merge {h next : Host} {files : FileTree} {o : Options}
    {incoming : List Descriptor} (ok : h.merge files o incoming = .ok next) :
    next.module = h.module.merged files.cwdPath o := by
  obtain ⟨s, built, rfl⟩ := eq_of_merge ok
  obtain ⟨rfl, -⟩ := Settings.eq_of_build built
  exact (adopt_facts ..).2.1

theorem module_run {m : Module} {o : Options} (fixed : ∀ cwd, m.merged cwd o = m) {h : Host}
    (same : h.module = m) {calls : List MergeCall} (options : ∀ call ∈ calls, call.options = o) :
    (h.run calls).2.module = m := by
  induction calls generalizing h with
  | nil => exact same
  | cons call calls ih =>
    have later := fun c member => options c (List.mem_cons_of_mem call member)
    have first := options call List.mem_cons_self
    rw [run]
    cases merged : h.merge call.files call.options call.plugins with
    | error e => exact ih same later
    | ok next =>
      refine ih ?_ later
      rw [module_of_merge merged, same, first, fixed]

-- A second merge with the same options leaves the module of exactly the hosts that are settled, and
-- then so do all merges after it.
theorem remerge_iff {h h₁ h₂ : Host} {files files₂ : FileTree} {o : Options}
    {incoming incoming₂ : List Descriptor} (first : h.merge files o incoming = .ok h₁)
    (second : h₁.merge files₂ o incoming₂ = .ok h₂) :
    (h₂.module = h₁.module ↔ h.module.Settled o) ∧
      (h.module.Settled o → ∀ calls : List MergeCall, (∀ call ∈ calls, call.options = o) →
        (h₂.run calls).2.module = h₁.module) := by
  have again : ∀ cwd, h₁.module.merged cwd o = h₁.module ↔ h.module.Settled o := by
    intro cwd
    rw [module_of_merge first]
    exact h.module.merged_merged_iff files.cwdPath cwd o
  have exact_ : h₂.module = h₁.module ↔ h.module.Settled o := by
    rw [module_of_merge second]
    exact again _
  refine ⟨exact_, fun settled calls options => ?_⟩
  exact module_run (fun cwd => (again cwd).2 settled) (exact_.2 settled) options

theorem remerge_iff_two_rules :
    let files := FileTree.ofDirectory []
    let h : Host := { module := { rules := some [
      .ofLoader "\\.vue$".toList "vue-loader".toList,
      { loader := some "babel-loader".toList, options := some (.object []) }] } }
    ∃ h₁ h₂, h.merge files {} [] = .ok h₁ ∧ h₁.merge files {} [] = .ok h₂ ∧
      (h₂.module = h₁.module ↔ h.module.Settled {}) ∧
        (h.module.Settled {} → ∀ calls : List MergeCall, (∀ call ∈ calls, call.options = {}) →
          (h₂.run calls).2.module = h₁.module) := by
  intro files h
  refine ⟨_, _, rfl, rfl, ?_⟩
  exact @remerge_iff h _ _ files files {} [] [] rfl rfl

-- The own stage is compared with a chain's first stage without its query, so that a rule for
-- components is added once more.
theorem query_added_again :
    let files := FileTree.ofDirectory []
    let o : Options := { componentChain := "vux-loader?x!vue-loader".toList }
    ∃ h₁ h₂, Host.merge files {} o [] = .ok h₁ ∧ h₁.merge files o [] = .ok h₂ ∧
      h₂.module ≠ h₁.module ∧
      (h₁.module.rulesOf .modern).length < (h₂.module.rulesOf .modern).length := by
  refine ⟨_, _, rfl, rfl, fun same => ?_, by decide⟩
  have length := congrArg (fun m => (m.rulesOf .modern).length) same
  revert length
  decide

end Host
end ComponentLoader
