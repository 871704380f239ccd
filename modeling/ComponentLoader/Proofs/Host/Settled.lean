import ComponentLoader.Proofs.Host.Lists

namespace ComponentLoader
namespace Rule

variable (o : Options) (format : RuleFormat)

def componentStep (r : Rule) : Rule :=
  if o.adaptsComponents then (r.forComponents? o.componentChain format).getD r else r

def scriptStep (r : Rule) : Rule :=
  if isKitRule [] o r then r else r.withScriptStage o.jsStage format

def mergeStep (r : Rule) : Rule := scriptStep o format (componentStep o format r)

def isForComponents (r : Rule) : Bool := (r.forComponents? o.componentChain format).isSome

-- A chain that runs the component compiler first is exchanged for the component chain, or goes into
-- a list of stages.
def GivesWay (chain : Text) : Prop :=
  o.adaptsComponents = true ∧ isComponentCompiler (chainHead chain) = true ∧
    stageHead (chainHead chain) ≠ o.ownStage

instance (chain : Text) : Decidable (GivesWay o chain) := by
  unfold GivesWay
  infer_instance

-- Options of a chain need a list of stages, where the build has such lists.
def IsListed (r : Rule) : Prop := format = .modern ∧ r.options.isSome = true

instance (r : Rule) : Decidable (IsListed format r) := by
  unfold IsListed
  infer_instance

def TakesScriptStage (chain : Text) : Prop :=
  isTranspiler (chainHead chain) = true ∧ o.jsStage ∉ Text.splitOn '!' chain

variable {o format} {r : Rule} {chain : Text}

theorem takes_iff : (isTranspiler (chainHead chain) &&
    !(Text.splitOn '!' chain).contains o.jsStage) = true ↔ TakesScriptStage o chain := by
  simp [TakesScriptStage]

instance (o : Options) (chain : Text) : Decidable (TakesScriptStage o chain) :=
  decidable_of_iff _ takes_iff

theorem isForComponents_list {entries : List StageEntry} (listed : r.use = some entries) :
    isForComponents o format r = hasCompiler entries := by
  unfold isForComponents forComponents?
  simp only [listed]
  change (if hasCompiler entries = true then _ else none).isSome = _
  cases hasCompiler entries with
  | false => rfl
  | true =>
    rw [if_pos rfl]
    split <;> rfl

theorem head?_eq (named : r.loader = some chain) :
    r.head? = some (stageHead (chainHead chain)) := by
  rw [head?, named]
  rfl

theorem isForComponents_bare (bare : r.use = none) (named : r.loader = some chain) :
    isForComponents o format r = true ↔
      stageHead (chainHead chain) = o.ownStage ∨ isComponentCompiler (chainHead chain) = true := by
  unfold isForComponents forComponents?
  simp only [bare, head?_eq named, isComponentCompiler_stageHead]
  change (if stageHead (chainHead chain) = o.ownStage then some r else _).isSome = true ↔ _
  by_cases own : stageHead (chainHead chain) = o.ownStage
  · simp [own]
  · rw [if_neg own]
    cases compiler : isComponentCompiler (chainHead chain) with
    | false => simp [own]
    | true =>
      simp only [if_true, or_true, iff_true]
      split <;> rfl

theorem componentStep_list {entries : List StageEntry} (listed : r.use = some entries) :
    componentStep o format r = { r with use := some (ownList o entries) } := by
  have same : { r with use := some entries } = r := by rw [← listed]
  unfold componentStep ownList
  cases o.adaptsComponents with
  | false => exact same.symm
  | true =>
    unfold forComponents?
    simp only [listed, if_true, Bool.true_and]
    change Option.getD (if hasCompiler entries = true then
      if hasLoader o.ownStage entries = true then _ else _ else none) r = _
    cases hasCompiler entries with
    | false => exact same.symm
    | true =>
      cases hasLoader o.ownStage entries with
      | true => exact same.symm
      | false => rfl

theorem scriptStep_list {entries : List StageEntry} (listed : r.use = some entries) :
    scriptStep o format r =
      { r with use := some (scriptList o (isKitRule [] o r) entries) } := by
  have same : { r with use := some entries } = r := by rw [← listed]
  unfold scriptStep scriptList
  cases isKitRule [] o r with
  | true => exact same.symm
  | false =>
    unfold withScriptStage
    simp only [listed, Bool.false_eq_true, if_false, Bool.not_false, Bool.true_and]
    change (if (hasTranspiler entries && !hasLoader o.jsStage entries) = true then _ else r) = _
    split
    · rfl
    · exact same.symm

theorem mergeStep_list {entries : List StageEntry} (listed : r.use = some entries) :
    mergeStep o format r = { r with use := some (mergeList o (isKitRule [] o r) entries) } := by
  rw [mergeStep, componentStep_list listed, scriptStep_list rfl]
  rfl

theorem componentStep_kept (bare : r.use = none) (named : r.loader = some chain)
    (kept : ¬GivesWay o chain) : componentStep o format r = r := by
  unfold componentStep
  split
  · next adapts =>
    unfold forComponents?
    simp only [bare, head?_eq named, isComponentCompiler_stageHead]
    split
    · rfl
    · next other =>
      rw [if_neg fun compiler => kept ⟨adapts, compiler, other⟩]
      rfl
  · rfl

theorem componentStep_listed (bare : r.use = none) (named : r.loader = some chain)
    (gives : GivesWay o chain) (listed : IsListed format r) :
    componentStep o format r = { r with
      loader := none
      options := none
      use := some [.name o.ownStage, .stage chain r.options] } := by
  obtain ⟨adapts, compiler, other⟩ := gives
  change stageHead (chainHead chain) ≠ chainHead o.componentChain at other
  obtain ⟨rfl, given⟩ := listed
  obtain ⟨options, given⟩ := Option.isSome_iff_exists.1 given
  unfold componentStep forComponents?
  simp only [bare, head?_eq named, isComponentCompiler_stageHead]
  rw [if_pos adapts, if_neg other, if_pos compiler, given, named]
  rfl

theorem componentStep_exchanged (bare : r.use = none) (named : r.loader = some chain)
    (gives : GivesWay o chain) (unlisted : ¬IsListed format r) :
    componentStep o format r = { r with loader := some o.componentChain } := by
  obtain ⟨adapts, compiler, other⟩ := gives
  change stageHead (chainHead chain) ≠ chainHead o.componentChain at other
  unfold componentStep forComponents?
  simp only [bare, head?_eq named, isComponentCompiler_stageHead]
  rw [if_pos adapts, if_neg other, if_pos compiler]
  cases given : r.options with
  | none => rfl
  | some options =>
    cases format with
    | modern => exact absurd ⟨rfl, by rw [given]; rfl⟩ unlisted
    | legacy => rfl

theorem scriptStep_kit (kit : isKitRule [] o r = true) : scriptStep o format r = r := by
  rw [scriptStep, if_pos kit]

theorem scriptStep_kept (bare : r.use = none) (named : r.loader = some chain)
    (kept : ¬TakesScriptStage o chain) : scriptStep o format r = r := by
  unfold scriptStep
  split
  · rfl
  · unfold withScriptStage
    simp only [bare, named]
    rw [if_neg (takes_iff.not.2 kept)]

theorem scriptStep_listed (plain : isKitRule [] o r = false) (bare : r.use = none)
    (named : r.loader = some chain) (takes : TakesScriptStage o chain)
    (listed : IsListed format r) :
    scriptStep o format r = { r with
      loader := none
      options := none
      use := some [.stage chain r.options, .name o.jsStage] } := by
  obtain ⟨rfl, given⟩ := listed
  obtain ⟨options, given⟩ := Option.isSome_iff_exists.1 given
  unfold scriptStep withScriptStage
  simp only [bare, named, plain, Bool.false_eq_true, if_false]
  rw [if_pos (takes_iff.2 takes), given]

theorem scriptStep_behind (plain : isKitRule [] o r = false) (bare : r.use = none)
    (named : r.loader = some chain) (takes : TakesScriptStage o chain)
    (unlisted : ¬IsListed format r) :
    scriptStep o format r = { r with loader := some (chain ++ '!' :: o.jsStage) } := by
  unfold scriptStep withScriptStage
  simp only [bare, named, plain, Bool.false_eq_true, if_false]
  rw [if_pos (takes_iff.2 takes)]
  cases given : r.options with
  | none => rfl
  | some options =>
    cases format with
    | modern => exact absurd ⟨rfl, by rw [given]; rfl⟩ unlisted
    | legacy => rfl

theorem componentStep_unnamed (bare : r.use = none) (unnamed : r.loader = none) :
    componentStep o format r = r := by
  have nameless : r.head? = none := by rw [head?, unnamed]; rfl
  unfold componentStep forComponents?
  simp only [bare, nameless]
  split <;> rfl

theorem scriptStep_unnamed (bare : r.use = none) (unnamed : r.loader = none) :
    scriptStep o format r = r := by
  unfold scriptStep
  split
  · rfl
  · unfold withScriptStage
    simp only [bare, unnamed]

theorem mergeStep_unnamed (bare : r.use = none) (unnamed : r.loader = none) :
    mergeStep o format r = r := by
  rw [mergeStep, componentStep_unnamed bare unnamed, scriptStep_unnamed bare unnamed]

theorem takes_append (takes : TakesScriptStage o chain) :
    TakesScriptStage o (chain ++ '!' :: o.jsStage) ↔ '!' ∈ o.jsStage := by
  unfold TakesScriptStage
  rw [chainHead_append, Text.splitOn_append_cons, List.mem_append, not_or, mem_splitOn_self_iff,
    not_not]
  exact ⟨fun all => all.2.2, fun long => ⟨takes.1, takes.2, long⟩⟩

theorem givesWay_append (stages : Text) :
    GivesWay o (chain ++ '!' :: stages) ↔ GivesWay o chain := by
  rw [GivesWay, GivesWay, chainHead_append]

theorem not_givesWay_of_takes (takes : TakesScriptStage o chain) : ¬GivesWay o chain := by
  intro gives
  have other := isTranspiler_of_compiler gives.2.1
  rw [takes.1] at other
  cases other

theorem mergeStep_eq_self_iff (bare : r.use = none) (named : r.loader = some chain)
    (same : componentStep o format r = r) :
    mergeStep o format r = r ↔ isKitRule [] o r = true ∨ ¬TakesScriptStage o chain := by
  rw [mergeStep, same]
  cases kit : isKitRule [] o r with
  | true => simp [scriptStep_kit kit]
  | false =>
    simp only [Bool.false_eq_true, false_or]
    by_cases takes : TakesScriptStage o chain
    · refine iff_of_false (fun fixed => ?_) (not_not.2 takes)
      by_cases listed : IsListed format r
      · rw [scriptStep_listed kit bare named takes listed] at fixed
        have use := congrArg Rule.use fixed
        rw [bare] at use
        cases use
      · rw [scriptStep_behind kit bare named takes listed] at fixed
        have loader := congrArg Rule.loader fixed
        rw [named, Option.some.injEq] at loader
        have longer := congrArg List.length loader
        simp at longer
    · exact iff_of_true (scriptStep_kept bare named takes) takes

theorem componentStep_own (bare : r.use = none) (named : r.loader = some o.componentChain)
    (unlisted : ¬IsListed format r) : componentStep o format r = r := by
  by_cases gives : GivesWay o o.componentChain
  · rw [componentStep_exchanged bare named gives unlisted, ← named]
  · exact componentStep_kept bare named gives

variable (o format) in
def Settles (r : Rule) : Prop :=
  match r.use, r.loader with
  | some entries, _ =>
    hasTranspiler entries = true → hasCompiler entries = true ∨ ListSettles o entries
  | none, some chain =>
    if GivesWay o chain then
      ¬IsListed format r → isTranspiler o.ownStage = true → '!' ∉ o.jsStage
    else
      TakesScriptStage o chain →
        if IsListed format r then ListSettles o [.stage chain r.options] else '!' ∉ o.jsStage
  | none, none => True

theorem use_injective {r : Rule} {a b : List StageEntry} :
    { r with use := some a } = { r with use := some b } ↔ a = b := by
  constructor
  · intro same
    exact Option.some.inj (congrArg Rule.use same)
  · rintro rfl
    rfl

theorem again_list {entries : List StageEntry} (listed : r.use = some entries) :
    mergeStep o format (mergeStep o format r) = mergeStep o format r ↔
      (isKitRule [] o r = false → hasTranspiler entries = true → hasCompiler entries = true ∨
        ListSettles o entries) := by
  rw [mergeStep_list listed, mergeStep_list rfl, ← mergeList_mergeList_iff]
  exact use_injective

theorem again_listed (bare : r.use = none) (named : r.loader = some chain)
    (gives : GivesWay o chain) (listed : IsListed format r) :
    mergeStep o format (mergeStep o format r) = mergeStep o format r := by
  have once : mergeStep o format r = scriptStep o format { r with
      loader := none
      options := none
      use := some [.name o.ownStage, .stage chain r.options] } := by
    rw [mergeStep, componentStep_listed bare named gives listed]
  rw [once, scriptStep_list rfl, mergeStep_list rfl]
  refine use_injective.2 ((mergeList_eq_self_iff ?_).2 fun _ _ => ?_)
  · intro kit transpiler
    change isKitRule [] o r = false at kit
    change hasTranspiler (scriptList o (isKitRule [] o r) _) = true at transpiler
    change hasLoader _ (scriptList o (isKitRule [] o r) _) = true
    rw [kit] at transpiler ⊢
    exact hasLoader_scriptList transpiler
  · refine any_mono (sublist_scriptList _ _) ?_
    simp [StageEntry.loader]

theorem again_behind (plain : isKitRule [] o r = false) (bare : r.use = none)
    (takes : TakesScriptStage o chain) (kept : ¬GivesWay o chain) :
    mergeStep o format { r with loader := some (chain ++ '!' :: o.jsStage) } =
      { r with loader := some (chain ++ '!' :: o.jsStage) } ↔ '!' ∉ o.jsStage := by
  generalize made : ({ r with loader := some (chain ++ '!' :: o.jsStage) } : Rule) = q
  have named : q.loader = some (chain ++ '!' :: o.jsStage) := by rw [← made]
  have plain : isKitRule [] o q = false := by rw [← made]; exact plain
  have bare : q.use = none := by rw [← made]; exact bare
  have same : componentStep o format q = q :=
    componentStep_kept bare named ((givesWay_append o.jsStage).not.2 kept)
  rw [mergeStep_eq_self_iff bare named same, plain, takes_append takes]
  simp

theorem again_exchanged (bare : r.use = none) (named : r.loader = some chain)
    (gives : GivesWay o chain) (unlisted : ¬IsListed format r) :
    mergeStep o format (mergeStep o format r) = mergeStep o format r ↔
      (isKitRule [] o r = false → isTranspiler o.ownStage = true → '!' ∉ o.jsStage) := by
  have once : mergeStep o format r =
      scriptStep o format { r with loader := some o.componentChain } := by
    rw [mergeStep, componentStep_exchanged bare named gives unlisted]
  rw [once]
  generalize made : ({ r with loader := some o.componentChain } : Rule) = q
  have bare : q.use = none := by rw [← made]; exact bare
  have named : q.loader = some o.componentChain := by rw [← made]
  have unlisted : ¬IsListed format q := by rw [← made]; exact unlisted
  have kit : isKitRule [] o r = isKitRule [] o q := by rw [← made]; rfl
  have same := componentStep_own bare named unlisted
  rw [kit]
  cases plain : isKitRule [] o q with
  | true => simp [scriptStep_kit plain, mergeStep, same]
  | false =>
    by_cases takes : TakesScriptStage o o.componentChain
    · rw [scriptStep_behind plain bare named takes unlisted]
      rw [again_behind plain bare takes (not_givesWay_of_takes takes)]
      have transpiler : isTranspiler o.ownStage = true := takes.1
      simp [transpiler]
    · rw [scriptStep_kept bare named takes, mergeStep_eq_self_iff bare named same]
      refine iff_of_true (.inr takes) fun _ transpiler => ?_
      have present := not_not.1 fun absent => takes ⟨transpiler, absent⟩
      exact Text.not_mem_of_mem_splitOn present

theorem compiler_of_takes (takes : TakesScriptStage o chain) :
    isComponentCompiler chain = false := by
  cases compiler : isComponentCompiler chain with
  | false => rfl
  | true =>
    have first := isComponentCompiler_chainHead compiler
    rw [isComponentCompiler_of_transpiler takes.1] at first
    cases first

-- A transpiler's chain is no compiler's, so only the script stage can ask for the own stage.
theorem list_settles_iff (options : Option Json) (takes : TakesScriptStage o chain) (kit : Bool) :
    mergeList o kit [.stage chain options, .name o.jsStage] =
        [.stage chain options, .name o.jsStage] ↔
      ListSettles o [.stage chain options] := by
  have other := compiler_of_takes takes
  rw [mergeList_eq_self_iff fun _ _ => by simp [hasLoader, StageEntry.loader]]
  simp only [ListSettles, hasCompiler, hasLoader, StageEntry.loader, List.any_cons, List.any_nil,
    other, Bool.or_false, Bool.false_or, Bool.or_eq_true, beq_iff_eq, eq_comm (a := o.jsStage)]

theorem again_kept (bare : r.use = none) (named : r.loader = some chain)
    (kept : ¬GivesWay o chain) :
    mergeStep o format (mergeStep o format r) = mergeStep o format r ↔
      (isKitRule [] o r = false → TakesScriptStage o chain →
        if IsListed format r then ListSettles o [.stage chain r.options] else '!' ∉ o.jsStage) := by
  have same : componentStep o format r = r := componentStep_kept bare named kept
  have once : mergeStep o format r = scriptStep o format r := by rw [mergeStep, same]
  rw [once]
  cases plain : isKitRule [] o r with
  | true => simp [scriptStep_kit plain, mergeStep, same]
  | false =>
    by_cases takes : TakesScriptStage o chain
    · by_cases listed : IsListed format r
      · rw [scriptStep_listed plain bare named takes listed, mergeStep_list rfl, if_pos listed]
        rw [use_injective, list_settles_iff _ takes]
        simp [takes]
      · rw [scriptStep_behind plain bare named takes listed, if_neg listed]
        rw [again_behind plain bare takes kept]
        simp [takes]
    · rw [scriptStep_kept bare named takes, mergeStep_eq_self_iff bare named same]
      exact iff_of_true (.inr takes) fun _ taken => absurd taken takes

theorem mergeStep_mergeStep_iff :
    mergeStep o format (mergeStep o format r) = mergeStep o format r ↔
      (isKitRule [] o r = false → Settles o format r) := by
  unfold Settles
  cases bare : r.use with
  | some entries => exact again_list bare
  | none =>
    cases named : r.loader with
    | none => simp [mergeStep_unnamed bare named]
    | some chain =>
      dsimp only
      by_cases gives : GivesWay o chain
      · rw [if_pos gives]
        by_cases listed : IsListed format r
        · exact iff_of_true (again_listed bare named gives listed)
            fun _ other => absurd listed other
        · rw [again_exchanged bare named gives listed]
          exact imp_congr_right fun _ => ⟨fun short _ => short, fun short => short listed⟩
      · rw [if_neg gives]
        exact again_kept bare named gives

variable (o format) in
def IsKnown (r : Rule) : Prop :=
  match r.use, r.loader with
  | some entries, _ =>
    hasCompiler entries = true ∨ isKitRule [] o r = false ∧ hasTranspiler entries = true ∧
      isComponentCompiler o.jsStage = true
  | none, some chain =>
    if GivesWay o chain then
      if IsListed format r then
        isComponentCompiler o.ownStage = true ∨ isComponentCompiler chain = true ∨
          isKitRule [] o r = false ∧ isTranspiler o.ownStage = true ∧
            isComponentCompiler o.jsStage = true
      else '?' ∉ o.ownStage ∨ isComponentCompiler o.ownStage = true
    else if isKitRule [] o r = false ∧ TakesScriptStage o chain ∧ IsListed format r then
      isComponentCompiler o.jsStage = true
    else stageHead (chainHead chain) = o.ownStage
  | none, none => False

theorem stageHead_eq_self_iff {stage : Text} : stageHead stage = stage ↔ '?' ∉ stage := by
  rw [stageHead, List.takeWhile_eq_self_iff]
  constructor
  · intro all member
    simpa using all _ member
  · intro absent c member
    simpa using fun same : c = '?' => absent (same ▸ member)

theorem isForComponents_scriptStep (bare : r.use = none) (named : r.loader = some chain)
    (still : ¬(isKitRule [] o r = false ∧ TakesScriptStage o chain ∧ IsListed format r)) :
    isForComponents o format (scriptStep o format r) = true ↔
      stageHead (chainHead chain) = o.ownStage ∨ isComponentCompiler (chainHead chain) = true := by
  cases plain : isKitRule [] o r with
  | true => rw [scriptStep_kit plain, isForComponents_bare bare named]
  | false =>
    by_cases takes : TakesScriptStage o chain
    · have unlisted : ¬IsListed format r := fun listed => still ⟨plain, takes, listed⟩
      have found : isForComponents o format
          { r with loader := some (chain ++ '!' :: o.jsStage) } = true ↔ _ :=
        isForComponents_bare bare rfl
      rw [chainHead_append] at found
      rw [scriptStep_behind plain bare named takes unlisted]
      exact found
    · rw [scriptStep_kept bare named takes, isForComponents_bare bare named]

theorem known_listed (bare : r.use = none) (named : r.loader = some chain)
    (gives : GivesWay o chain) (listed : IsListed format r) :
    isForComponents o format (mergeStep o format r) = true ↔
      isComponentCompiler o.ownStage = true ∨ isComponentCompiler chain = true ∨
        isKitRule [] o r = false ∧ isTranspiler o.ownStage = true ∧
          isComponentCompiler o.jsStage = true := by
  have other : isTranspiler chain = false := by
    cases transpiler : isTranspiler chain with
    | false => rfl
    | true =>
      have first := isTranspiler_of_compiler gives.2.1
      rw [isTranspiler_chainHead transpiler] at first
      cases first
  rw [mergeStep, componentStep_listed bare named gives listed, scriptStep_list rfl,
    isForComponents_list rfl, hasCompiler_scriptList]
  change _ ∨ isKitRule [] o r = false ∧ _ ↔ _
  simp [hasCompiler, hasTranspiler, StageEntry.loader, other, or_assoc]

theorem known_iff (adapts : o.adaptsComponents = true) :
    isForComponents o format (mergeStep o format r) = true ↔ IsKnown o format r := by
  unfold IsKnown
  cases bare : r.use with
  | some entries =>
    rw [mergeStep_list bare, isForComponents_list rfl]
    exact hasCompiler_mergeList _ _
  | none =>
    cases named : r.loader with
    | none =>
      have nameless : r.head? = none := by rw [head?, named]; rfl
      rw [mergeStep_unnamed bare named]
      simp [isForComponents, forComponents?, bare, nameless]
    | some chain =>
      dsimp only
      by_cases gives : GivesWay o chain
      · rw [if_pos gives]
        by_cases listed : IsListed format r
        · rw [if_pos listed]
          exact known_listed bare named gives listed
        · have found : isForComponents o format (scriptStep o format
              { r with loader := some o.componentChain }) = true ↔ _ :=
            isForComponents_scriptStep bare rfl fun all => listed all.2.2
          rw [if_neg listed, mergeStep, componentStep_exchanged bare named gives listed,
            ← stageHead_eq_self_iff]
          exact found
      · rw [if_neg gives, mergeStep, componentStep_kept bare named gives]
        by_cases list : isKitRule [] o r = false ∧ TakesScriptStage o chain ∧ IsListed format r
        · obtain ⟨plain, takes, listed⟩ := list
          rw [if_pos ⟨plain, takes, listed⟩, scriptStep_listed plain bare named takes listed,
            isForComponents_list rfl]
          simp [hasCompiler, StageEntry.loader, compiler_of_takes takes]
        · rw [if_neg list, isForComponents_scriptStep bare named list]
          refine or_iff_left_of_imp fun compiler => ?_
          exact not_not.1 fun other => gives ⟨adapts, compiler, other⟩

end Rule
end ComponentLoader
