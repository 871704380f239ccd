import ComponentLoader.Proofs.Host.Frame
import ComponentLoader.Proofs.Host.History

namespace ComponentLoader

def StageEntry.options? : StageEntry → Option Json
  | name _ => none
  | stage _ options => options

namespace Rule

def values (r : Rule) : List Json := r.options.toList ++ r.entries.filterMap StageEntry.options?

variable {o : Options} {format : RuleFormat}

theorem options?_insertOwnStage (own : Text) (es : List StageEntry) :
    (insertOwnStage own es).filterMap StageEntry.options? = es.filterMap StageEntry.options? := by
  induction es with
  | nil => rfl
  | cons e es ih =>
    rw [insertOwnStage]
    split
    · rfl
    · rw [List.filterMap_cons, List.filterMap_cons, ih]

theorem options?_ownList (es : List StageEntry) :
    (ownList o es).filterMap StageEntry.options? = es.filterMap StageEntry.options? := by
  unfold ownList
  split
  · exact options?_insertOwnStage _ es
  · rfl

theorem options?_scriptList (kit : Bool) (es : List StageEntry) :
    (scriptList o kit es).filterMap StageEntry.options? = es.filterMap StageEntry.options? := by
  unfold scriptList
  split
  · rw [List.filterMap_append]
    exact List.append_nil _
  · rfl

theorem values_of_use {r : Rule} {es : List StageEntry} (listed : r.use = some es) :
    r.values = r.options.toList ++ es.filterMap StageEntry.options? := by
  rw [values, entries, listed]
  rfl

theorem values_of_bare {r : Rule} (bare : r.use = none) : r.values = r.options.toList := by
  rw [values, entries, bare]
  exact List.append_nil _

theorem values_componentStep (o : Options) (format : RuleFormat) (r : Rule) :
    (componentStep o format r).values = r.values := by
  cases bare : r.use with
  | some es =>
    rw [componentStep_list bare, values_of_use rfl, values_of_use bare, options?_ownList]
  | none =>
    cases named : r.loader with
    | none => rw [componentStep_unnamed bare named]
    | some chain =>
      by_cases gives : GivesWay o chain
      · by_cases listed : IsListed format r
        · rw [componentStep_listed bare named gives listed, values_of_use rfl, values_of_bare bare]
          cases r.options <;> rfl
        · rw [componentStep_exchanged bare named gives listed]
          rfl
      · rw [componentStep_kept bare named gives]

theorem values_scriptStep (o : Options) (format : RuleFormat) (r : Rule) :
    (scriptStep o format r).values = r.values := by
  cases kit : isKitRule [] o r with
  | true => rw [scriptStep_kit kit]
  | false =>
    cases bare : r.use with
    | some es =>
      rw [scriptStep_list bare, values_of_use rfl, values_of_use bare, options?_scriptList]
    | none =>
      cases named : r.loader with
      | none => rw [scriptStep_unnamed bare named]
      | some chain =>
        by_cases takes : TakesScriptStage o chain
        · by_cases listed : IsListed format r
          · rw [scriptStep_listed kit bare named takes listed, values_of_use rfl,
              values_of_bare bare]
            cases r.options <;> rfl
          · rw [scriptStep_behind kit bare named takes listed]
            rfl
        · rw [scriptStep_kept bare named takes]

theorem values_mergeStep (o : Options) (format : RuleFormat) (r : Rule) :
    (mergeStep o format r).values = r.values := by
  rw [mergeStep, values_scriptStep, values_componentStep]

theorem values_adaptAll (cwd : Text) (o : Options) (format : RuleFormat) (rules : List Rule) :
    (adaptAll cwd o format rules).flatMap values = rules.flatMap values := by
  have component : (withComponentRule o format rules).flatMap values = rules.flatMap values := by
    unfold withComponentRule
    split
    · rw [List.flatMap_append]
      exact List.append_nil _
    · rfl
  have merged : ((withComponentRule o format rules).map (mergeStep o format)).flatMap values =
      (withComponentRule o format rules).flatMap values := by
    rw [List.flatMap_map]
    exact List.flatMap_congr fun r _ => values_mergeStep o format r
  rw [adaptAll_eq, addKitRule_eq, List.flatMap_append, merged, component]
  split
  · exact List.append_nil _
  · exact List.append_nil _

end Rule

namespace Module

def values (m : Module) : List Json :=
  (m.rulesOf .modern).flatMap Rule.values ++ (m.rulesOf .legacy).flatMap Rule.values

theorem values_adapt (cwd : Text) (o : Options) (format : RuleFormat) (m : Module) :
    (m.adapt cwd o format).values = m.values := by
  have kept := Rule.values_adaptAll cwd o format (m.rulesOf format)
  cases format with
  | modern =>
    change (Rule.adaptAll cwd o .modern (m.rulesOf .modern)).flatMap Rule.values ++ _ = _
    rw [kept]
    rfl
  | legacy =>
    change _ ++ (Rule.adaptAll cwd o .legacy (m.rulesOf .legacy)).flatMap Rule.values = _
    rw [kept]
    rfl

end Module

-- The options that a host's rules have, after any run of merges.
theorem Host.values_run (h : Host) (calls : List MergeCall) :
    (h.run calls).2.module.values = h.module.values := by
  refine @run_invariant (fun _ host => host.module.values = h.module.values) ?_ h [] rfl calls
  intro done host call next same merged
  obtain ⟨s, built, rfl⟩ := eq_of_merge merged
  rw [(adopt_facts _ host _ s).2.1, Module.values_adapt, same]

end ComponentLoader
