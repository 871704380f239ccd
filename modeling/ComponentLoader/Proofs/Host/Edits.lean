import ComponentLoader.Proofs.Host.Settled

namespace ComponentLoader
namespace Rule

def entries (r : Rule) : List StageEntry := r.use.getD []

-- What a pass can make of a rule. Options leave a rule only for the list of stages, and only next
-- to the chain they were given for.
inductive Edited (format : RuleFormat) (r : Rule) : Rule → Prop
  | kept : Edited format r r
  | added {es es' : List StageEntry} : r.use = some es → es.Sublist es' →
    Edited format r { r with use := some es' }
  | exchanged (chain : Text) : r.use = none → ¬IsListed format r →
    Edited format r { r with loader := some chain }
  | moved {chain : Text} {es : List StageEntry} : r.use = none → r.loader = some chain →
    IsListed format r → .stage chain r.options ∈ es →
    Edited format r { r with loader := none, options := none, use := some es }

namespace Edited

variable {format : RuleFormat} {r r' : Rule}

-- Of the two passes at most one makes a list, and what one put into a list the other leaves there.
theorem trans {q : Rule} (first : Edited format r q) (second : Edited format q r') :
    Edited format r r' := by
  cases first with
  | kept => exact second
  | added listed sub =>
    cases second with
    | kept => exact .added listed sub
    | added again sub' =>
      cases again
      exact .added listed (sub.trans sub')
    | exchanged _ bare => cases bare
    | moved bare => cases bare
  | exchanged chain bare unlisted =>
    cases second with
    | kept => exact .exchanged chain bare unlisted
    | added again =>
      rw [bare] at again
      cases again
    | exchanged other => exact .exchanged other bare unlisted
    | moved _ _ listed => exact absurd listed unlisted
  | moved bare named listed member =>
    cases second with
    | kept => exact .moved bare named listed member
    | added again sub =>
      cases again
      exact .moved bare named listed (sub.subset member)
    | exchanged _ again => cases again
    | moved again => cases again

theorem test (edited : Edited format r r') : r'.test = r.test := by
  cases edited <;> rfl

theorem directory (edited : Edited format r r') : r'.directory = r.directory := by
  cases edited <;> rfl

theorem entries_sublist (edited : Edited format r r') : r.entries.Sublist r'.entries := by
  cases edited with
  | kept => exact .refl _
  | added listed sub =>
    rw [entries, listed]
    exact sub
  | exchanged => exact .refl _
  | moved bare =>
    rw [entries, bare]
    exact List.nil_sublist _

theorem options_kept (edited : Edited format r r') {value : Json} (given : r.options = some value) :
    r'.options = some value ∨
      ∃ chain, r.loader = some chain ∧ .stage chain (some value) ∈ r'.entries := by
  cases edited with
  | kept => exact .inl given
  | added => exact .inl given
  | exchanged => exact .inl given
  | moved _ named _ member => exact .inr ⟨_, named, given ▸ member⟩

end Edited

variable (o : Options) (format : RuleFormat) (r : Rule)

theorem edited_componentStep : Edited format r (componentStep o format r) := by
  cases bare : r.use with
  | some es =>
    rw [componentStep_list bare]
    exact .added bare (sublist_ownList es)
  | none =>
    cases named : r.loader with
    | none =>
      rw [componentStep_unnamed bare named]
      exact .kept
    | some chain =>
      by_cases gives : GivesWay o chain
      · by_cases listed : IsListed format r
        · rw [componentStep_listed bare named gives listed]
          exact .moved bare named listed (by simp)
        · rw [componentStep_exchanged bare named gives listed]
          exact .exchanged _ bare listed
      · rw [componentStep_kept bare named gives]
        exact .kept

theorem edited_scriptStep : Edited format r (scriptStep o format r) := by
  cases kit : isKitRule [] o r with
  | true =>
    rw [scriptStep_kit kit]
    exact .kept
  | false =>
    cases bare : r.use with
    | some es =>
      rw [scriptStep_list bare]
      exact .added bare (sublist_scriptList _ es)
    | none =>
      cases named : r.loader with
      | none =>
        rw [scriptStep_unnamed bare named]
        exact .kept
      | some chain =>
        by_cases takes : TakesScriptStage o chain
        · by_cases listed : IsListed format r
          · rw [scriptStep_listed kit bare named takes listed]
            exact .moved bare named listed (by simp)
          · rw [scriptStep_behind kit bare named takes listed]
            exact .exchanged _ bare listed
        · rw [scriptStep_kept bare named takes]
          exact .kept

theorem edited_mergeStep : Edited format r (mergeStep o format r) :=
  (edited_componentStep o format r).trans (edited_scriptStep o format _)

variable {o format r}

theorem test_mergeStep : (mergeStep o format r).test = r.test := (edited_mergeStep o format r).test

end Rule
end ComponentLoader
