import ComponentLoader.Proofs.Host.History

namespace ComponentLoader
namespace HostPlugin

theorem settings?_of_made {p : HostPlugin} (made : p.isMadeByMerge = true) :
    p.settings? = none := by
  cases p with
  | loaderOptions s => cases made
  | _ => rfl

theorem isMadeByMerge_of_ofPlugin? {plugin : Plugin} {p : HostPlugin}
    (asked : ofPlugin? plugin = some p) : p.isMadeByMerge = true := by
  unfold ofPlugin? at asked
  split at asked <;> cases asked <;> rfl

theorem mem_of_mem_firsts {p : HostPlugin} {done ps : List HostPlugin}
    (member : p ∈ firsts done ps) : p ∈ done ∨ p ∈ ps := by
  induction ps generalizing done with
  | nil => exact .inl member
  | cons q ps ih =>
    rw [firsts] at member
    rcases ih member with inside | later
    · split at inside
      · exact .inl inside
      · rcases List.mem_append.1 inside with old | new
        · exact .inl old
        · exact .inr (List.mem_cons.2 (.inl (List.mem_singleton.1 new)))
    · exact .inr (List.mem_cons_of_mem _ later)

theorem isMadeByMerge_of_mem_ofActive {p : HostPlugin} {active : List Descriptor}
    (member : p ∈ ofActive active) : p.isMadeByMerge = true := by
  unfold ofActive at member
  rcases List.mem_append.1 member with done | first
  · split at done
    · cases done
    · rw [List.mem_singleton.1 done]
      rfl
  · rcases mem_of_mem_firsts first with none_ | asked
    · cases none_
    · obtain ⟨d, -, asks⟩ := List.mem_filterMap.1 asked
      exact isMadeByMerge_of_ofPlugin? asks

end HostPlugin

structure Handover where
  format : RuleFormat
  settings : Settings

namespace Host

-- The settings that plugins hold, in the order of the plugins.
def held (h : Host) : List Settings := h.plugins.filterMap HostPlugin.settings?

def built (h : Host) (call : MergeCall) : Except LoadError Settings :=
  Settings.build call.files call.options
    ((Descriptor.putAll h.mergedPlugins call.plugins).filter (·.isActiveIn call.options.env))

def handovers : Host → List MergeCall → List Handover
  | _, [] => []
  | h, call :: calls =>
    match h.merge call.files call.options call.plugins, h.built call with
    | .ok next, .ok s => ⟨h.module.format call.options.modernRules, s⟩ :: next.handovers calls
    | _, _ => h.handovers calls

-- Plugins hold the last settings handed over in the modern format in the first place that they
-- have for settings; the other places stay.
def heldAfter (held : List Settings) (done : List Handover) : List Settings :=
  match (done.filter (·.format = .modern)).getLast? with
  | some last => last.settings :: held.tail
  | none => held

def shadow? (held : List Settings) (done : List Handover) : RuleFormat → Option Settings
  | .modern => held.tail.getLast?
  | .legacy => (heldAfter held done).getLast?

theorem settings?_eq (h : Host) : h.settings? = h.held.getLast?.or h.ownSettings := by
  have last : h.plugins.reverse.findSome? HostPlugin.settings? = h.held.getLast? := by
    rw [held, ← List.head?_reverse, ← List.filterMap_reverse, List.head?_filterMap]
  rw [settings?, last]

theorem held_exchange (s : Settings) {ps : List HostPlugin}
    (present : ps.any (·.settings?.isSome) = true) :
    (exchange s ps).filterMap HostPlugin.settings? =
      s :: (ps.filterMap HostPlugin.settings?).tail := by
  induction ps with
  | nil => cases present
  | cons p ps ih =>
    rw [exchange]
    cases here : p.settings? with
    | some t =>
      rw [Option.isSome_some, if_pos rfl, List.filterMap_cons_some here]
      rfl
    | none =>
      rw [List.any_cons, here] at present
      rw [if_neg (by decide), List.filterMap_cons_none here, List.filterMap_cons_none here]
      exact ih present

theorem held_eq_nil {h : Host} (absent : h.hasLoaderOptions = false) : h.held = [] := by
  refine List.filterMap_eq_nil_iff.2 fun p member => ?_
  simpa using List.any_eq_false.1 absent p member

theorem held_handOver (h : Host) (s : Settings) (format : RuleFormat) :
    (h.handOver s format).held =
      match format with
      | .modern => s :: h.held.tail
      | .legacy => h.held := by
  cases format with
  | legacy => rfl
  | modern =>
    unfold handOver
    cases present : h.hasLoaderOptions with
    | true => exact held_exchange s present
    | false =>
      have none_ := held_eq_nil present
      unfold held at none_ ⊢
      simp [List.filterMap_append, none_, HostPlugin.settings?]

theorem held_define (h : Host) (constants : List (Text × Json)) :
    (h.define constants).held = h.held := by
  unfold define
  split
  · rfl
  · simp [held, List.filterMap_append, HostPlugin.settings?]

theorem held_exchangeMade (h : Host) (active : List Descriptor) :
    (h.exchangeMade (HostPlugin.ofActive active)).held = h.held := by
  have made : (HostPlugin.ofActive active).filterMap HostPlugin.settings? = [] := by
    refine List.filterMap_eq_nil_iff.2 fun p member => ?_
    exact HostPlugin.settings?_of_made (HostPlugin.isMadeByMerge_of_mem_ofActive member)
  have kept : (h.plugins.filter (!·.isMadeByMerge)).filterMap HostPlugin.settings? = h.held := by
    rw [List.filterMap_filter, held]
    congr 1
    funext p
    cases gone : p.isMadeByMerge with
    | true =>
      rw [HostPlugin.settings?_of_made gone]
      rfl
    | false => rfl
  rw [held, exchangeMade, List.filterMap_append, made, kept, List.append_nil]

theorem held_adopt (cwd : Text) (h : Host) (accumulated : List Descriptor) (s : Settings) :
    (h.adopt cwd accumulated s).held =
      match h.module.format s.options.modernRules with
      | .modern => s :: h.held.tail
      | .legacy => h.held := by
  unfold adopt
  dsimp only
  rw [held_handOver, held_exchangeMade, held_define]
  rfl

theorem built_of_merge {h next : Host} {call : MergeCall}
    (merged : h.merge call.files call.options call.plugins = .ok next) :
    ∃ s, h.built call = .ok s ∧ s.options = call.options ∧
      next = h.adopt call.files.cwdPath (Descriptor.putAll h.mergedPlugins call.plugins) s := by
  obtain ⟨s, built, rfl⟩ := eq_of_merge merged
  exact ⟨s, built, (Settings.eq_of_build built).1, rfl⟩

theorem heldAfter_cons (held : List Settings) (first : Handover) (done : List Handover) :
    heldAfter held (first :: done) =
      heldAfter (match first.format with
        | .modern => first.settings :: held.tail
        | .legacy => held) done := by
  obtain ⟨format, s⟩ := first
  cases format with
  | legacy => rfl
  | modern =>
    unfold heldAfter
    rw [List.filter_cons_of_pos rfl, List.getLast?_cons]
    cases (done.filter (·.format = .modern)).getLast? <;> rfl

theorem held_run (h : Host) (calls : List MergeCall) :
    (h.run calls).2.held = heldAfter h.held (h.handovers calls) := by
  induction calls generalizing h with
  | nil => rfl
  | cons call calls ih =>
    rw [run, handovers]
    cases merged : h.merge call.files call.options call.plugins with
    | error e => exact ih h
    | ok next =>
      obtain ⟨s, built, options, rfl⟩ := built_of_merge merged
      rw [built]
      dsimp only
      rw [ih, held_adopt, heldAfter_cons, options]

theorem tail_heldAfter (held : List Settings) (done : List Handover) :
    (heldAfter held done).tail = held.tail := by
  unfold heldAfter
  split <;> rfl

theorem settings?_adopt_iff (cwd : Text) (h : Host) (accumulated : List Descriptor) (s : Settings) :
    (h.adopt cwd accumulated s).settings? = some s ↔
      ∀ t, shadow? h.held [] (h.module.format s.options.modernRules) = some t → t = s := by
  have handed := (adopt_facts cwd h accumulated s).2.2
  rw [settings?_eq, held_adopt]
  cases format : h.module.format s.options.modernRules with
  | modern =>
    rw [List.getLast?_cons, Option.some_or, shadow?]
    cases h.held.tail.getLast? <;> simp
  | legacy =>
    rw [format] at handed
    change (h.adopt cwd accumulated s).ownSettings = some s at handed
    rw [handed, shadow?]
    change h.held.getLast?.or _ = _ ↔ ∀ t, h.held.getLast? = some t → t = s
    cases h.held.getLast? <;> simp

-- In every run, a call that succeeds hands its settings to the loaders exactly when nothing shadows
-- them: no plugin behind the first one with settings, and in the legacy format not that one either,
-- holds others.
theorem settings?_merge_iff {h next : Host} {earlier : List MergeCall} {call : MergeCall}
    (merged : (h.run earlier).2.merge call.files call.options call.plugins = .ok next) :
    ∃ s, (h.run earlier).2.built call = .ok s ∧
      (next.settings? = some s ↔
        ∀ t, shadow? h.held (h.handovers earlier)
          ((h.run earlier).2.module.format call.options.modernRules) = some t → t = s) := by
  obtain ⟨s, built, options, rfl⟩ := built_of_merge merged
  refine ⟨s, built, ?_⟩
  have same : ∀ format, shadow? (h.run earlier).2.held [] format =
      shadow? h.held (h.handovers earlier) format := by
    intro format
    rw [held_run]
    cases format with
    | modern => exact congrArg List.getLast? (tail_heldAfter ..)
    | legacy => rfl
  rw [settings?_adopt_iff, options, same]

theorem settings?_merge_iff_changed_format :
    let files := FileTree.ofDirectory []
    let style : Descriptor := { name := "style".toList, plugin := .duplicateStyle }
    let handed : HostPlugin := .loaderOptions { options := {}, plugins := [] }
    let h : Host := { module := { loaders := some [] }, plugins := [handed] }
    let earlier : List MergeCall := [⟨files, { modernRules := some true }, [style]⟩]
    let call : MergeCall := ⟨files, { env := some "production".toList }, []⟩
    ∃ next, (h.run earlier).2.merge call.files call.options call.plugins = .ok next ∧
      ∃ s, (h.run earlier).2.built call = .ok s ∧
        (next.settings? = some s ↔
          ∀ t, shadow? h.held (h.handovers earlier)
            ((h.run earlier).2.module.format call.options.modernRules) = some t → t = s) := by
  intro files style handed h earlier call
  have merged : (h.run earlier).2.merge call.files call.options call.plugins = .ok _ := rfl
  exact ⟨_, merged, settings?_merge_iff merged⟩

-- A merge in the legacy format leaves the plugin with the settings of the modern one before it, and
-- the loaders look there first.
theorem legacy_settings_shadowed :
    let files := FileTree.ofDirectory []
    let style : Descriptor := { name := "duplicate-style".toList, plugin := .duplicateStyle }
    let call : MergeCall := ⟨files, { modernRules := some false }, [style]⟩
    ∃ h₁ h₂ s, Host.merge files {} { modernRules := some true } [] = .ok h₁ ∧
      h₁.merge call.files call.options call.plugins = .ok h₂ ∧ h₁.built call = .ok s ∧
      h₂.settings? ≠ some s := by
  intro files style call
  refine ⟨_, _, _, rfl, rfl, rfl, fun same => ?_⟩
  have plugins := congrArg (Option.map (·.plugins.length)) same
  revert plugins
  decide

theorem settings?_merge_of_order {h next : Host} {earlier : List MergeCall} {call : MergeCall}
    (fresh : h.held = [])
    (order : (h.run earlier).2.module.format call.options.modernRules = .legacy →
      ∀ e ∈ h.handovers earlier, e.format = .legacy)
    (merged : (h.run earlier).2.merge call.files call.options call.plugins = .ok next) :
    ∃ s, (h.run earlier).2.built call = .ok s ∧ next.settings? = some s := by
  obtain ⟨s, built, options, rfl⟩ := built_of_merge merged
  have held : (h.run earlier).2.held = heldAfter [] (h.handovers earlier) := by
    rw [held_run, fresh]
  refine ⟨s, built, (settings?_adopt_iff ..).2 fun t found => ?_⟩
  rw [options] at found
  cases format : (h.run earlier).2.module.format call.options.modernRules with
  | modern =>
    rw [format, shadow?, held, tail_heldAfter] at found
    cases found
  | legacy =>
    have none_ : (h.handovers earlier).filter (·.format = .modern) = [] := by
      refine List.filter_eq_nil_iff.2 fun e member => ?_
      rw [order format e member]
      decide
    have empty : (h.run earlier).2.held = [] := by
      rw [held, heldAfter, none_]
      rfl
    rw [format, shadow?, empty] at found
    cases found

end Host
end ComponentLoader
