import ComponentLoader.Proofs.Host.Handover
import ComponentLoader.Proofs.OrderedMap

namespace ComponentLoader
namespace Plugin

def done? : Plugin → Option Text
  | doneCallback callback => some callback
  | _ => none

def written? : Plugin → Option EmitFn
  | emitCallback callback => some callback
  | _ => none

def page? : Plugin → Option SourceFn
  | htmlCallback callback => some callback
  | _ => none

def dedupes? : Plugin → Option Unit
  | duplicateStyle => some ()
  | _ => none

end Plugin

namespace HostPlugin

def isOwn : HostPlugin → Bool
  | define _ | other _ => true
  | _ => false

theorem isOwn_of_made {p : HostPlugin} (made : p.isMadeByMerge = true) : p.isOwn = false := by
  cases p with
  | define constants => cases made
  | other name => cases made
  | _ => rfl

def done? : HostPlugin → Option (List Text)
  | buildDone ids => some ids
  | _ => none

theorem made_of_done? (p : HostPlugin) (found : p.done?.isSome = true) :
    p.isMadeByMerge = true := by
  cases p with
  | buildDone ids => rfl
  | _ => cases found

def written? : HostPlugin → Option EmitFn
  | emit callback => some callback
  | _ => none

def page? : HostPlugin → Option SourceFn
  | htmlBuild callback => some callback
  | _ => none

def dedupes? : HostPlugin → Option Unit
  | duplicateStyle => some ()
  | _ => none

-- One kind of plugin, as descriptors ask for it and as hosts hold it.
structure Kind (asks? : Plugin → Option α) (read? : HostPlugin → Option α) : Prop where
  made : ∀ p, (read? p).isSome = true → p.isMadeByMerge = true ∧ p.done? = none
  alike : ∀ p, (read? p).isSome = true → ∀ q, sameKind p q = (read? q).isSome
  asked : ∀ plugin, (ofPlugin? plugin).bind read? = asks? plugin

theorem kind_written? : Kind Plugin.written? written? where
  made p read := by
    cases p with
    | emit callback => exact ⟨rfl, rfl⟩
    | _ => cases read
  alike p read q := by
    cases p with
    | emit callback => cases q <;> rfl
    | _ => cases read
  asked plugin := by cases plugin <;> rfl

theorem kind_page? : Kind Plugin.page? page? where
  made p read := by
    cases p with
    | htmlBuild callback => exact ⟨rfl, rfl⟩
    | _ => cases read
  alike p read q := by
    cases p with
    | htmlBuild callback => cases q <;> rfl
    | _ => cases read
  asked plugin := by cases plugin <;> rfl

theorem kind_dedupes? : Kind Plugin.dedupes? dedupes? where
  made p read := by
    cases p with
    | duplicateStyle => exact ⟨rfl, rfl⟩
    | _ => cases read
  alike p read q := by
    cases p with
    | duplicateStyle => cases q <;> rfl
    | _ => cases read
  asked plugin := by cases plugin <;> rfl

theorem any_isSome_iff {read? : HostPlugin → Option α} {ps : List HostPlugin} :
    (ps.any fun p => (read? p).isSome) = true ↔ ps.filterMap read? ≠ [] := by
  rw [Ne, List.filterMap_eq_nil_iff, List.any_eq_true]
  simp [Option.isSome_iff_ne_none]

variable {asks? : Plugin → Option α} {read? : HostPlugin → Option α}

theorem filterMap_firsts (kind : Kind asks? read?) (done ps : List HostPlugin) :
    (firsts done ps).filterMap read? =
      if done.filterMap read? = [] then (ps.filterMap read?).head?.toList
      else done.filterMap read? := by
  induction ps generalizing done with
  | nil =>
    rw [firsts, List.filterMap_nil]
    split
    · next none_ => exact none_
    · rfl
  | cons p ps ih =>
    rw [firsts, ih]
    cases here : read? p with
    | none =>
      have same : (if done.any (sameKind p) then done else done ++ [p]).filterMap read? =
          done.filterMap read? := by
        split
        · rfl
        · simp [here]
      rw [same, List.filterMap_cons_none here]
    | some x =>
      have alike : done.any (sameKind p) = done.any fun q => (read? q).isSome := by
        congr 1
        funext q
        exact kind.alike p (by rw [here]; rfl) q
      rw [alike, List.filterMap_cons_some here]
      by_cases none_ : done.filterMap read? = []
      · have absent : ¬(done.any fun q => (read? q).isSome) = true := by
          rw [any_isSome_iff, not_not]
          exact none_
        rw [if_neg absent, if_pos none_]
        simp [none_, here]
      · rw [if_pos (any_isSome_iff.2 none_), if_neg none_, if_neg none_]

theorem done?_firsts (ps : List HostPlugin) (none_ : ∀ p ∈ ps, p.done? = none) :
    (firsts [] ps).filterMap done? = [] := by
  refine List.filterMap_eq_nil_iff.2 fun p member => ?_
  rcases mem_of_mem_firsts member with nothing | asked
  · cases nothing
  · exact none_ p asked

theorem done?_of_ofPlugin? {plugin : Plugin} {p : HostPlugin} (asked : ofPlugin? plugin = some p) :
    p.done? = none := by
  unfold ofPlugin? at asked
  split at asked <;> cases asked <;> rfl

variable (active : List Descriptor)

def askedOf (asks? : Plugin → Option α) : List α := active.filterMap fun d => asks? d.plugin

theorem filterMap_ofActive (kind : Kind asks? read?) :
    (ofActive active).filterMap read? = (askedOf active asks?).head?.toList := by
  have done : (if active.filterMap (fun d => callback? d.plugin) = [] then []
      else [buildDone (active.filterMap fun d => callback? d.plugin)]).filterMap read? = [] := by
    refine List.filterMap_eq_nil_iff.2 fun p member => ?_
    split at member
    · cases member
    · cases here : read? p with
      | none => rfl
      | some x =>
        have other := (kind.made p (by rw [here]; rfl)).2
        rw [List.mem_singleton.1 member] at other
        cases other
  unfold ofActive
  dsimp only
  rw [List.filterMap_append, done, List.nil_append, filterMap_firsts kind, if_pos List.filterMap_nil,
    List.filterMap_filterMap]
  simp only [kind.asked]
  rfl

theorem callback?_eq : callback? = Plugin.done? := by
  funext plugin
  cases plugin <;> rfl

theorem done?_ofActive : (ofActive active).filterMap done? =
    if askedOf active Plugin.done? = [] then [] else [askedOf active Plugin.done?] := by
  have others : (firsts [] (active.filterMap fun d => ofPlugin? d.plugin)).filterMap done? = [] := by
    refine done?_firsts _ fun p member => ?_
    obtain ⟨d, -, asks⟩ := List.mem_filterMap.1 member
    exact done?_of_ofPlugin? asks
  unfold ofActive askedOf
  dsimp only
  rw [List.filterMap_append, others, List.append_nil, callback?_eq]
  split <;> rfl

theorem filterMap_of_made {read? : HostPlugin → Option α} {ps : List HostPlugin}
    (made : ∀ p, (read? p).isSome = true → p.isMadeByMerge = true) :
    (ps.filter isMadeByMerge).filterMap read? = ps.filterMap read? := by
  rw [List.filterMap_filter]
  congr 1
  funext p
  split
  · rfl
  · next absent =>
    cases here : read? p with
    | none => rfl
    | some x => exact absurd (made p (by rw [here]; rfl)) absent

end HostPlugin

namespace Host

def own (h : Host) : List HostPlugin := h.plugins.filter HostPlugin.isOwn

def made (h : Host) : List HostPlugin := h.plugins.filter HostPlugin.isMadeByMerge

def lacking (h : Host) (constants : List (Text × Json)) : List HostPlugin :=
  match constants.filter fun c => !h.isDefined c.1 with
  | [] => []
  | missing => [.define (.ofList missing)]

theorem plugins_define (h : Host) (constants : List (Text × Json)) :
    (h.define constants).plugins = h.plugins ++ h.lacking constants := by
  unfold define lacking
  cases constants.filter fun c => !h.isDefined c.1 with
  | nil => exact (List.append_nil _).symm
  | cons c cs => rfl

theorem filter_exchange {p : HostPlugin → Bool} (other : ∀ s, p (.loaderOptions s) = false)
    (s : Settings) (ps : List HostPlugin) : (exchange s ps).filter p = ps.filter p := by
  induction ps with
  | nil => rfl
  | cons q ps ih =>
    rw [exchange]
    cases q with
    | loaderOptions t => simp [HostPlugin.settings?, other]
    | _ => simp [HostPlugin.settings?, List.filter_cons, ih]

theorem filter_handOver {p : HostPlugin → Bool} (other : ∀ s, p (.loaderOptions s) = false)
    (h : Host) (s : Settings) (format : RuleFormat) :
    (h.handOver s format).plugins.filter p = h.plugins.filter p := by
  unfold handOver
  cases format with
  | legacy => rfl
  | modern =>
    dsimp only
    split
    · exact filter_exchange other s h.plugins
    · simp [other]

theorem own_exchangeMade (h : Host) (active : List Descriptor) :
    (h.exchangeMade (HostPlugin.ofActive active)).own = h.own := by
  have none_ : (HostPlugin.ofActive active).filter HostPlugin.isOwn = [] := by
    refine List.filter_eq_nil_iff.2 fun p member own => ?_
    rw [HostPlugin.isOwn_of_made (HostPlugin.isMadeByMerge_of_mem_ofActive member)] at own
    cases own
  have kept : (h.plugins.filter (!·.isMadeByMerge)).filter HostPlugin.isOwn = h.own := by
    rw [List.filter_filter, own]
    congr 1
    funext p
    cases p <;> rfl
  rw [own, exchangeMade, List.filter_append, none_, kept, List.append_nil]

theorem made_exchangeMade (h : Host) (active : List Descriptor) :
    (h.exchangeMade (HostPlugin.ofActive active)).made = HostPlugin.ofActive active := by
  have all : (HostPlugin.ofActive active).filter HostPlugin.isMadeByMerge =
      HostPlugin.ofActive active :=
    List.filter_eq_self.2 fun p member => HostPlugin.isMadeByMerge_of_mem_ofActive member
  have none_ : (h.plugins.filter (!·.isMadeByMerge)).filter HostPlugin.isMadeByMerge = [] := by
    simp [List.filter_filter]
  rw [made, exchangeMade, List.filter_append, all, none_, List.nil_append]

theorem own_define (h : Host) (constants : List (Text × Json)) :
    (h.define constants).own = h.own ++ h.lacking constants := by
  have kept : (h.lacking constants).filter HostPlugin.isOwn = h.lacking constants := by
    unfold lacking
    split <;> rfl
  rw [own, plugins_define, List.filter_append, kept]
  rfl

theorem plugins_adopt (cwd : Text) (h : Host) (accumulated : List Descriptor) (s : Settings) :
    (h.adopt cwd accumulated s).own = h.own ++ h.lacking s.constants ∧
      (h.adopt cwd accumulated s).made = HostPlugin.ofActive s.plugins := by
  unfold adopt
  dsimp only
  constructor
  · rw [own, filter_handOver fun _ => rfl]
    exact (own_exchangeMade ..).trans (own_define ..)
  · rw [made, filter_handOver fun _ => rfl]
    exact made_exchangeMade ..

def Defines (ps : List HostPlugin) (name : Text) : Prop :=
  ∃ constants, HostPlugin.define constants ∈ ps ∧ name ∈ constants.keys

theorem any_defines_iff {ps : List HostPlugin} {name : Text} :
    ps.any (·.defines name) = true ↔ Defines ps name := by
  rw [List.any_eq_true]
  constructor
  · rintro ⟨p, member, defines⟩
    cases p with
    | define constants => exact ⟨constants, member, OrderedMap.mem_keys_iff.2 defines⟩
    | _ => cases defines
  · rintro ⟨constants, member, key⟩
    exact ⟨_, member, OrderedMap.mem_keys_iff.1 key⟩

theorem isDefined_iff {h : Host} {name : Text} :
    h.isDefined name = true ↔ Defines h.plugins name := any_defines_iff

theorem defines_own {h : Host} {name : Text} : Defines h.own name ↔ Defines h.plugins name := by
  simp [Defines, own, HostPlugin.isOwn]

theorem defines_append {ps qs : List HostPlugin} {name : Text} :
    Defines (ps ++ qs) name ↔ Defines ps name ∨ Defines qs name := by
  simp only [Defines, List.mem_append, or_and_right, exists_or]

def needed : List Text := ["__VUX_LOCALE__".toList, "__VUX_SSR__".toList]

theorem fst_constants (s : Settings) : s.constants.map Prod.fst = needed := rfl

theorem lacking_of_supplied {h : Host} (supplied : ∀ name ∈ needed, Defines h.plugins name)
    (s : Settings) : h.lacking s.constants = [] := by
  have none_ : (s.constants.filter fun c => !h.isDefined c.1) = [] := by
    refine List.filter_eq_nil_iff.2 fun c member => ?_
    rw [isDefined_iff.2 (supplied c.1 (fst_constants s ▸ List.mem_map_of_mem member))]
    decide
  rw [lacking, none_]

-- The constants that a host is given: those that a build needs and it does not define, in one
-- plugin.
structure Supplies (h : Host) (added : List HostPlugin) : Prop where
  one : added.length ≤ 1
  constants : ∀ p ∈ added, ∃ constants, p = .define constants
  missing : ∀ name, Defines added name ↔ ¬Defines h.plugins name ∧ name ∈ needed

theorem supplies_lacking (h : Host) (s : Settings) : h.Supplies (h.lacking s.constants) := by
  have found (name : Text) : (∃ c ∈ s.constants.filter (fun c => !h.isDefined c.1), c.1 = name) ↔
      ¬Defines h.plugins name ∧ name ∈ needed := by
    rw [← isDefined_iff, ← fst_constants s]
    constructor
    · rintro ⟨c, member, rfl⟩
      obtain ⟨listed, absent⟩ := List.mem_filter.1 member
      exact ⟨by simpa using absent, List.mem_map_of_mem listed⟩
    · rintro ⟨absent, listed⟩
      obtain ⟨c, member, rfl⟩ := List.mem_map.1 listed
      exact ⟨c, List.mem_filter.2 ⟨member, by simpa using absent⟩, rfl⟩
  unfold lacking
  cases missing : s.constants.filter fun c => !h.isDefined c.1 with
  | nil =>
    refine ⟨Nat.zero_le 1, fun p member => absurd member List.not_mem_nil, fun name => ?_⟩
    rw [← found name, missing]
    simp [Defines]
  | cons c cs =>
    refine ⟨Nat.le_refl 1, fun p member => ⟨_, List.mem_singleton.1 member⟩, fun name => ?_⟩
    rw [← found name, missing, ← OrderedMap.contains_ofList, ← OrderedMap.mem_keys_iff]
    simp [Defines]

theorem supplied_adopt (cwd : Text) (h : Host) (accumulated : List Descriptor) (s : Settings) :
    ∀ name ∈ needed, Defines (h.adopt cwd accumulated s).plugins name := by
  intro name asked
  rw [← defines_own, (plugins_adopt ..).1, defines_append, defines_own]
  by_cases present : Defines h.plugins name
  · exact .inl present
  · exact .inr (((h.supplies_lacking s).missing name).2 ⟨present, asked⟩)

def activeAfter (h : Host) (done : List MergeCall) (last : MergeCall) : List Descriptor :=
  (Descriptor.putAll h.mergedPlugins (done.flatMap (·.plugins))).filter
    (·.isActiveIn last.options.env)

structure HasHooks (h : Host) (active : List Descriptor) : Prop where
  done : h.plugins.filterMap HostPlugin.done? =
    if HostPlugin.askedOf active Plugin.done? = [] then []
    else [HostPlugin.askedOf active Plugin.done?]
  called : h.buildDone = HostPlugin.askedOf active Plugin.done?
  written : h.plugins.filterMap HostPlugin.written? =
    (HostPlugin.askedOf active Plugin.written?).head?.toList
  page : h.plugins.filterMap HostPlugin.page? =
    (HostPlugin.askedOf active Plugin.page?).head?.toList
  dedupes : h.plugins.filterMap HostPlugin.dedupes? =
    (HostPlugin.askedOf active Plugin.dedupes?).head?.toList

theorem buildDone_eq (h : Host) :
    h.buildDone = (h.plugins.filterMap HostPlugin.done?).flatten := by
  unfold buildDone
  induction h.plugins with
  | nil => rfl
  | cons p ps ih =>
    rw [List.flatMap_cons, ih]
    cases p <;> rfl

theorem hasHooks_of_made {h : Host} {active : List Descriptor}
    (made : h.made = HostPlugin.ofActive active) : h.HasHooks active := by
  have read {α : Type} {asks? : Plugin → Option α} {read? : HostPlugin → Option α}
      (kind : HostPlugin.Kind asks? read?) :
      h.plugins.filterMap read? = (HostPlugin.askedOf active asks?).head?.toList := by
    rw [← HostPlugin.filterMap_of_made fun p found => (kind.made p found).1, ← Host.made, made]
    exact HostPlugin.filterMap_ofActive active kind
  have done : h.plugins.filterMap HostPlugin.done? =
      if HostPlugin.askedOf active Plugin.done? = [] then []
      else [HostPlugin.askedOf active Plugin.done?] := by
    rw [← HostPlugin.filterMap_of_made HostPlugin.made_of_done?, ← Host.made, made]
    exact HostPlugin.done?_ofActive active
  refine ⟨done, ?_, read HostPlugin.kind_written?, read HostPlugin.kind_page?,
    read HostPlugin.kind_dedupes?⟩
  rw [buildDone_eq, done]
  split
  · next none_ => rw [none_, List.flatten_nil]
  · exact List.flatten_singleton

-- What the calls that succeeded have left of the plugins of the host that the run began with.
inductive Maintained (start : Host) : List MergeCall → Host → Prop where
  | fresh : Maintained start [] start
  | merged (accumulated : after.mergedPlugins =
        Descriptor.putAll start.mergedPlugins ((done ++ [last]).flatMap (·.plugins)))
      (supplied : ∀ name ∈ needed, Defines after.plugins name)
      (own : ∃ added, after.own = start.own ++ added ∧ start.Supplies added)
      (made : after.made = HostPlugin.ofActive (start.activeAfter (done ++ [last]) last)) :
      Maintained start (done ++ [last]) after

theorem Maintained.accumulated {start after : Host} {done : List MergeCall}
    (maintained : Maintained start done after) : after.mergedPlugins =
      Descriptor.putAll start.mergedPlugins (done.flatMap (·.plugins)) := by
  cases maintained with
  | fresh => rfl
  | merged accumulated => exact accumulated

-- Only the first merge adds constants.
theorem Maintained.supplies {start after : Host} {done : List MergeCall}
    (maintained : Maintained start done after) (s : Settings) :
    ∃ added, after.own ++ after.lacking s.constants = start.own ++ added ∧
      start.Supplies added := by
  cases maintained with
  | fresh => exact ⟨_, rfl, start.supplies_lacking s⟩
  | merged _ supplied own =>
    rw [lacking_of_supplied supplied, List.append_nil]
    exact own

theorem Maintained.step {start after next : Host} {done : List MergeCall} {call : MergeCall}
    (maintained : Maintained start done after)
    (merged : after.merge call.files call.options call.plugins = .ok next) :
    Maintained start (done ++ [call]) next := by
  obtain ⟨s, built, rfl⟩ := eq_of_merge merged
  have accumulated : Descriptor.putAll after.mergedPlugins call.plugins =
      Descriptor.putAll start.mergedPlugins ((done ++ [call]).flatMap (·.plugins)) := by
    rw [maintained.accumulated, ← Descriptor.putAll_append]
    simp
  obtain ⟨-, active⟩ := Settings.eq_of_build built
  obtain ⟨own, made⟩ := plugins_adopt call.files.cwdPath after
    (Descriptor.putAll after.mergedPlugins call.plugins) s
  refine .merged ?_ (supplied_adopt _ _ _ s) ?_ ?_
  · rw [mergedPlugins, (adopt_facts ..).1]
    exact accumulated
  · rw [own]
    exact maintained.supplies s
  · rw [made, active, activeAfter, accumulated]

def handsSettings : HostPlugin → Bool
  | .loaderOptions _ => true
  | _ => false

theorem length_held (h : Host) : (h.plugins.filter handsSettings).length = h.held.length := by
  unfold held
  induction h.plugins with
  | nil => rfl
  | cons p ps ih =>
    rw [List.filter_cons, List.filterMap_cons]
    cases p with
    | loaderOptions settings => exact congrArg (· + 1) ih
    | _ => exact ih

-- What the calls leave of a host's plugins: its own as they were and at most one more for
-- constants, the hooks that the last call's active descriptors ask for and no others, and no second
-- place for settings if it came with none.
structure Keeps (start : Host) (done : List MergeCall) (after : Host) : Prop where
  own : ∃ added, after.own = start.own ++ added ∧ start.Supplies added
  supplied : ∀ name ∈ needed, Defines after.plugins name
  hooks : ∃ earlier last, done = earlier ++ [last] ∧
    after.HasHooks (start.activeAfter done last)
  settings : start.plugins.filter handsSettings = [] →
    (after.plugins.filter handsSettings).length ≤ 1

theorem keeps_run {h : Host} {calls : List MergeCall} (some_ : (h.run calls).1 ≠ []) :
    h.Keeps (h.run calls).1 (h.run calls).2 := by
  have maintained := run_invariant (Maintained h) Maintained.step .fresh calls
  have held := held_run h calls
  rw [List.nil_append] at maintained
  generalize (h.run calls).2 = after at maintained held ⊢
  generalize (h.run calls).1 = done at maintained some_ ⊢
  cases maintained with
  | fresh => exact absurd rfl some_
  | @merged done last _ accumulated supplied own made =>
    refine ⟨own, supplied, ⟨done, last, rfl, hasHooks_of_made made⟩, fun none_ => ?_⟩
    rw [← List.length_eq_zero_iff, length_held, List.length_eq_zero_iff] at none_
    rw [length_held, held, none_, heldAfter]
    split
    · exact Nat.le_refl 1
    · exact Nat.zero_le 1

-- The plugin for production goes with the environment, and the callback of the host's own with the
-- first merge; the call that fails leaves nothing.
theorem keeps_run_changed_environment :
    let files := FileTree.ofDirectory []
    let report : Descriptor := { name := "report".toList, plugin := .doneCallback "report".toList }
    let notify : Descriptor := { name := "notify".toList, plugin := .doneCallback "notify".toList }
    let pack : Descriptor :=
      { name := "pack".toList
        plugin := .emitCallback fun assets => assets.insert "a.css".toList []
        envs := ["production".toList] }
    let mark : Descriptor := { name := "mark".toList, plugin := .htmlCallback (· ++ ['!']) }
    let h : Host := { plugins := [.buildDone ["old".toList], .other "host".toList,
      .define (.ofList [(Settings.ssrConstant, .bool true)])] }
    let first : MergeCall := ⟨files, { env := some "production".toList }, [pack, report]⟩
    let calls : List MergeCall := [first, ⟨files, {}, [mark, mark]⟩,
      ⟨files, { modernRules := some false }, [notify, mark]⟩]
    ((h.run [first]).1 ≠ [] ∧ h.Keeps (h.run [first]).1 (h.run [first]).2 ∧
      (h.run [first]).2.buildDone = ["report".toList] ∧
      ((h.run [first]).2.emit .empty).keys = ["a.css".toList] ∧
      (h.run [first]).2.html ['p'] = ['p']) ∧
      (h.run calls).1 ≠ [] ∧ h.Keeps (h.run calls).1 (h.run calls).2 ∧
      (h.run calls).2.buildDone = ["report".toList, "notify".toList] ∧
      ((h.run calls).2.emit .empty).keys = [] ∧ (h.run calls).2.html ['p'] = ['p', '!'] ∧
      (h.run calls).2.plugins.map HostPlugin.done? =
        [none, none, none, none, some ["report".toList, "notify".toList], none] := by
  intro files report notify pack mark h first calls
  have some_ : (h.run [first]).1 ≠ [] := List.cons_ne_nil _ _
  have more : (h.run calls).1 ≠ [] := List.cons_ne_nil _ _
  exact ⟨⟨some_, keeps_run some_, by decide, by decide, by decide⟩,
    more, keeps_run more, by decide, by decide, by decide,
    by decide⟩

end Host
end ComponentLoader
