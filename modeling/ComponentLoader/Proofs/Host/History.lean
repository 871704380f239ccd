import ComponentLoader.Proofs.Host.Descriptors

namespace ComponentLoader

theorem Settings.eq_of_build {files : FileTree} {o : Options} {active : List Descriptor}
    {s : Settings} (built : Settings.build files o active = .ok s) :
    s.options = o ∧ s.plugins = active := by
  unfold build at built
  dsimp only at built
  split at built
  · cases loaded : ComponentMap.load files (o.componentMapPath files.cwdPath) with
    | error e =>
      rw [loaded] at built
      cases built
    | ok map =>
      rw [loaded] at built
      cases built
      exact ⟨rfl, rfl⟩
  · cases built
    exact ⟨rfl, rfl⟩

theorem Module.format_setRules {m : Module} {asked : Option Bool} (rules : List Rule) :
    (m.setRules (m.format asked) rules).format asked = m.format asked := by
  unfold setRules format
  cases asked with
  | some modern => cases modern <;> rfl
  | none =>
    cases m.rules <;> cases m.loaders <;> rfl

structure MergeCall where
  files : FileTree
  options : Options
  plugins : List Descriptor

namespace Host

def handed? (h : Host) : RuleFormat → Option Settings
  | .modern => h.plugins.findSome? HostPlugin.settings?
  | .legacy => h.ownSettings

-- The calls of a run that succeeded, and the host afterwards.
def run : Host → List MergeCall → List MergeCall × Host
  | h, [] => ([], h)
  | h, call :: calls =>
    match h.merge call.files call.options call.plugins with
    | .ok next => (call :: (next.run calls).1, (next.run calls).2)
    | .error _ => h.run calls

-- A run carries what each of its merges carries, whichever calls fail.
theorem run_invariant (holds : List MergeCall → Host → Prop)
    (step : ∀ {done h call next}, holds done h →
      h.merge call.files call.options call.plugins = .ok next → holds (done ++ [call]) next)
    {h : Host} {done : List MergeCall} (start : holds done h) (calls : List MergeCall) :
    holds (done ++ (h.run calls).1) (h.run calls).2 := by
  induction calls generalizing h done with
  | nil =>
    rw [run, List.append_nil]
    exact start
  | cons call calls ih =>
    rw [run]
    cases merged : h.merge call.files call.options call.plugins with
    | error e => exact ih start
    | ok next =>
      have later := ih (step start merged)
      rwa [List.append_assoc] at later

theorem define_fields (h : Host) (constants : List (Text × Json)) :
    (h.define constants).module = h.module ∧ (h.define constants).history = h.history ∧
      (h.define constants).ownSettings = h.ownSettings := by
  unfold define
  split <;> exact ⟨rfl, rfl, rfl⟩

theorem handOver_fields (h : Host) (s : Settings) (format : RuleFormat) :
    (h.handOver s format).module = h.module ∧ (h.handOver s format).history = h.history := by
  unfold handOver
  cases format with
  | modern =>
    dsimp only
    split <;> exact ⟨rfl, rfl⟩
  | legacy => exact ⟨rfl, rfl⟩

theorem findSome?_exchange (s : Settings) {ps : List HostPlugin}
    (present : ps.any (·.settings?.isSome) = true) :
    (exchange s ps).findSome? HostPlugin.settings? = some s := by
  induction ps with
  | nil => cases present
  | cons p ps ih =>
    rw [exchange]
    split
    · rfl
    · next absent =>
      have none_ : p.settings? = none := by simpa using absent
      rw [List.any_cons, none_] at present
      rw [List.findSome?_cons, none_]
      exact ih present

theorem handed?_handOver (h : Host) (s : Settings) (format : RuleFormat) :
    (h.handOver s format).handed? format = some s := by
  unfold handOver handed?
  cases format with
  | legacy => rfl
  | modern =>
    dsimp only
    split
    · next present => exact findSome?_exchange s present
    · next absent =>
      have none_ : h.plugins.findSome? HostPlugin.settings? = none := by
        rw [List.findSome?_eq_none_iff]
        intro p member
        simp only [hasLoaderOptions, List.any_eq_true, not_exists, not_and] at absent
        simpa using absent p member
      simp [List.findSome?_append, none_, HostPlugin.settings?]

theorem adopt_facts (cwd : Text) (h : Host) (accumulated : List Descriptor) (s : Settings) :
    (h.adopt cwd accumulated s).history = some ⟨h.merges + 1, accumulated⟩ ∧
      (h.adopt cwd accumulated s).module =
        h.module.adapt cwd s.options (h.module.format s.options.modernRules) ∧
      (h.adopt cwd accumulated s).handed? (h.module.format s.options.modernRules) = some s := by
  unfold adopt
  dsimp only
  refine ⟨?_, ?_, handed?_handOver ..⟩
  · rw [(handOver_fields ..).2]
    exact (define_fields ..).2.1
  · rw [(handOver_fields ..).1]
    exact (define_fields ..).1

theorem eq_of_merge {h next : Host} {files : FileTree} {o : Options} {incoming : List Descriptor}
    (merged : h.merge files o incoming = .ok next) :
    ∃ s, Settings.build files o
        ((Descriptor.putAll h.mergedPlugins incoming).filter (·.isActiveIn o.env)) = .ok s ∧
      next = h.adopt files.cwdPath (Descriptor.putAll h.mergedPlugins incoming) s := by
  unfold merge at merged
  split at merged
  · cases merged
  · cases built : Settings.build files o
        ((Descriptor.putAll h.mergedPlugins incoming).filter (·.isActiveIn o.env)) with
    | error e =>
      simp only [built] at merged
      cases merged
    | ok s =>
      simp only [built] at merged
      cases merged
      exact ⟨s, rfl, rfl⟩

def HandsOver (h : Host) (last : MergeCall) (merged : List Descriptor) : Prop :=
  ∃ s, h.handed? (h.module.format last.options.modernRules) = some s ∧ s.options = last.options ∧
    s.plugins = merged.filter (·.isActiveIn last.options.env) ∧
    Settings.build last.files last.options s.plugins = .ok s

-- What the calls that succeeded leave on a host that had no history before them.
inductive Records (h : Host) : List MergeCall → Prop where
  | fresh (history : h.history = none) : Records h []
  | merged (history : h.history = some ⟨UInt32.ofNat (done ++ [last]).length,
        Descriptor.putAll [] ((done ++ [last]).flatMap (·.plugins))⟩)
      (handed : h.HandsOver last (Descriptor.putAll [] ((done ++ [last]).flatMap (·.plugins)))) :
      Records h (done ++ [last])

theorem Records.merges {h : Host} {done : List MergeCall} (records : h.Records done) :
    h.merges = UInt32.ofNat done.length ∧
      h.mergedPlugins = Descriptor.putAll [] (done.flatMap (·.plugins)) := by
  cases records with
  | fresh history => simp [Host.merges, mergedPlugins, history, Descriptor.putAll]
  | merged history => simp [Host.merges, mergedPlugins, history]

theorem Records.step {h next : Host} {done : List MergeCall} {call : MergeCall}
    (records : h.Records done)
    (merged : h.merge call.files call.options call.plugins = .ok next) :
    next.Records (done ++ [call]) := by
  obtain ⟨count, plugins⟩ := records.merges
  obtain ⟨s, built, rfl⟩ := eq_of_merge merged
  have accumulated : Descriptor.putAll h.mergedPlugins call.plugins =
      Descriptor.putAll [] ((done ++ [call]).flatMap (·.plugins)) := by
    rw [plugins, ← Descriptor.putAll_append]
    simp
  rw [accumulated] at built ⊢
  obtain ⟨options, active⟩ := Settings.eq_of_build built
  obtain ⟨history, module, handed⟩ := adopt_facts call.files.cwdPath h
    (Descriptor.putAll [] ((done ++ [call]).flatMap (·.plugins))) s
  refine .merged ?_ ⟨s, ?_, options, active, by rwa [active]⟩
  · rw [history, count, List.length_append, UInt32.ofNat_add]
    rfl
  · rw [module, ← options, Module.adapt, Module.format_setRules]
    exact handed

theorem Records.run {h : Host} {done : List MergeCall} (records : h.Records done)
    (calls : List MergeCall) : (h.run calls).2.Records (done ++ (h.run calls).1) :=
  run_invariant (fun done h => h.Records done) Records.step records calls

-- After any run, the history is that of the calls that succeeded; the counter is their number as
-- long as it holds it.
theorem history_run {h : Host} (fresh : h.history = none) (calls : List MergeCall) :
    ((h.run calls).2.history = none ↔ (h.run calls).1 = []) ∧
      ∀ history, (h.run calls).2.history = some history →
        history.merges = UInt32.ofNat (h.run calls).1.length ∧
        ((h.run calls).1.length < UInt32.size →
          history.merges.toNat = (h.run calls).1.length) ∧
        (Descriptor.names history.plugins).Nodup ∧
        Descriptor.names history.plugins =
          (Descriptor.names ((h.run calls).1.flatMap (·.plugins))).eraseDups ∧
        (∀ d ∈ history.plugins, Descriptor.LastOf ((h.run calls).1.flatMap (·.plugins)) d) ∧
        ∃ earlier last, (h.run calls).1 = earlier ++ [last] ∧
          (h.run calls).2.HandsOver last history.plugins := by
  have records := (Records.fresh fresh).run calls
  rw [List.nil_append] at records
  generalize (h.run calls).2 = after at records ⊢
  generalize (h.run calls).1 = done at records ⊢
  cases records with
  | fresh none_ =>
    refine ⟨by simp [none_], fun history same => ?_⟩
    rw [none_] at same
    cases same
  | @merged done last history handed =>
    refine ⟨by simp [history], fun found same => ?_⟩
    rw [history] at same
    cases same
    exact ⟨rfl, UInt32.toNat_ofNat_of_lt', Descriptor.nodup_putAll _, Descriptor.names_putAll _,
      fun d member => Descriptor.lastOf_of_mem_putAll member, done, last, rfl, handed⟩

theorem history_run_three_calls :
    let style : Descriptor :=
      { name := "style".toList, plugin := .duplicateStyle, envs := ["production".toList] }
    let files := FileTree.ofDirectory []
    let h : Host := {}
    let calls : List MergeCall := [⟨files, {}, [style]⟩, ⟨files, {}, [style, style]⟩,
      ⟨files, { env := some "production".toList }, [{ style with name := "late".toList }]⟩]
    ∃ history last, h.history = none ∧ (h.run calls).1.length = 2 ∧
      (h.run calls).2.history = some history ∧ history.merges.toNat = 2 ∧
      Descriptor.names history.plugins = ["style".toList, "late".toList] ∧
      (h.run calls).1.getLast? = some last ∧ (h.run calls).2.HandsOver last history.plugins ∧
      ((h.run calls).2.settings?.map fun s => (s.options.env, Descriptor.names s.plugins)) =
        some (some "production".toList, ["style".toList, "late".toList]) := by
  intro style files h calls
  have two : (h.run calls).1.length = 2 := by decide
  obtain ⟨absent, present⟩ := history_run (h := h) rfl calls
  obtain ⟨history, found⟩ := Option.ne_none_iff_exists'.1 fun none_ =>
    absurd (congrArg List.length (absent.1 none_)) (by rw [two]; decide)
  obtain ⟨-, count, -, names, -, earlier, last, done, handed⟩ := present history found
  refine ⟨history, last, rfl, two, found, ?_, ?_, ?_, handed, by decide⟩
  · rw [count (by rw [two]; decide), two]
  · rw [names]
    decide
  · rw [done, List.getLast?_concat]

end Host
end ComponentLoader
