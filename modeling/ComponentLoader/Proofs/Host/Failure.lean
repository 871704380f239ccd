import ComponentLoader.Proofs.Host.History
import ComponentLoader.Error

namespace ComponentLoader

namespace Descriptor

theorem repeatedName?_cons (seen : List Text) (d : Descriptor) (ds : List Descriptor) :
    repeatedName? seen (d :: ds) =
      if d.name ∈ seen then some d.name else repeatedName? (d.name :: seen) ds := rfl

theorem repeatedName?_eq_none_iff {seen : List Text} {ds : List Descriptor} :
    repeatedName? seen ds = none ↔ (names ds).Nodup ∧ ∀ name ∈ names ds, name ∉ seen := by
  induction ds generalizing seen with
  | nil => exact iff_of_true rfl ⟨List.nodup_nil, fun _ member => absurd member List.not_mem_nil⟩
  | cons d ds ih =>
    have split : names (d :: ds) = d.name :: names ds := rfl
    rw [repeatedName?_cons, split]
    split
    · next again => simp [again]
    · next fresh =>
      rw [ih, List.nodup_cons, List.forall_mem_cons]
      constructor
      · rintro ⟨distinct, apart⟩
        refine ⟨⟨fun member => apart _ member List.mem_cons_self, distinct⟩, fresh, ?_⟩
        exact fun name member old => apart name member (List.mem_cons_of_mem _ old)
      · rintro ⟨⟨absent, distinct⟩, -, apart⟩
        refine ⟨distinct, fun name member old => ?_⟩
        rcases List.mem_cons.1 old with rfl | old
        · exact absent member
        · exact apart name member old

theorem repeatedName?_eq_some_iff {seen : List Text} {ds : List Descriptor} {name : Text} :
    repeatedName? seen ds = some name ↔ ∃ earlier d later, ds = earlier ++ d :: later ∧
      repeatedName? seen earlier = none ∧ (d.name ∈ seen ∨ d.name ∈ names earlier) ∧
      name = d.name := by
  induction ds generalizing seen with
  | nil =>
    refine iff_of_false nofun ?_
    rintro ⟨earlier, d, later, split, -⟩
    simp at split
  | cons e ds ih =>
    rw [repeatedName?_cons]
    constructor
    · intro found
      split at found
      · next again =>
        cases found
        exact ⟨[], e, ds, rfl, rfl, .inl again, rfl⟩
      · next fresh =>
        obtain ⟨earlier, d, later, rfl, none_, again, rfl⟩ := ih.1 found
        refine ⟨e :: earlier, d, later, rfl, by rw [repeatedName?_cons, if_neg fresh, none_], ?_, rfl⟩
        rcases again with old | inside
        · rcases List.mem_cons.1 old with same | old
          · exact .inr (List.mem_cons.2 (.inl same))
          · exact .inl old
        · exact .inr (List.mem_cons_of_mem _ inside)
    · rintro ⟨earlier, d, later, split, none_, again, rfl⟩
      cases earlier with
      | nil =>
        obtain ⟨rfl, rfl⟩ := List.cons.inj split
        rw [if_pos (again.resolve_right (by simp [names]))]
      | cons f earlier =>
        obtain ⟨rfl, rfl⟩ := List.cons.inj split
        rw [repeatedName?_cons] at none_
        split at none_
        · cases none_
        · next fresh =>
          rw [if_neg fresh]
          refine ih.2 ⟨earlier, d, later, rfl, none_, ?_, rfl⟩
          rcases again with old | inside
          · exact .inl (List.mem_cons_of_mem _ old)
          · rcases List.mem_cons.1 inside with same | inside
            · exact .inl (List.mem_cons.2 (.inl same))
            · exact .inr inside

end Descriptor

namespace ComponentMap

-- The text of a JSON object with texts for values.
def IsManifest (content : Text) : Prop :=
  ∃ members, Json.parse? content = some (.object members) ∧
    ∀ member ∈ members, ∃ path, member.2 = .string path

theorem ofMembers?_eq_none_iff {members : List (Text × Json)} :
    ofMembers? members = none ↔ ¬∀ member ∈ members, ∃ path, member.2 = .string path := by
  induction members with
  | nil => simp [ofMembers?]
  | cons member members ih =>
    obtain ⟨name, value⟩ := member
    cases value <;> simp [ofMembers?, ih]

theorem parse_eq_error_iff {path content : Text} {e : LoadError} :
    parse path content = .error e ↔ e = .invalidComponentMap path ∧ ¬IsManifest content := by
  unfold parse IsManifest
  split
  · next members read =>
    have only : (∃ ms, Json.parse? content = some (.object ms) ∧
        ∀ member ∈ ms, ∃ path, member.2 = .string path) ↔
          ∀ member ∈ members, ∃ path, member.2 = .string path := by
      rw [read]
      constructor
      · rintro ⟨ms, same, all⟩
        cases same
        exact all
      · exact fun all => ⟨members, rfl, all⟩
    rw [only, ← ofMembers?_eq_none_iff]
    cases ofMembers? members <;> simp [eq_comm]
  · next other =>
    constructor
    · intro failed
      cases failed
      exact ⟨rfl, fun ⟨members, same, _⟩ => other members same⟩
    · rintro ⟨rfl, -⟩
      rfl

inductive Unloadable (files : FileTree) (path : Text) : LoadError → Prop where
  | unreadable {cause : FileError} (failed : files.readText path = .error cause) :
      Unloadable files path (.unreadable path cause)
  | malformed {content : Text} (read : files.readText path = .ok content)
      (other : ¬IsManifest content) : Unloadable files path (.invalidComponentMap path)

theorem load_eq_error_iff {files : FileTree} {path : Text} {e : LoadError} :
    load files path = .error e ↔ Unloadable files path e := by
  unfold load
  constructor
  · intro failed
    split at failed
    · next content read =>
      obtain ⟨rfl, other⟩ := parse_eq_error_iff.1 failed
      exact .malformed read other
    · next cause unread =>
      cases failed
      exact .unreadable unread
  · rintro (⟨unread⟩ | ⟨read, other⟩)
    · rw [unread]
    · rw [read]
      exact parse_eq_error_iff.2 ⟨rfl, other⟩

end ComponentMap

namespace Settings

theorem expandsKit_iff {s : Settings} :
    s.expandsKit = true ↔ s.options.expandKit = true ∨ ∃ d ∈ s.plugins, d.plugin = .kitUi := by
  rw [expandsKit, Bool.or_eq_true, List.any_eq_true]
  refine or_congr_right (exists_congr fun d => and_congr_right fun _ => ?_)
  cases d.plugin <;> simp

theorem build_eq_error_iff {files : FileTree} {o : Options} {active : List Descriptor}
    {e : LoadError} :
    build files o active = .error e ↔
      (o.expandKit = true ∨ ∃ d ∈ active, d.plugin = .kitUi) ∧
        ComponentMap.Unloadable files (o.componentMapPath files.cwdPath) e := by
  have enabled : (Settings.mk o active none .empty .empty).expandsKit = true ↔
      o.expandKit = true ∨ ∃ d ∈ active, d.plugin = .kitUi := expandsKit_iff
  rw [← enabled, ← ComponentMap.load_eq_error_iff]
  unfold build
  dsimp only
  split
  · next kit =>
    cases ComponentMap.load files (o.componentMapPath files.cwdPath) with
    | error cause => simp [kit, bind, Except.bind]
    | ok map => simp [bind, Except.bind, pure, Except.pure]
  · next kit => simp [kit]

end Settings

namespace Host

-- The descriptors in force for a merge: those that come with it, and of those merged before all
-- that none of them takes the place of.
def InForce (h : Host) (incoming : List Descriptor) (d : Descriptor) : Prop :=
  d ∈ incoming ∨ Descriptor.Stands (Descriptor.names incoming) h.mergedPlugins d

def ExpandsKit (h : Host) (o : Options) (incoming : List Descriptor) : Prop :=
  o.expandKit = true ∨
    ∃ d, h.InForce incoming d ∧ d.isActiveIn o.env = true ∧ d.plugin = .kitUi

inductive Refuses (files : FileTree) (h : Host) (o : Options) (incoming : List Descriptor) :
    LoadError → Prop where
  | repeated {earlier : List Descriptor} {d : Descriptor} {later : List Descriptor}
      (split : incoming = earlier ++ d :: later)
      (distinct : (Descriptor.names earlier).Nodup)
      (again : d.name ∈ Descriptor.names earlier) :
      Refuses files h o incoming (.duplicatePlugin d.name)
  | manifest {e : LoadError} (distinct : (Descriptor.names incoming).Nodup)
      (kit : h.ExpandsKit o incoming)
      (unloadable : ComponentMap.Unloadable files (o.componentMapPath files.cwdPath) e) :
      Refuses files h o incoming e

theorem refuses_congr {files others : FileTree} {h : Host} {o : Options}
    {incoming : List Descriptor} {e : LoadError} (here : others.cwdPath = files.cwdPath)
    (same : others.readText (o.componentMapPath files.cwdPath) =
      files.readText (o.componentMapPath files.cwdPath)) :
    h.Refuses others o incoming e ↔ h.Refuses files o incoming e := by
  have loads : ComponentMap.Unloadable others (o.componentMapPath others.cwdPath) e ↔
      ComponentMap.Unloadable files (o.componentMapPath files.cwdPath) e := by
    rw [← ComponentMap.load_eq_error_iff, ← ComponentMap.load_eq_error_iff, here]
    unfold ComponentMap.load
    rw [same]
  constructor
  · rintro (⟨split, distinct, again⟩ | ⟨distinct, kit, unloadable⟩)
    · exact .repeated split distinct again
    · exact .manifest distinct kit (loads.1 unloadable)
  · rintro (⟨split, distinct, again⟩ | ⟨distinct, kit, unloadable⟩)
    · exact .repeated split distinct again
    · exact .manifest distinct kit (loads.2 unloadable)

-- The merge in the steps in which it changes the host.
def mergeInPlace (files : FileTree) (o : Options) (incoming : List Descriptor) :
    InPlace Host Unit := do
  if let some name := repeatedName? [] incoming then throw (.duplicatePlugin name)
  let h ← get
  let format := h.module.format o.modernRules
  let accumulated := Descriptor.putAll h.mergedPlugins incoming
  let active := accumulated.filter (·.isActiveIn o.env)
  let made := HostPlugin.ofActive active
  let s ← InPlace.check (Settings.build files o active)
  modify fun h => { h with history := some ⟨h.merges + 1, accumulated⟩ }
  modify fun h => { h with module := h.module.adapt files.cwdPath s.options format }
  modify (·.define s.constants)
  modify (·.exchangeMade made)
  modify (·.handOver s format)

theorem expandsKit_iff {h : Host} {o : Options} {incoming : List Descriptor}
    (distinct : (Descriptor.names incoming).Nodup) :
    h.ExpandsKit o incoming ↔ o.expandKit = true ∨
      ∃ d ∈ (Descriptor.putAll h.mergedPlugins incoming).filter (·.isActiveIn o.env),
        d.plugin = .kitUi := by
  refine or_congr_right (exists_congr fun d => ?_)
  rw [List.mem_filter, Descriptor.mem_putAll_iff distinct, ← and_assoc]
  rfl

theorem merge_of_distinct {files : FileTree} {h : Host} {o : Options} {incoming : List Descriptor}
    (distinct : (Descriptor.names incoming).Nodup) :
    h.merge files o incoming = do
      let s ← Settings.build files o
        ((Descriptor.putAll h.mergedPlugins incoming).filter (·.isActiveIn o.env))
      return h.adopt files.cwdPath (Descriptor.putAll h.mergedPlugins incoming) s := by
  have fresh : repeatedName? [] incoming = none :=
    Descriptor.repeatedName?_eq_none_iff.2 ⟨distinct, by simp⟩
  rw [merge, fresh]

theorem merge_eq_error_iff {files : FileTree} {h : Host} {o : Options} {incoming : List Descriptor}
    {e : LoadError} : h.merge files o incoming = .error e ↔ h.Refuses files o incoming e := by
  constructor
  · intro failed
    cases repeated : repeatedName? [] incoming with
    | some name =>
      obtain ⟨earlier, d, later, rfl, none_, again, rfl⟩ :=
        Descriptor.repeatedName?_eq_some_iff.1 repeated
      rw [merge, repeated] at failed
      cases failed
      exact .repeated rfl (Descriptor.repeatedName?_eq_none_iff.1 none_).1
        (again.resolve_left (by simp))
    | none =>
      have distinct := (Descriptor.repeatedName?_eq_none_iff.1 repeated).1
      rw [merge_of_distinct distinct] at failed
      cases built : Settings.build files o
          ((Descriptor.putAll h.mergedPlugins incoming).filter (·.isActiveIn o.env)) with
      | ok s =>
        rw [built] at failed
        cases failed
      | error cause =>
        rw [built] at failed
        cases failed
        obtain ⟨kit, unloadable⟩ := Settings.build_eq_error_iff.1 built
        exact .manifest distinct ((expandsKit_iff distinct).2 kit) unloadable
  · rintro (⟨rfl, distinct, again⟩ | ⟨distinct, kit, unloadable⟩)
    · have none_ := Descriptor.repeatedName?_eq_none_iff.2 ⟨distinct, fun _ _ => List.not_mem_nil⟩
      rw [merge, Descriptor.repeatedName?_eq_some_iff.2 ⟨_, _, _, rfl, none_, .inr again, rfl⟩]
    · have failed := Settings.build_eq_error_iff.2 ⟨(expandsKit_iff distinct).1 kit, unloadable⟩
      rw [merge_of_distinct distinct]
      rw [failed]
      rfl

theorem run_mergeInPlace (files : FileTree) (h : Host) (o : Options) (incoming : List Descriptor) :
    (mergeInPlace files o incoming).run h =
      match h.merge files o incoming with
      | .ok next => (.ok (), next)
      | .error e => (.error e, h) := by
  cases repeated : repeatedName? [] incoming with
  | some name =>
    rw [mergeInPlace, merge, repeated]
    rfl
  | none =>
    have distinct := (Descriptor.repeatedName?_eq_none_iff.1 repeated).1
    rw [merge_of_distinct distinct, mergeInPlace, repeated]
    dsimp only
    rw [InPlace.run_get_bind, InPlace.run_check_bind]
    cases built : Settings.build files o
        ((Descriptor.putAll h.mergedPlugins incoming).filter (·.isActiveIn o.env)) with
    | error e => rfl
    | ok s =>
      obtain ⟨options, plugins⟩ := Settings.eq_of_build built
      rw [← plugins, ← options]
      rfl

theorem merge_error_iff_run (files : FileTree) (h : Host) (o : Options)
    (incoming : List Descriptor) (e : LoadError) : h.merge files o incoming = .error e ↔
      ((mergeInPlace files o incoming).run h).1 = .error e := by
  rw [run_mergeInPlace]
  cases h.merge files o incoming <;> simp

theorem merge_ok_iff_run (files : FileTree) (h : Host) (o : Options) (incoming : List Descriptor)
    (next : Host) : h.merge files o incoming = .ok next ↔
      (mergeInPlace files o incoming).run h = (.ok (), next) := by
  rw [run_mergeInPlace]
  cases h.merge files o incoming with
  | error e => exact ⟨fun same => (by cases same), fun same => (by cases same)⟩
  | ok merged => constructor <;> (intro same; cases same; rfl)

theorem outcome_congr {files others : FileTree} {h : Host} {o : Options}
    {incoming : List Descriptor} (here : others.cwdPath = files.cwdPath)
    (same : others.readText (o.componentMapPath files.cwdPath) =
      files.readText (o.componentMapPath files.cwdPath)) :
    ((mergeInPlace others o incoming).run h).1 = ((mergeInPlace files o incoming).run h).1 := by
  have refuses (files : FileTree) (e : LoadError) :
      ((mergeInPlace files o incoming).run h).1 = .error e ↔ h.Refuses files o incoming e :=
    (merge_error_iff_run files h o incoming e).symm.trans merge_eq_error_iff
  have errors (e : LoadError) : ((mergeInPlace others o incoming).run h).1 = .error e ↔
      ((mergeInPlace files o incoming).run h).1 = .error e := by
    rw [refuses others, refuses files, refuses_congr here same]
  cases first : ((mergeInPlace files o incoming).run h).1 with
  | error e => exact (errors e).2 first
  | ok done =>
    cases second : ((mergeInPlace others o incoming).run h).1 with
    | ok again => rfl
    | error e =>
      rw [(errors e).1 second] at first
      cases first

-- A merge fails for the stated reasons and for no other, so that only the manifest's text matters
-- of all files; one that fails leaves the host as it was.
theorem mergeInPlace_fails_iff (files : FileTree) (h : Host) (o : Options)
    (incoming : List Descriptor) :
    (∀ e, ((mergeInPlace files o incoming).run h).1 = .error e ↔ h.Refuses files o incoming e) ∧
      (∀ e, ((mergeInPlace files o incoming).run h).1 = .error e →
        ((mergeInPlace files o incoming).run h).2 = h) ∧
      (∀ e, h.merge files o incoming = .error e ↔
        ((mergeInPlace files o incoming).run h).1 = .error e) ∧
      (∀ next, h.merge files o incoming = .ok next ↔
        (mergeInPlace files o incoming).run h = (.ok (), next)) ∧
      ∀ others : FileTree, others.cwdPath = files.cwdPath →
        others.readText (o.componentMapPath files.cwdPath) =
          files.readText (o.componentMapPath files.cwdPath) →
        ((mergeInPlace others o incoming).run h).1 = ((mergeInPlace files o incoming).run h).1 := by
  have errors (e : LoadError) := merge_error_iff_run files h o incoming e
  refine ⟨fun e => (errors e).symm.trans merge_eq_error_iff, ?_, errors,
    merge_ok_iff_run files h o incoming, fun others here same => outcome_congr here same⟩
  intro e failed
  rw [run_mergeInPlace, (errors e).2 failed]

example :
    let kit : Descriptor := { name := "ui".toList, plugin := .kitUi, envs := ["dev".toList] }
    let h : Host := { history := some ⟨1, [kit]⟩ }
    let files := FileTree.ofDirectory []
    let o : Options := { env := some "dev".toList }
    ((mergeInPlace files o []).run h).1 =
        .error (.unreadable (o.componentMapPath files.cwdPath) .notFound) ∧
      ((mergeInPlace files {} []).run h).1 = .ok () ∧
      ((mergeInPlace files o [{ kit with plugin := .duplicateStyle }]).run h).1 = .ok () :=
  ⟨rfl, rfl, rfl⟩

end Host
end ComponentLoader
