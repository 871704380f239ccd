import ComponentLoader.Loader
import ComponentLoader.Proofs.Text.Followed

namespace ComponentLoader
namespace Settings

variable {s : Settings}

-- The expansion of scripts, with the directory that styles import the kit's sources from. It is the
-- same one when there is a source root that is not empty; else scripts name the kit alone.
def styleExpansion (s : Settings) (resource : Text) : Expansion :=
  { Expansion.ofOptions s.options resource with
    kitPath := s.options.kit ++ '/' :: s.options.sourceDir }

def withRelativeImports (s : Settings) (resource source : Text) : Text :=
  Text.replaceBefore s.kitStylePath '/' (s.styleExpansion resource).relativeDir source

theorem edit_of_none {edit? : Plugin → Option SourceFn}
    (none_ : ∀ d ∈ s.plugins, edit? d.plugin = none) (resource source : Text) :
    s.edit edit? resource source = source := by
  have nothing : (s.pluginsOn resource).filterMap edit? = [] := by
    rw [List.filterMap_eq_nil_iff]
    intro plugin member
    obtain ⟨d, part, rfl⟩ := List.mem_map.1 member
    exact none_ d (List.mem_filter.1 part).1
  rw [edit, nothing]
  rfl

theorem sole_kitStylePath (kit : '~' ∉ s.options.kit) (dir : '~' ∉ s.options.sourceDir) :
    Text.Sole s.kitStylePath '/' := by
  refine ⟨'~', s.options.kit ++ '/' :: s.options.sourceDir, rfl, ?_, by decide⟩
  simp [kit, dir]

theorem replaceBefore_eq_specifier {e : Expansion} (relative : e.paths = .relative) {path : Text}
    (single : '~' ∉ path) : Text.replaceBefore ('~' :: e.kitPath) '/' e.relativeDir ('~' :: path) =
      if e.kitPath ++ ['/'] <+: path then e.specifier path else '~' :: path := by
  have absent {t : Text} (without : '~' ∉ t) : ¬ '~' :: e.kitPath ++ ['/'] <:+: t := by
    intro inside
    exact without (inside.subset (by simp))
  split
  · next begins =>
    obtain ⟨rest, rfl⟩ := begins
    rw [List.mem_append, not_or] at single
    have found : Text.dropPrefix? (e.kitPath ++ ['/']) (e.kitPath ++ ['/'] ++ rest) = some rest :=
      Text.dropPrefix?_append _ rest
    have spelled : '~' :: (e.kitPath ++ ['/'] ++ rest) = '~' :: e.kitPath ++ '/' :: rest := by simp
    rw [Expansion.specifier, relative]
    dsimp only
    rw [found, spelled, Text.replaceBefore_append_cons, Text.replaceBefore,
      Text.replaceAll_of_absent (absent single.2)]
  · next other =>
    apply Text.replaceAll_of_absent
    rw [List.cons_append, List.infix_cons_iff, not_or]
    constructor
    · intro begins
      exact other (List.cons_prefix_cons.1 begins).2
    · exact absent single

-- While the kit is developed its styles are imported by a relative path. Where nothing but a `/`
-- follows the path of the kit's sources, the imports of a style come out as those of scripts do;
-- any other occurrence is replaced as well, and only one that is replaced by itself goes unseen.
theorem loadStyle_eq_iff (dev : s.options.kitDev = true)
    (plain : ∀ d ∈ s.plugins, styleEdit? d.plugin = none) (resource source : Text) :
    let e := s.styleExpansion resource
    (Text.Followed s.kitStylePath '/' source →
      s.loadStyle resource source = s.withRelativeImports resource source) ∧
    ('~' ∉ s.options.kit → '~' ∉ s.options.sourceDir →
      (s.loadStyle resource source = s.withRelativeImports resource source ↔
        e.relativeDir = s.kitStylePath ∨ Text.Followed s.kitStylePath '/' source)) ∧
    (∀ path, '~' ∉ path → s.withRelativeImports resource ('~' :: path) =
      if e.kitPath ++ ['/'] <+: path then e.specifier path else '~' :: path) := by
  intro e
  have loaded : s.loadStyle resource source =
      Text.replaceAll s.kitStylePath e.relativeDir source := by
    rw [loadStyle, if_pos dev, edit_of_none plain]
    rfl
  have relative : e.paths = .relative := by
    change (if s.options.kitDev then KitPaths.relative else .packaged) = _
    rw [dev]
    rfl
  refine ⟨fun followed => ?_, fun kit dir => ?_, fun path single => ?_⟩
  · rw [loaded]
    apply Text.replaceAll_of_followed (List.cons_ne_nil _ _) _ followed
    simp
  · rw [loaded]
    exact (sole_kitStylePath kit dir).replaceAll_eq_iff _ _
  · exact replaceBefore_eq_specifier relative single

theorem loadStyle_eq_iff_import :
    let s : Settings := { options := { kitDev := true }, plugins := [] }
    let resource := "/p/src/App.vue".toList
    let source := "@import '~vux/src/styles/1px.less';".toList
    s.options.kitDev = true ∧ (∀ d ∈ s.plugins, styleEdit? d.plugin = none) ∧
      Text.Followed s.kitStylePath '/' source ∧
      s.loadStyle resource source = s.withRelativeImports resource source ∧
      s.withRelativeImports resource source = "@import './styles/1px.less';".toList := by
  intro s resource source
  have dev : s.options.kitDev = true := rfl
  have plain : ∀ d ∈ s.plugins, styleEdit? d.plugin = none := by
    intro d member
    cases member
  have followed : Text.Followed s.kitStylePath '/' source := by decide
  have same := (loadStyle_eq_iff dev plain resource source).1 followed
  exact ⟨dev, plain, followed, same, by decide +kernel⟩

-- A directory whose name only begins with that of the sources.
theorem longer_directory_rewritten :
    let s : Settings := { options := { kitDev := true }, plugins := [] }
    let resource := "/p/src/App.vue".toList
    let source := "@import '~vux/src-extra/x.less';".toList
    s.withRelativeImports resource source = source ∧
      s.loadStyle resource source = "@import '.-extra/x.less';".toList := by
  decide +kernel

end Settings
end ComponentLoader
