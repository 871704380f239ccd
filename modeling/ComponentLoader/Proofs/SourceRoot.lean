import ComponentLoader.Proofs.Import.SourceDir
import ComponentLoader.Proofs.Stylesheet.KitImports

namespace ComponentLoader
namespace Settings

variable {s : Settings} {resource : Text}

def withRoot (s : Settings) (root : Option Text) : Settings :=
  { s with options := { s.options with sourceRoot := root } }

def SamePlace (s : Settings) (resource : Text) : Prop :=
  let e := Expansion.ofOptions (s.withRoot none).options resource
  s.options.kitDev = false ∨ e.IsPlaced ∨ (e.withSourceDir []).liesInKit = e.liesInKit

def WritesImports (s : Settings) (source : Text) : Prop :=
  s.expandsKit = true ∧ ∃ map, s.componentMap = some map ∧
    Expansion.Writes s.options.kit map source

theorem ofOptions_blank (s : Settings) (resource : Text) :
    Expansion.ofOptions (s.withRoot (some [])).options resource =
      (Expansion.ofOptions (s.withRoot none).options resource).withSourceDir [] := rfl

theorem paths_ofOptions (s : Settings) (resource : Text) :
    (Expansion.ofOptions (s.withRoot none).options resource).paths = .packaged ↔
      s.options.kitDev = false := by
  change (if s.options.kitDev then KitPaths.relative else .packaged) = _ ↔ _
  cases s.options.kitDev <;> simp

theorem samePlace_iff : s.SamePlace resource ↔
    (let e := Expansion.ofOptions (s.withRoot none).options resource
     e.paths = .packaged ∨ (e.withSourceDir []).relativeDir = e.relativeDir) := by
  dsimp only
  rw [paths_ofOptions, Expansion.relativeDir_withSourceDir_iff]
  exact Iff.rfl

theorem expandImports_blank_iff (s : Settings) (resource source : Text) :
    (s.withRoot (some [])).expandImports resource source =
        (s.withRoot none).expandImports resource source ↔
      s.SamePlace resource ∨ ¬s.WritesImports source := by
  have expandsKit (root : Option Text) : (s.withRoot root).expandsKit = s.expandsKit := rfl
  have componentMap (root : Option Text) : (s.withRoot root).componentMap = s.componentMap := rfl
  unfold expandImports
  simp only [expandsKit, componentMap]
  rw [ofOptions_blank, samePlace_iff]
  cases expands : s.expandsKit with
  | false => simp [WritesImports, expands]
  | true =>
    cases mapped : s.componentMap with
    | none => simp [WritesImports, mapped]
    | some map =>
      have writes : s.WritesImports source ↔ Expansion.Writes s.options.kit map source := by
        simp [WritesImports, expands, mapped]
      rw [writes]
      exact Expansion.expand_withSourceDir_iff rfl [] map source

def blankStylePath (s : Settings) : Text := '~' :: s.options.kit ++ ['/']

theorem kitStylePath_bare (s : Settings) :
    (s.withRoot none).kitStylePath = s.blankStylePath ++ "src".toList := by
  simp [kitStylePath, blankStylePath, withRoot, Options.sourceDir]

theorem loadStyle_withRoot (s : Settings) (root : Option Text) (resource source : Text) :
    (s.withRoot root).loadStyle resource source =
      if s.options.kitDev then
        Text.replaceAll (s.withRoot root).kitStylePath
          (Expansion.ofOptions (s.withRoot root).options resource).relativeDir
          (s.edit styleEdit? resource source)
      else s.edit styleEdit? resource source := rfl

theorem loadStyle_blank_of_absent {source : Text}
    (absent : s.options.kitDev = false ∨
      ¬s.blankStylePath <:+: s.edit styleEdit? resource source) :
    (s.withRoot (some [])).loadStyle resource source =
      (s.withRoot none).loadStyle resource source := by
  rw [loadStyle_withRoot, loadStyle_withRoot]
  rcases absent with released | absent
  · rw [released]
    rfl
  · have absent' : ¬(s.withRoot none).kitStylePath <:+: s.edit styleEdit? resource source := by
      rw [kitStylePath_bare]
      exact fun inside => absent ((List.prefix_append _ _).isInfix.trans inside)
    rw [Text.replaceAll_of_absent absent']
    split
    · exact Text.replaceAll_of_absent absent
    · rfl

theorem loadStyle_blank_iff (kit : '~' ∉ s.options.kit)
    (dir : '~' ∉ (Expansion.ofOptions (s.withRoot none).options resource).relativeDir)
    (source : Text) :
    (s.withRoot (some [])).loadStyle resource source =
        (s.withRoot none).loadStyle resource source ↔
      s.options.kitDev = false ∨
        ¬s.blankStylePath <:+: s.edit styleEdit? resource source := by
  refine ⟨fun same => or_iff_not_imp_left.2 fun developed => ?_, loadStyle_blank_of_absent⟩
  rw [loadStyle_withRoot, loadStyle_withRoot, if_pos (by simpa using developed),
    if_pos (by simpa using developed), kitStylePath_bare, ofOptions_blank] at same
  generalize Expansion.ofOptions (s.withRoot none).options resource = e at dir same
  have plain : '~' ∉ (e.withSourceDir []).relativeDir ∧
      e.relativeDir.count 's' = (e.withSourceDir []).relativeDir.count 's' := by
    by_cases placed : e.IsPlaced
    · rw [Expansion.relativeDir_withSourceDir placed]
      exact ⟨dir, rfl⟩
    · have dots {e : Expansion} (unplaced : ¬e.IsPlaced) {c : Char} (other : c ≠ '.' ∧ c ≠ '/') :
          c ∉ e.relativeDir := fun member =>
        (Expansion.mem_relativeDir_of_not_isPlaced unplaced member).elim other.1 other.2
      have placed' : ¬(e.withSourceDir []).IsPlaced := placed
      refine ⟨dots placed' (by decide), ?_⟩
      rw [List.count_eq_zero_of_not_mem (dots placed (by decide)),
        List.count_eq_zero_of_not_mem (dots placed' (by decide))]
  have single : '~' ∉ s.options.kit ++ ['/'] := by simp [kit]
  exact (Text.replaceAll_eq_append_iff single (by decide) dir plain.1 plain.2 (by decide) _).1 same

def componentTexts (s : Settings) (component : Text) : Localization where
  module := s.options.kit
  component := component
  locale := s.i18n.1
  mode := if s.i18n.2 then .runTime else .buildTime
  table := s.locales

theorem localization?_withRoot (s : Settings) (root : Option Text) (resource : Text) :
    (s.withRoot root).localization? resource =
      if (s.withRoot root).isComponentOfKit resource then
        (Template.kitComponent? resource).map s.componentTexts
      else none := rfl

theorem loadTemplate_withRoot (files : FileTree) (s : Settings) (root : Option Text)
    (resource source : Text) : (s.withRoot root).loadTemplate files resource source =
      ({ s.templateJob resource with
          localization := (s.withRoot root).localization? resource }.run source,
        if s.i18n.2 && !(s.withRoot root).isComponentOfKit resource then
          s.collectLocales files resource
        else files) := rfl

theorem loadTemplate_blank (alike : (s.withRoot (some [])).isComponentOfKit resource =
    (s.withRoot none).isComponentOfKit resource) (files : FileTree) (source : Text) :
    (s.withRoot (some [])).loadTemplate files resource source =
      (s.withRoot none).loadTemplate files resource source := by
  rw [loadTemplate_withRoot, loadTemplate_withRoot, localization?_withRoot, localization?_withRoot,
    alike]

-- A component that is taken for one of the kit's is warned about when it calls for a text that is
-- not there.
theorem exists_loadTemplate_ne {component : Text}
    (apart : (s.withRoot (some [])).isComponentOfKit resource ≠
      (s.withRoot none).isComponentOfKit resource)
    (named : Template.kitComponent? resource = some component) :
    ∃ s' : Settings, s'.options = s.options ∧ ∃ source, ∀ files,
      (s'.withRoot (some [])).loadTemplate files resource source ≠
        (s'.withRoot none).loadTemplate files resource source := by
  let s' : Settings := { options := s.options, plugins := [] }
  let source := "$t('k')".toList
  have calls : TextCall.scanner.items source = [.key ['k']] := by decide +kernel
  have occurs : Localization.mayOccur source = true := by decide
  have warned : (s'.componentTexts component).warnings source ≠ [] := by
    rw [Localization.warnings, if_pos occurs, calls]
    exact List.cons_ne_nil _ _
  have warnings (root : Option Text) (files : FileTree) :
      ((s'.withRoot root).loadTemplate files resource source).1.warnings =
        if (s.withRoot root).isComponentOfKit resource then
          (s'.componentTexts component).warnings source
        else [] := by
    have kit : (s'.withRoot root).isComponentOfKit resource =
        (s.withRoot root).isComponentOfKit resource := rfl
    rw [loadTemplate_withRoot, localization?_withRoot, kit, named]
    cases (s.withRoot root).isComponentOfKit resource <;> rfl
  refine ⟨s', rfl, source, fun files same => ?_⟩
  have alike := congrArg (·.1.warnings) same
  rw [warnings, warnings] at alike
  revert apart alike
  cases (s.withRoot (some [])).isComponentOfKit resource <;>
    cases (s.withRoot none).isComponentOfKit resource <;> simp [warned]

-- An empty source root is as good as none where neither shows: scripts and plain scripts whose
-- imports are not written out, or get the same relative directory; styles that do not name the
-- kit's package; templates of files that both take for the kit's components, or both do not.
-- Elsewhere the results differ.
theorem load_blank_root (s : Settings) (resource : Text) :
    let blank := s.withRoot (some [])
    let bare := s.withRoot none
    (∀ source, blank.loadScript resource source = bare.loadScript resource source ↔
      s.SamePlace resource ∨ ¬s.WritesImports (s.edit scriptEdit? resource source)) ∧
    (∀ source, s.SamePlace resource ∨ ¬s.WritesImports source →
      blank.loadJs resource source = bare.loadJs resource source) ∧
    ((∀ d ∈ s.plugins, jsEdit? d.plugin = none) → ∀ source,
      blank.loadJs resource source = bare.loadJs resource source →
        s.SamePlace resource ∨ ¬s.WritesImports source) ∧
    (∀ source,
      s.options.kitDev = false ∨ ¬s.blankStylePath <:+: s.edit styleEdit? resource source →
        blank.loadStyle resource source = bare.loadStyle resource source) ∧
    ('~' ∉ s.options.kit → '~' ∉ (Expansion.ofOptions bare.options resource).relativeDir →
      ∀ source, blank.loadStyle resource source = bare.loadStyle resource source →
        s.options.kitDev = false ∨
          ¬s.blankStylePath <:+: s.edit styleEdit? resource source) ∧
    (blank.isComponentOfKit resource = bare.isComponentOfKit resource → ∀ files source,
      blank.loadTemplate files resource source = bare.loadTemplate files resource source) ∧
    (blank.isComponentOfKit resource ≠ bare.isComponentOfKit resource →
      ∀ component, Template.kitComponent? resource = some component →
        ∃ s' : Settings, s'.options = s.options ∧ ∃ source, ∀ files,
          (s'.withRoot (some [])).loadTemplate files resource source ≠
            (s'.withRoot none).loadTemplate files resource source) := by
  have loadJs_eq (root : Option Text) (source : Text) : (s.withRoot root).loadJs resource source =
      ((s.withRoot root).expandImports resource source).map (s.edit jsEdit? resource) := rfl
  refine ⟨fun source => ?script, fun source same => ?js, fun plain source same => ?unedited,
    fun source => ?style, fun kit dir source => ?shown, fun alike files source => ?template,
    fun apart component named => ?seen⟩
  case script => exact expandImports_blank_iff s resource _
  case js =>
    have expanded := (expandImports_blank_iff s resource source).2 same
    exact congrArg (Except.map (s.edit jsEdit? resource)) expanded
  case unedited =>
    have unchanged : s.edit jsEdit? resource = id := funext (edit_of_none plain resource)
    rw [loadJs_eq, loadJs_eq, unchanged] at same
    exact (expandImports_blank_iff s resource source).1 (by simpa using same)
  case style => exact loadStyle_blank_of_absent
  case shown => exact (loadStyle_blank_iff kit dir source).1
  case template => exact loadTemplate_blank alike files source
  case seen => exact exists_loadTemplate_ne apart named

-- A file of the kit's own: its relative directory hangs on the source root, and so do its imports
-- of the kit. One that imports nothing is the same for both.
theorem load_blank_root_of_kit_file :
    let s : Settings :=
      { options := { kitDev := true }, plugins := [{ name := "ui".toList, plugin := .kitUi }]
        componentMap := some (.ofList [("A".toList, "a.vue".toList)]) }
    let resource := "/p/vux/src/x/y.vue".toList
    let source := "import \x7b A \x7d from 'vux'".toList
    let style := "@import '~vux/src/a.less';".toList
    ¬s.SamePlace resource ∧ s.WritesImports source ∧
      (s.withRoot (some [])).loadScript resource source ≠
        (s.withRoot none).loadScript resource source ∧
      (s.withRoot (some [])).loadScript resource "let a".toList =
        (s.withRoot none).loadScript resource "let a".toList ∧
      (s.withRoot none).loadStyle resource style = "@import '../../a.less';".toList ∧
      (s.withRoot (some [])).loadStyle resource style ≠ (s.withRoot none).loadStyle resource style ∧
      ∀ files, (s.withRoot (some [])).loadTemplate files resource "<p/>".toList =
        (s.withRoot none).loadTemplate files resource "<p/>".toList := by
  intro s resource source style
  have elsewhere : ¬s.SamePlace resource := by
    unfold SamePlace Expansion.IsPlaced
    decide
  have writes : s.WritesImports source := by
    have compiled : ImportStatement.compiles (some "vux".toList) = true :=
      ImportStatement.compiles_of_length_le (by decide)
    have located : Expansion.located s.options.kit source =
        [⟨"vux".toList, [⟨"A".toList, "A".toList⟩]⟩] := by
      rw [Expansion.located, if_pos compiled]
      decide +kernel
    refine ⟨by decide, _, rfl, by decide +kernel, ?_⟩
    rw [located]
    decide
  obtain ⟨script, -, -, -, shown, template, -⟩ := load_blank_root s resource
  refine ⟨elsewhere, writes, fun same => ?_, (script _).2 (.inr ?_), by decide +kernel,
    fun same => ?_, fun files => template ?_ files _⟩
  · exact ((script source).1 same).elim elsewhere fun none_ => none_ writes
  · rintro ⟨-, map, -, occurs, -⟩
    revert occurs
    decide +kernel
  · exact absurd (shown (by decide) (by decide) style same) (by decide)
  · decide

theorem blank_root_shown_in_style :
    let s : Settings := { options := { kitDev := true }, plugins := [] }
    let resource := "/p/src/App.vue".toList
    let source := "@import '~vux/src/styles/1px.less';".toList
    (s.withRoot none).loadStyle resource source = "@import './styles/1px.less';".toList ∧
      (s.withRoot (some [])).loadStyle resource source =
        "@import '.src/styles/1px.less';".toList := by
  decide +kernel

end Settings
end ComponentLoader
