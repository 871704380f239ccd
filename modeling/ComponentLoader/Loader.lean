import ComponentLoader.Settings
import ComponentLoader.Chain.Request
import ComponentLoader.Import.Expansion
import ComponentLoader.Template.Process
import ComponentLoader.Locale.Component

namespace ComponentLoader.Settings

def scriptInjection (s : Settings) : Injection :=
  { block := .script, stage := s.options.scriptStage, preprocessor := s.options.preprocessor }

def styleInjection (s : Settings) (theme : ThemeVariables) : Injection :=
  { block := .style
    stage := s.options.styleStage
    preprocessor := s.options.preprocessor
    theme := some theme }

def templateInjection (s : Settings) : Injection :=
  { block := .template
    stage := s.options.templateStage
    preprocessor := s.options.preprocessor
    postCompile := some s.options.beforeTemplateStage }

-- A component's intermediate source with all stages in its requests, and the settings with the
-- theme that was read.
def loadComponent (files : FileTree) (s : Settings) (source : Text) : Text × Settings :=
  if source = [] then ([], s)
  else
    let (theme, kept) := s.readTheme files
    (s.templateInjection.inject ((s.styleInjection theme).inject (s.scriptInjection.inject source)),
      kept)

def expandImports (s : Settings) (resource source : Text) : Except LoadError Text :=
  match s.expandsKit, s.componentMap with
  | true, some map => (Expansion.ofOptions s.options resource).expand map source
  | _, _ => .ok source

def edit (s : Settings) (edit? : Plugin → Option SourceFn) (resource source : Text) : Text :=
  ((s.pluginsOn resource).filterMap edit?).foldl (fun s transform => transform s) source

def scriptEdit? : Plugin → Option SourceFn
  | .scriptParser transform => some transform
  | _ => none

def jsEdit? : Plugin → Option SourceFn
  | .jsParser transform => some transform
  | _ => none

def styleEdit? : Plugin → Option SourceFn
  | .styleParser transform => some transform
  | _ => none

-- A component's script is edited before its imports are expanded.
def loadScript (s : Settings) (resource source : Text) : Except LoadError Text :=
  s.expandImports resource (s.edit scriptEdit? resource source)

-- A plain script is edited after its imports are expanded.
def loadJs (s : Settings) (resource source : Text) : Except LoadError Text :=
  (s.expandImports resource source).map (s.edit jsEdit? resource)

def kitStylePath (s : Settings) : Text := '~' :: s.options.kit ++ '/' :: s.options.sourceDir

def loadStyle (s : Settings) (resource source : Text) : Text :=
  let edited := s.edit styleEdit? resource source
  if s.options.kitDev then
    Text.replaceAll s.kitStylePath (Expansion.ofOptions s.options resource).relativeDir edited
  else edited

def isComponentOfKit (s : Settings) (resource : Text) : Bool :=
  Text.contains ('/' :: s.options.kit ++ '/' :: s.options.sourceDir ++ "/components/".toList)
    (Path.withSlashes resource)

def collectLocales (files : FileTree) (s : Settings) (resource : Text) : FileTree :=
  match files.readText resource with
  | .error _ => files
  | .ok source =>
    match ComponentLocales.sync files (s.options.componentLocalesPath files.cwdPath) source with
    | .ok (_, files) => files
    | .error _ => files

-- Only kit components are localized here.
def localization? (s : Settings) (resource : Text) : Option Localization :=
  if s.isComponentOfKit resource then
    (Template.kitComponent? resource).map fun component =>
      { module := s.options.kit
        component
        locale := s.i18n.1
        mode := if s.i18n.2 then .runTime else .buildTime
        table := s.locales }
  else none

def revision? : Plugin → Option Template.Revision
  | .templateParser transform replacements => some { transform, replacements }
  | _ => none

def addition? (d : Descriptor) : Option Template.Addition :=
  match d.plugin with
  | .templateAppend generate => some { test := d.test, generate }
  | _ => none

def templateJob (s : Settings) (resource : Text) : Template.Job where
  resource := resource
  features := s.features?
  localization := s.localization? resource
  revisions := (s.pluginsOn resource).filterMap revision?
  additions := s.plugins.filterMap addition?

-- A component's template, and the files with its locales: those of project components are collected
-- when texts are left to run time.
def loadTemplate (files : FileTree) (s : Settings) (resource source : Text) :
    Template.Output × FileTree :=
  ((s.templateJob resource).run source,
    if s.i18n.2 && !s.isComponentOfKit resource then s.collectLocales files resource else files)

end ComponentLoader.Settings
