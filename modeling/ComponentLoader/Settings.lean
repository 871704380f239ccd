import ComponentLoader.Plugin
import ComponentLoader.Options
import ComponentLoader.ComponentMap
import ComponentLoader.Locale.Table
import ComponentLoader.Theme.Cache

namespace ComponentLoader

structure Settings where
  options : Options
  plugins : List Descriptor
  componentMap : Option ComponentMap := none
  locales : LocaleTable := .empty
  themes : ThemeCache := .empty

namespace Settings

def defaultLocale : Text := "zh-CN".toList

def pluginsOn (s : Settings) (path : Text) : List Plugin :=
  (s.plugins.filter (·.covers path)).map (·.plugin)

def findPlugin? (s : Settings) (select : Plugin → Option α) : Option α :=
  s.plugins.findSome? fun d => select d.plugin

def expandsKit (s : Settings) : Bool :=
  s.options.expandKit || s.plugins.any fun d =>
    match d.plugin with
    | .kitUi => true
    | _ => false

def i18n (s : Settings) : Text × Bool :=
  let found := s.findPlugin? fun
    | .i18n locale atRunTime => some (locale, atRunTime)
    | _ => none
  match found with
  | some (locale, atRunTime) => (if locale = [] then defaultLocale else locale, atRunTime)
  | none => (defaultLocale, false)

def features? (s : Settings) : Option FeatureFlags :=
  s.findPlugin? fun
    | .featureSwitch flags => some flags
    | _ => none

def theme? (s : Settings) : Option (Text × OrderedMap Text Text) :=
  s.findPlugin? fun
    | .lessTheme path aliases => some (path, aliases)
    | _ => none

-- The variables of the first theme, under their new names, and the settings with the theme kept. A
-- relative path starts from the project's root.
def readTheme (files : FileTree) (s : Settings) : ThemeVariables × Settings :=
  match s.theme? with
  | none => (.empty, s)
  | some (path, aliases) =>
    let path := Path.join (s.options.rootDir files.cwdPath) path
    let (theme, themes) := ThemeCache.load files s.themes path
    (theme.rename aliases, { s with themes })

end Settings
end ComponentLoader
