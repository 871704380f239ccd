import ComponentLoader.FileTree
import ComponentLoader.Theme.Variables

namespace ComponentLoader

structure CachedTheme where
  theme : ThemeVariables
  changed : Stamp

abbrev ThemeCache := OrderedMap (List Path.Component) CachedTheme

namespace ThemeCache

-- The variables of a file, as long as it has not changed since.
def get (files : FileTree) (cache : ThemeCache) (path : Text) : Option ThemeVariables :=
  match OrderedMap.get? cache (Path.components path), files.changed? path with
  | some kept, some changed => if kept.changed = changed then some kept.theme else none
  | _, _ => none

def load (files : FileTree) (cache : ThemeCache) (path : Text) : ThemeVariables × ThemeCache :=
  match cache.get files path with
  | some theme => (theme, cache)
  | none =>
    match files.readText path with
    | .error _ => (.empty, cache.erase (Path.components path))
    | .ok content =>
      let theme := ThemeVariables.parse content
      match files.changed? path with
      | some changed => (theme, cache.insert (Path.components path) ⟨theme, changed⟩)
      | none => (theme, cache)

end ThemeCache
end ComponentLoader
