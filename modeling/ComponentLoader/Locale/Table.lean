import ComponentLoader.Text.Basic
import ComponentLoader.OrderedMap
import ComponentLoader.Yaml.Value
import ComponentLoader.FileTree

namespace ComponentLoader

abbrev LocaleTable := OrderedMap Text (OrderedMap Text Text)

namespace LocaleTable

-- An entry of the second table takes the place of the whole entry of the first.
def merge (base overrides : LocaleTable) : LocaleTable := base.extend overrides.entries

def lookup? (table : LocaleTable) (key locale : Text) : Option Text :=
  (table.get? key).bind (·.get? locale)

def texts? : List (Yaml.Tree × Yaml.Tree) → Option (List (Text × Text))
  | [] => some []
  | (.scalar _ _ locale, .scalar _ _ text) :: r => (texts? r).map ((locale, text) :: ·)
  | _ => none

-- The texts of one key; a key with nothing behind it has none.
def entry? : Yaml.Tree → Option (OrderedMap Text Text)
  | .mapping _ entries => (texts? entries).map .ofList
  | .scalar _ plain text => if plain ∧ text = [] then some .empty else none
  | .sequence _ _ => none

def entries? : List (Text × Yaml.Tree) → Option (List (Text × OrderedMap Text Text))
  | [] => some []
  | (key, tree) :: r => do
    let texts ← entry? tree
    return (key, texts) :: (← entries? r)

def parse? (content : Text) : Option LocaleTable :=
  if Text.trim content = [] then some .empty
  else ((Yaml.topEntries? content).bind entries?).map .ofList

def readOrEmpty (files : FileTree) (path : Text) : LocaleTable :=
  match files.readText path with
  | .ok content => (parse? content).getD .empty
  | .error _ => .empty

def load (files : FileTree) (kitPath projectPath : Text) : LocaleTable :=
  (readOrEmpty files kitPath).merge (readOrEmpty files projectPath)

end LocaleTable
end ComponentLoader
