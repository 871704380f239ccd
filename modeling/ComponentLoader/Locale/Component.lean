import ComponentLoader.Markup.Tag
import ComponentLoader.Yaml.Writer
import ComponentLoader.FileTree

namespace ComponentLoader

structure LocaleBlock where
  lang : Option Text
  body : Text
  deriving DecidableEq

namespace LocaleBlock

def scanner : Scanner LocaleBlock := fun s =>
  match Text.dropPrefix? "<i18n".toList s with
  | none => none
  | some r =>
    match r.dropWhile (· ≠ '>') with
    | [] => none
    | _ :: r =>
      (Text.cut? "</i18n>".toList r).map fun (body, rest) =>
        (⟨(Attributes.parse s).get? "lang".toList, body⟩, rest)

def first? (source : Text) : Option LocaleBlock := scanner.first? source

def isYaml (b : LocaleBlock) : Bool :=
  b.lang.all fun lang => lang == "yaml".toList || lang == "yml".toList

end LocaleBlock

abbrev ComponentLocales := OrderedMap Text Yaml.Value

namespace ComponentLocales

def entries? : List (Text × Yaml.Tree) → Option (List (Text × Yaml.Value))
  | [] => some []
  | (key, tree) :: r => do
    let value ← Yaml.Value.ofTree? tree
    return (key, value) :: (← entries? r)

def parse? (content : Text) : Option ComponentLocales :=
  if Text.trim content = [] then some .empty
  else ((Yaml.topEntries? content).bind entries?).map .ofList

def render (table : ComponentLocales) : Text :=
  Yaml.render (.mapping (table.entries.map fun (key, value) => (.string key, value)))

def holds (table : ComponentLocales) (entry : Text × Yaml.Value) : Bool :=
  (table.get? entry.1).any (Yaml.Value.same · entry.2)

def parse (path content : Text) : Except LoadError ComponentLocales :=
  match parse? content with
  | some table => .ok table
  | none => .error (.invalidLocales path)

def read (files : FileTree) (path : Text) : Except LoadError ComponentLocales :=
  match files.readText path with
  | .ok content => parse path content
  | .error .notFound => .ok .empty
  | .error e => .error (.unreadable path e)

def write (files : FileTree) (path : Text) (table : ComponentLocales) : Except LoadError FileTree :=
  match files.store path (some table.render) none with
  | .ok files => .ok files
  | .error e => .error (.unreadable path e)

-- The entries of a component's block, none where there is no block or not one in YAML.
def ofSource (path source : Text) : Except LoadError ComponentLocales :=
  match LocaleBlock.first? source with
  | some block => if block.isYaml then parse path block.body else .ok .empty
  | none => .ok .empty

-- The component's entries put into the table at `path`; true when the file was written.
def sync (files : FileTree) (path source : Text) : Except LoadError (Bool × FileTree) := do
  let block ← ofSource path source
  if block.isEmpty then return (false, files)
  let current ← read files path
  if block.entries.all current.holds then return (false, files)
  return (true, ← write files path (current.extend block.entries))

end ComponentLocales
end ComponentLoader
