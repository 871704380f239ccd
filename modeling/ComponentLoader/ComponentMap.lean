import ComponentLoader.Error
import ComponentLoader.OrderedMap
import ComponentLoader.Json.Parser
import ComponentLoader.FileTree

namespace ComponentLoader

abbrev ComponentMap := OrderedMap Text Text

namespace ComponentMap

def ofMembers? : List (Text × Json) → Option (List (Text × Text))
  | [] => some []
  | (name, .string path) :: r => (ofMembers? r).map ((name, path) :: ·)
  | _ => none

def parse (path content : Text) : Except LoadError ComponentMap :=
  match Json.parse? content with
  | some (.object members) =>
    match ofMembers? members with
    | some entries => .ok (.ofList entries)
    | none => .error (.invalidComponentMap path)
  | _ => .error (.invalidComponentMap path)

def load (files : FileTree) (path : Text) : Except LoadError ComponentMap :=
  match files.readText path with
  | .ok content => parse path content
  | .error e => .error (.unreadable path e)

end ComponentMap
end ComponentLoader
