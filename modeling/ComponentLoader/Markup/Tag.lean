import ComponentLoader.Text.Piece
import ComponentLoader.OrderedMap
import ComponentLoader.Regex.Meaning

namespace ComponentLoader

abbrev Attributes := OrderedMap Text Text

def isAttributeNameChar (c : Char) : Bool :=
  !isBlank c && c != '=' && c != '<' && c != '>' && c != '"' && c != '/'

def Attributes.scanner : Scanner (Text × Text)
  | [] => none
  | c :: s =>
    let name := s.takeWhile isAttributeNameChar
    if isBlank c ∧ name ≠ [] then
      match s.dropWhile isAttributeNameChar with
      | '=' :: '"' :: r =>
        match r.dropWhile (· ≠ '"') with
        | _ :: rest => some ((name, r.takeWhile (· ≠ '"')), rest)
        | [] => none
      | _ => none
    else none

-- The attributes in front of the first `>`; names lose their `.native` modifier.
def Attributes.parse (tag : Text) : Attributes :=
  .ofList ((scanner.items (tag.takeWhile (· ≠ '>'))).map fun (name, value) =>
    (Text.replaceAll ".native".toList [] name, value))

structure Tag where
  attributes : Attributes
  inner : Option Text

namespace Tag

def isOpeningArea (area : Text) : Bool :=
  match area with
  | [] => true
  | c :: r => isBlank c || (c == '/' && r.isEmpty)

def closing (name : Text) : Text := '<' :: '/' :: name ++ ['>']

-- A tag of that name: the opening tag ends at the first `>`, the tag at the first closing tag.
def scanner (name : Text) : Scanner Tag := fun s =>
  match Text.dropPrefix? ('<' :: name) s with
  | none => none
  | some r =>
    let area := r.takeWhile (· ≠ '>')
    match r.dropWhile (· ≠ '>') with
    | [] => none
    | _ :: r =>
      if !isOpeningArea area then none
      else if area.getLast? = some '/' then some (⟨.parse s, none⟩, r)
      else (Text.cut? (closing name) r).map fun (inner, rest) => (⟨.parse s, some inner⟩, rest)

def mayOccur (name source : Text) : Bool := Text.contains ('<' :: name) source

def pattern (name : Text) : Text :=
  "(?s)<".toList ++ Regex.escapeText name ++ "(?:\\s[^>]*?)?(?:/>|>(.*?)</".toList ++
    Regex.escapeText name ++ ">)".toList

def compiles (name : Text) : Bool := (Regex.parse? (pattern name)).isSome

def replace (source name : Text) (f : (raw : Text) → Tag → Text) : Text :=
  if mayOccur name source && compiles name then (scanner name).replace f source else source

def replaceM [Monad m] (source name : Text) (f : (raw : Text) → Tag → m Text) : m Text :=
  if mayOccur name source && compiles name then (scanner name).replaceM f source else pure source

end Tag
end ComponentLoader
