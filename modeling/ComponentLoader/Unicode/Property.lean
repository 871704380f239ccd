import ComponentLoader.Unicode.Age
import ComponentLoader.Unicode.Break
import ComponentLoader.Unicode.Script

namespace ComponentLoader.Unicode.Property

-- The letters that count, small; `isc` is no short form of `c`.
def bare (name : Text) : Text :=
  let letters (s : Text) : Text :=
    (s.filter fun c => c.toNat < 0x80 && c != ' ' && c != '_' && c != '-').map Char.toLower
  match name with
  | i :: s :: r =>
    if i.toLower = 'i' ∧ s.toLower = 's' then
      if letters r = ['c'] then "isc".toList else letters r
    else letters name
  | _ => letters name

def among (sets : List (List String × CharSet)) (name : Text) : Option CharSet :=
  (sets.find? fun e => e.1.any (·.toList == name)).map Prod.snd

def find? (name : Text) : Option CharSet :=
  let name := bare name
  (among Trait.named name).or ((among Category.named name).or (Script.find? name))

def isNamed (names : List String) (name : Text) : Bool := names.any (·.toList == name)

def findValue? (name value : Text) : Option CharSet :=
  let name := bare name
  let value := bare value
  if isNamed ["gc", "generalcategory"] name then among Category.named value
  else if isNamed ["sc", "script"] name then Script.find? value
  else if isNamed ["scx", "scriptextensions"] name then Script.extension? value
  else if isNamed ["age"] name then Age.find? value
  else if isNamed ["gcb", "graphemeclusterbreak"] name then among Break.graphemes value
  else if isNamed ["wb", "wordbreak"] name then among Break.words value
  else if isNamed ["sb", "sentencebreak"] name then among Break.sentences value
  else none

end ComponentLoader.Unicode.Property
