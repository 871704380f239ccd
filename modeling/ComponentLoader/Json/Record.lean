import ComponentLoader.Json.Basic

namespace ComponentLoader.Json

def part? (name : String) (place : Nat) : Json → Option Json
  | array items => items[place]?
  | v => v.field? name.toList

def isRecord (fields : Nat) : Json → Bool
  | object _ => true
  | array items => items.length ≤ fields
  | _ => false

def isObject : Json → Bool
  | object _ => true
  | _ => false

def required (read : Json → Option α) (part : Option Json) : Option α := part.bind read

def orDefault (read : Json → Option α) (default : α) : Option Json → Option α
  | none => some default
  | some v => read v

-- A field for which `null` is the same as nothing.
def optional (read : Json → Option α) : Option Json → Option (Option α)
  | none => some none
  | some null => some none
  | some v => (read v).map some

def text? : Json → Option Text
  | string s => some s
  | _ => none

def bool? : Json → Option Bool
  | bool b => some b
  | _ => none

def mapM? (read : Json → Option α) : List Json → Option (List α)
  | [] => some []
  | v :: r => do
    let x ← read v
    return x :: (← mapM? read r)

def list? (read : Json → Option α) : Json → Option (List α)
  | array items => mapM? read items
  | _ => none

def member? (name : String) : Option Json → List (Text × Json)
  | some v => [(name.toList, v)]
  | none => []

end ComponentLoader.Json
