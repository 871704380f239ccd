import ComponentLoader.Number.Double

namespace ComponentLoader

inductive Number where
  | int (n : Int)
  | double (d : Double)
  deriving DecidableEq, Inhabited

def Number.render (plus : Bool) : Number → Text
  | int n => (if n < 0 then ['-'] else []) ++ Text.ofNat n.natAbs
  | double d => d.render plus

inductive Json where
  | null
  | bool (b : Bool)
  | number (n : Number)
  | string (s : Text)
  | array (items : List Json)
  | object (members : List (Text × Json))
  deriving Inhabited

namespace Json

def insertSorted (k : Text) (v : Json) : List (Text × Json) → List (Text × Json)
  | [] => [(k, v)]
  | (a, b) :: r =>
    if k = a then (k, v) :: r
    else if k < a then (k, v) :: (a, b) :: r
    else (a, b) :: insertSorted k v r

mutual

def canonical : Json → Json
  | array items => array (canonicalItems items)
  | object members => object (canonicalMembers members [])
  | v => v

def canonicalItems : List Json → List Json
  | [] => []
  | v :: r => canonical v :: canonicalItems r

def canonicalMembers : List (Text × Json) → List (Text × Json) → List (Text × Json)
  | [], done => done
  | (k, v) :: r, done => canonicalMembers r (insertSorted k (canonical v) done)

end

mutual

def depth : Json → Nat
  | array items => itemDepth items + 1
  | object members => memberDepth members + 1
  | _ => 0

def itemDepth : List Json → Nat
  | [] => 0
  | v :: r => max (depth v) (itemDepth r)

def memberDepth : List (Text × Json) → Nat
  | [] => 0
  | (_, v) :: r => max (depth v) (memberDepth r)

end

-- The last member of that name.
def field? (name : Text) : Json → Option Json
  | object members => (members.reverse.find? fun m => m.1 == name).map Prod.snd
  | _ => none

end Json
end ComponentLoader
