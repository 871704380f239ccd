import ComponentLoader.Yaml.Node
import ComponentLoader.Json.Basic

namespace ComponentLoader.Yaml

inductive Tree where
  | scalar (tag : Option Text) (plain : Bool) (text : Text)
  | sequence (tag : Option Text) (items : List Tree)
  | mapping (tag : Option Text) (entries : List (Tree × Tree))
  deriving Inhabited

namespace Document

-- The node with its aliases followed, if it is no deeper than `depth`. The state counts how many
-- aliases may still be followed.
def expand (d : Document) : (depth : Nat) → Node → StateT Nat Option Tree
  | 0, n => do
    match ← follow d n with
    | .scalar tag plain text => return .scalar tag plain text
    | _ => failure
  | depth + 1, n => do
    match ← follow d n with
    | .scalar tag plain text => return .scalar tag plain text
    | .sequence tag items => return .sequence tag (← items.mapM (expand d depth))
    | .mapping tag entries =>
      return .mapping tag (← entries.mapM fun (k, v) => do
        return (← expand d depth k, ← expand d depth v))
    | .alias _ => failure
where
  follow (d : Document) : Node → StateT Nat Option Node
    | .alias number => do
      match ← get with
      | 0 => failure
      | left + 1 =>
        set left
        match d.anchored? number with
        | some n => pure n
        | none => failure
    | n => pure n

def tree? (d : Document) : Option Tree :=
  ((d.expand 128 d.root).run (100 * d.events)).map Prod.fst

end Document

inductive Value where
  | null
  | bool (b : Bool)
  | number (n : Number)
  | string (s : Text)
  | sequence (items : List Value)
  | mapping (entries : List (Value × Value))
  | tagged (tag : Text) (v : Value)
  deriving Inhabited

def isAny (s : Text) (texts : List Text) : Bool := texts.contains s

def isNull (s : Text) : Bool := isAny s ["null".toList, "Null".toList, "NULL".toList, ['~']]

def bool? (s : Text) : Option Bool :=
  if isAny s ["true".toList, "True".toList, "TRUE".toList] then some true
  else if isAny s ["false".toList, "False".toList, "FALSE".toList] then some false
  else none

def isPaddedDigits (s : Text) : Bool :=
  let s := match s with
    | '-' :: r => r
    | '+' :: r => r
    | r => r
  1 < s.length && s.head? == some '0' && s.all Char.isDigit

def digitsIn? (base : Nat) (s : Text) : Option Nat :=
  if s = [] then none
  else
    s.foldlM (fun n c =>
      (hexValue? c).bind fun d => if d < base then some (n * base + d) else none) 0

def basedDigits? (s : Text) : Option Nat :=
  match s with
  | '0' :: 'x' :: r => digitsIn? 16 r
  | '0' :: 'o' :: r => digitsIn? 8 r
  | '0' :: 'b' :: r => digitsIn? 2 r
  | _ => none

def wholeNumber? (s : Text) : Option Int :=
  let (negative, body) := match s with
    | '-' :: r => (true, r)
    | '+' :: r => (false, r)
    | r => (false, r)
  let n := (basedDigits? body).or (if isPaddedDigits s then none else digitsIn? 10 body)
  n.map fun n => if negative then -(n : Int) else n

-- Numbers of more than 64 bits are not held, those of more than 128 are read as decimals.
def fits64 (n : Int) : Bool := -(Nat.pow 2 63 : Int) ≤ n && n < Nat.pow 2 64

def fits128 (n : Int) : Bool := -(Nat.pow 2 127 : Int) ≤ n && n < Nat.pow 2 128

def decimal? (s : Text) : Option (Nat × Int) :=
  let whole := s.takeWhile Char.isDigit
  let r := s.dropWhile Char.isDigit
  let (fraction, r) := match r with
    | '.' :: r => (r.takeWhile Char.isDigit, r.dropWhile Char.isDigit)
    | r => ([], r)
  if whole ++ fraction = [] then none
  else
    let digits := (whole ++ fraction).foldl (fun n c => n * 10 + (c.toNat - 48)) 0
    let power : Option Int := match r with
      | [] => some 0
      | c :: r =>
        if c = 'e' ∨ c = 'E' then
          let (negative, r) := match r with
            | '-' :: r => (true, r)
            | '+' :: r => (false, r)
            | r => (false, r)
          (digitsIn? 10 r).map fun n => if negative then -(n : Int) else n
        else none
    power.map fun p => (digits, p - fraction.length)

def double? (s : Text) : Option Double :=
  let (signed, body) := match s with
    | '+' :: r => (true, r)
    | r => (false, r)
  let (negative, digits) := match body with
    | '-' :: r => (true, r)
    | r => (false, r)
  if signed ∧ (body.head? = some '+' ∨ negative) then none
  else if isAny body [".inf".toList, ".Inf".toList, ".INF".toList] then some (.infinite false)
  else if isAny s ["-.inf".toList, "-.Inf".toList, "-.INF".toList] then some (.infinite true)
  else if isAny s [".nan".toList, ".NaN".toList, ".NAN".toList] then some .nan
  else
    match (decimal? digits).map fun (n, p) => Double.ofDecimal negative n p with
    | some (.finite negative n p) => some (.finite negative n p)
    | _ => none

namespace Value

def ofWhole? (n : Int) : Option Value := if fits64 n then some (.number (.int n)) else none

def ofPlain? (s : Text) : Option Value :=
  if s = [] ∨ isNull s then some .null
  else
    match bool? s with
    | some b => some (.bool b)
    | none =>
      match (wholeNumber? s).filter fits128 with
      | some n => ofWhole? n
      | none =>
        match if isPaddedDigits s then none else double? s with
        | some d => some (.number (.double d))
        | none => some (.string s)

def coreTag (name : String) : Text := "tag:yaml.org,2002:".toList ++ name.toList

def ofScalar? (tag : Option Text) (plain : Bool) (s : Text) : Option Value :=
  match tag with
  | none => if plain then ofPlain? s else some (.string s)
  | some t =>
    if t = coreTag "bool" then (bool? s).map .bool
    else if t = coreTag "int" then ((wholeNumber? s).filter fits128).bind ofWhole?
    else if t = coreTag "float" then (double? s).map fun d => .number (.double d)
    else if t = coreTag "null" then if isNull s then some .null else none
    else some (.string s)

def sameNumber : Number → Number → Bool
  | .double (.finite _ 0 _), .double (.finite _ 0 _) => true
  | a, b => a == b

mutual

def same : Value → Value → Bool
  | null, null => true
  | bool a, bool b => a == b
  | number a, number b => sameNumber a b
  | string a, string b => a == b
  | sequence a, sequence b => sameItems a b
  | mapping a, mapping b => a.length == b.length && sameEntries a b
  | tagged t a, tagged u b => t == u && same a b
  | _, _ => false

def sameItems : List Value → List Value → Bool
  | [], [] => true
  | a :: r, b :: s => same a b && sameItems r s
  | _, _ => false

def sameEntries : List (Value × Value) → List (Value × Value) → Bool
  | [], _ => true
  | (k, v) :: r, b => (b.any fun e => same k e.1 && same v e.2) && sameEntries r b

end

def unbanged : Text → Text
  | '!' :: c :: r => c :: r
  | name => name

def keptTag? : Option Text → Option Text
  | some ('!' :: r) => some (unbanged (unbanged ('!' :: r)))
  | _ => none

def putTag (tag : Option Text) (v : Value) : Value :=
  match keptTag? tag with
  | some t => .tagged t v
  | none => v

mutual

def ofTree? : Tree → Option Value
  | .scalar tag plain s =>
    match keptTag? tag with
    | some t => (ofScalar? none plain s).map (.tagged t)
    | none => ofScalar? tag plain s
  | .sequence tag items => (ofItems? items).map fun vs => putTag tag (.sequence vs)
  | .mapping tag entries => (ofEntries? [] entries).map fun vs => putTag tag (.mapping vs)

def ofItems? : List Tree → Option (List Value)
  | [] => some []
  | t :: r => do
    let v ← ofTree? t
    return v :: (← ofItems? r)

def ofEntries? (keys : List Value) : List (Tree × Tree) → Option (List (Value × Value))
  | [] => some []
  | (k, v) :: r => do
    let k ← ofTree? k
    if keys.any (same k) then none
    let v ← ofTree? v
    return (k, v) :: (← ofEntries? (k :: keys) r)

end

end Value

def isAbsent (tag : Option Text) (plain : Bool) (s : Text) : Bool :=
  plain &&
    match tag with
    | none => s == [] || isNull s
    | some t => if t = Value.coreTag "null" then isNull s else s == []

def keyedTrees? : List (Tree × Tree) → Option (List (Text × Tree))
  | [] => some []
  | (.scalar _ _ k, v) :: r => (keyedTrees? r).map ((k, v) :: ·)
  | _ => none

-- The entries at the top of a document: the keys are scalars as they are written, and a document of
-- nothing has none.
def topEntries? (source : Text) : Option (List (Text × Tree)) :=
  match document? source with
  | none => none
  | some none => some []
  | some (some d) =>
    match d.tree? with
    | some (.scalar tag plain s) => if isAbsent tag plain s then some [] else none
    | some (.mapping _ entries) => keyedTrees? entries
    | _ => none

end ComponentLoader.Yaml
