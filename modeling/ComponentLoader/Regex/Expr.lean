import ComponentLoader.Regex.Syntax
import ComponentLoader.Unicode.Trait

namespace ComponentLoader.Regex

inductive Anchor where
  | textStart
  | textEnd
  | lineStart
  | lineEnd
  | lineStartReturn
  | lineEndReturn
  | word (unicode : Bool) (edge : WordEdge)
  deriving DecidableEq

def WordEdge.holds (left right : Bool) : WordEdge → Bool
  | boundary => left != right
  | inside => left == right
  | start => !left && right
  | finish => left && !right
  | halfStart => !left
  | halfFinish => !right

def isWord (unicode : Bool) (c : Char) : Bool :=
  if unicode then isWordChar c else c.isAlphanum || c == '_'

def Anchor.holds (before after : Option Char) : Anchor → Bool
  | textStart => before.isNone
  | textEnd => after.isNone
  | lineStart => before.isNone || before == some '\n'
  | lineEnd => after.isNone || after == some '\n'
  | lineStartReturn =>
    before.isNone || before == some '\n' || (before == some '\r' && after != some '\n')
  | lineEndReturn =>
    after.isNone || after == some '\r' || (after == some '\n' && before != some '\r')
  | word unicode edge => edge.holds (before.any (isWord unicode)) (after.any (isWord unicode))

inductive Expr where
  | empty
  | text (s : Text)
  | set (s : CharSet)
  | anchor (a : Anchor)
  | repeated (least : Nat) (most : Option Nat) (greedy : Bool) (e : Expr)
  | group (index : Nat) (e : Expr)
  | concat (items : List Expr)
  | alternation (items : List Expr)
  deriving Inhabited

namespace Expr

mutual

def same : Expr → Expr → Bool
  | empty, empty => true
  | text a, text b => a == b
  | set a, set b => a == b
  | anchor a, anchor b => a == b
  | repeated l m g a, repeated l' m' g' b => l == l' && m == m' && g == g' && same a b
  | group i a, group j b => i == j && same a b
  | concat a, concat b => sameItems a b
  | alternation a, alternation b => sameItems a b
  | _, _ => false

def sameItems : List Expr → List Expr → Bool
  | [], [] => true
  | a :: r, b :: s => same a b && sameItems r s
  | _, _ => false

end

mutual

def count : Expr → Nat
  | repeated _ _ _ e => e.count + 1
  | group _ e => e.count + 1
  | concat items => counts items + 1
  | alternation items => counts items + 1
  | _ => 1

def counts : List Expr → Nat
  | [] => 0
  | e :: r => e.count + counts r

end

mutual

def isEmptyOnly : Expr → Bool
  | empty => true
  | anchor _ => true
  | repeated _ most _ e => most.isSome && e.isEmptyOnly
  | group _ e => e.isEmptyOnly
  | concat items => allEmptyOnly items
  | alternation items => allEmptyOnly items
  | _ => false

def allEmptyOnly : List Expr → Bool
  | [] => true
  | e :: r => e.isEmptyOnly && allEmptyOnly r

end

mutual

-- The least number of characters of a match; none where a part matches nothing at all.
def leastLength? : Expr → Option Nat
  | empty => some 0
  | text s => some s.length
  | set s => if s.isEmpty then none else some 1
  | anchor _ => some 0
  | repeated least _ _ e => e.leastLength?.map (least * ·)
  | group _ e => e.leastLength?
  | concat items => sumLength? items
  | alternation items => minLength? items

def sumLength? : List Expr → Option Nat
  | [] => some 0
  | e :: r => e.leastLength?.bind fun n => (sumLength? r).map (n + ·)

def minLength? : List Expr → Option Nat
  | [] => none
  | [e] => e.leastLength?
  | e :: r => e.leastLength?.bind fun n => (minLength? r).map (min n ·)

end

def alwaysConsumes (e : Expr) : Bool := e.leastLength?.any (0 < ·)

def ofSet (s : CharSet) : Expr :=
  match s.single? with
  | some c => text [c]
  | none => set s

def fail : Expr := set .empty

def joinTexts : List Expr → List Expr
  | [] => []
  | text a :: r =>
    match joinTexts r with
    | text b :: r => text (a ++ b) :: r
    | r => text a :: r
  | e :: r => e :: joinTexts r

def parts : Expr → List Expr
  | empty => []
  | concat es => es
  | e => [e]

def ofItems (items : List Expr) : Expr :=
  match joinTexts (items.flatMap parts) with
  | [] => empty
  | [e] => e
  | es => concat es

-- What is repeated without ever consuming anything need not be repeated.
def ofRepeated (least : Nat) (most : Option Nat) (greedy : Bool) (e : Expr) : Expr :=
  let (least, most) :=
    if e.isEmptyOnly then (min least 1, some (most.elim 1 (min · 1))) else (least, most)
  if least = 0 ∧ most = some 0 then empty
  else if least = 1 ∧ most = some 1 then e
  else repeated least most greedy e

def asSet? (items : List Expr) : Option CharSet :=
  let chars := items.mapM fun e => match e with
    | text [c] => some c
    | _ => none
  let sets := items.mapM fun e => match e with
    | set s => some s
    | _ => none
  (chars.map CharSet.ofChars).or (sets.map CharSet.unions)

def commonPrefix : List Expr → List Expr → List Expr
  | a :: r, b :: s => if same a b then a :: commonPrefix r s else []
  | _, _ => []

def sharedPrefix : List Expr → List Expr
  | [] => []
  | e :: r =>
    match e with
    | concat es =>
      r.foldl (fun p e => match e with
        | concat es => commonPrefix p es
        | _ => []) es
    | _ => []

def flattenAlternatives (items : List Expr) : List Expr :=
  items.flatMap fun e =>
    match e with
    | alternation es => es
    | e => [e]

-- What each expression begins with is taken in front; `fuel` bounds how often.
def alternationOf : (fuel : Nat) → List Expr → Expr
  | 0, items => alternation (flattenAlternatives items)
  | fuel + 1, items =>
    match flattenAlternatives items with
    | [] => fail
    | [e] => e
    | items =>
      match asSet? items with
      | some s => ofSet s
      | none =>
        match sharedPrefix items with
        | [] => alternation items
        | shared =>
          let rests := items.map fun e => match e with
            | concat es => ofItems (es.drop shared.length)
            | e => e
          ofItems (shared ++ [alternationOf fuel rests])

def ofAlternatives (items : List Expr) : Expr := alternationOf (counts items + 1) items

end Expr
end ComponentLoader.Regex

namespace ComponentLoader

structure Regex where
  source : Text
  expr : Regex.Expr
  names : List (Text × Nat)
  deriving Inhabited

end ComponentLoader
