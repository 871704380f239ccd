import ComponentLoader.Text.CharSet

namespace ComponentLoader.Regex

inductive Flag where
  | anyCase
  | manyLines
  | dotAll
  | lazy
  | unicode
  | returns
  | verbose
  deriving DecidableEq

abbrev FlagChanges := List (Flag × Bool)

structure Flags where
  anyCase : Bool := false
  manyLines : Bool := false
  dotAll : Bool := false
  lazy : Bool := false
  unicode : Bool := true
  returns : Bool := false

namespace Flags

def set (f : Flags) : Flag × Bool → Flags
  | (.anyCase, on) => { f with anyCase := on }
  | (.manyLines, on) => { f with manyLines := on }
  | (.dotAll, on) => { f with dotAll := on }
  | (.lazy, on) => { f with lazy := on }
  | (.unicode, on) => { f with unicode := on }
  | (.returns, on) => { f with returns := on }
  | (.verbose, _) => f

def change (f : Flags) (changes : FlagChanges) : Flags := changes.foldl set f

end Flags

-- A character. Written with two digits behind `\x` it is the number of a byte.
structure Literal where
  char : Char
  byte : Bool := false

inductive Shorthand where
  | digit
  | blank
  | word

inductive SetOp where
  | both
  | except
  | differ

inductive Class where
  | nothing
  | literal (l : Literal)
  | range (first last : Literal)
  | named (negated : Bool) (s : CharSet)
  | shorthand (negated : Bool) (kind : Shorthand)
  | property (negated : Bool) (s : CharSet)
  | bracketed (negated : Bool) (inner : Class)
  | union (items : List Class)
  | combined (op : SetOp) (left right : Class)
  deriving Inhabited

inductive WordEdge where
  | boundary
  | inside
  | start
  | finish
  | halfStart
  | halfFinish
  deriving DecidableEq

inductive Mark where
  | lineStart
  | lineEnd
  | textStart
  | textEnd
  | word (edge : WordEdge)

inductive Node where
  | empty
  | flags (changes : FlagChanges)
  | literal (l : Literal)
  | dot
  | mark (m : Mark)
  | oneOf (c : Class)
  | repeated (least : Nat) (most : Option Nat) (greedy : Bool) (n : Node)
  | group (index : Nat) (n : Node)
  | scope (changes : FlagChanges) (n : Node)
  | alternatives (items : List Node)
  | sequence (items : List Node)
  deriving Inhabited

namespace Class

-- A union counts only when it has several items.
def ofItems : List Class → Class
  | [] => nothing
  | [c] => c
  | cs => union cs

mutual

def depth : Class → Nat
  | bracketed _ inner => inner.depth + 1
  | union items => depths items + 1
  | combined _ left right => max left.depth right.depth + 1
  | _ => 0

def depths : List Class → Nat
  | [] => 0
  | c :: r => max c.depth (depths r)

end

end Class

namespace Node

def ofSequence : List Node → Node
  | [] => empty
  | [n] => n
  | ns => sequence ns

def ofAlternatives : List Node → Node
  | [n] => n
  | ns => alternatives ns

mutual

def depth : Node → Nat
  | oneOf c => c.depth
  | repeated _ _ _ n => n.depth + 1
  | group _ n => n.depth + 1
  | scope _ n => n.depth + 1
  | alternatives items => depths items + 1
  | sequence items => depths items + 1
  | _ => 0

def depths : List Node → Nat
  | [] => 0
  | n :: r => max n.depth (depths r)

end

end Node

end ComponentLoader.Regex
