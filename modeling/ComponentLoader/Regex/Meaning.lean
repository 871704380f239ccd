import ComponentLoader.Regex.Bracket
import ComponentLoader.Regex.Expr
import ComponentLoader.Text.Folding
import ComponentLoader.Regex.Pattern
import ComponentLoader.Regex.Size

namespace ComponentLoader.Regex

namespace Flags

def fold (f : Flags) (s : CharSet) : CharSet :=
  if !f.anyCase then s else if f.unicode then s.folded else s.asciiFolded

def admit? (f : Flags) (s : CharSet) : Option CharSet :=
  if f.unicode || s.isAscii then some s else none

-- Folding comes before the complement.
def refine? (f : Flags) (negated : Bool) (s : CharSet) : Option CharSet :=
  let s := f.fold s
  f.admit? (if negated then s.compl else s)

end Flags

def Shorthand.set (unicode : Bool) : Shorthand → CharSet
  | digit => if unicode then Unicode.Category.decimalNumber else .ofRanges asciiDigits
  | blank => if unicode then Unicode.Trait.whiteSpace else .ofRanges asciiBlanks
  | word => if unicode then wordChars else .ofRanges asciiWord

def SetOp.apply : SetOp → CharSet → CharSet → CharSet
  | both => .inter
  | except => .diff
  | differ => .symmDiff

namespace Class

mutual

def set? (f : Flags) : Class → Option CharSet
  | nothing => some .empty
  | literal l => f.admit? (.char l.char)
  | range first last => f.admit? (.range first.char.toNat last.char.toNat)
  | named negated s => f.refine? negated s
  | shorthand negated kind =>
    let s := kind.set f.unicode
    f.admit? (if negated then s.compl else s)
  | property negated s => if f.unicode then f.refine? negated s else none
  | bracketed negated inner => (inner.set? f).bind (f.refine? negated)
  | union items => (sets? f items).map .unions
  | combined op left right =>
    match left.set? f, right.set? f with
    | some a, some b => some (op.apply (f.fold a) (f.fold b))
    | _, _ => none

def sets? (f : Flags) : List Class → Option (List CharSet)
  | [] => some []
  | c :: r =>
    match c.set? f, sets? f r with
    | some s, some rest => some (s :: rest)
    | _, _ => none

end

end Class

-- A character outside brackets. Bytes beyond ASCII are no characters.
def Literal.expr? (f : Flags) (l : Literal) : Option Expr :=
  if !f.unicode && l.byte && 0x80 ≤ l.char.toNat then none
  else some (.ofSet (f.fold (.char l.char)))

def dotSet (f : Flags) : CharSet :=
  if f.dotAll then .all
  else if f.returns then (CharSet.ofChars ['\n', '\r']).compl
  else (CharSet.char '\n').compl

def Mark.anchor (f : Flags) : Mark → Anchor
  | lineStart =>
    if !f.manyLines then .textStart else if f.returns then .lineStartReturn else .lineStart
  | lineEnd => if !f.manyLines then .textEnd else if f.returns then .lineEndReturn else .lineEnd
  | textStart => .textStart
  | textEnd => .textEnd
  | word edge => .word f.unicode edge

namespace Node

mutual

def expr? : Node → Flags → Option (Expr × Flags)
  | empty, f => some (.empty, f)
  | flags changes, f => some (.empty, f.change changes)
  | literal l, f => (l.expr? f).map fun e => (e, f)
  | dot, f => if f.unicode then some (.ofSet (dotSet f), f) else none
  | mark m, f => some (.anchor (m.anchor f), f)
  | oneOf c, f => (c.set? f).map fun s => (.ofSet s, f)
  | repeated least most greedy n, f =>
    (n.expr? f).map fun (e, f) => (.ofRepeated least most (greedy != f.lazy) e, f)
  | group index n, f => (n.expr? f).map fun (e, _) => (.group index e, f)
  | scope changes n, f => (n.expr? (f.change changes)).map fun (e, _) => (e, f)
  | alternatives items, f => (exprs? items f).map fun (es, f) => (.ofAlternatives es, f)
  | sequence items, f => (exprs? items f).map fun (es, f) => (.ofItems es, f)

def exprs? : List Node → Flags → Option (List Expr × Flags)
  | [], f => some ([], f)
  | n :: r, f =>
    (n.expr? f).bind fun (e, f) => (exprs? r f).map fun (es, f) => (e :: es, f)

end

end Node

def deepest : Nat := 250

def parse? (source : Text) : Option Regex := do
  let (node, names) ← Node.parse? source
  if deepest < node.depth then none
  let (expr, _) ← node.expr? {}
  if expr.isTooLarge then none else some ⟨source, expr, names⟩

def specials : Text := "\\.+*?()|[]\x7b\x7d^$#&-~".toList

def escapeChar (c : Char) : Text := if c ∈ specials then ['\\', c] else [c]

def escapeText (s : Text) : Text := s.flatMap escapeChar

end ComponentLoader.Regex
