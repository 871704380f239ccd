import ComponentLoader.Yaml.Value

namespace ComponentLoader.Yaml

structure Page where
  text : Text := []
  column : Nat := 0
  spaced : Bool := true
  fresh : Bool := true

namespace Page

def put (p : Page) (c : Char) : Page := { p with text := c :: p.text, column := p.column + 1 }

def putAll (p : Page) (s : Text) : Page := s.foldl put p

def putBreak (p : Page) (c : Char) : Page := { p with text := c :: p.text, column := 0 }

def space (p : Page) : Page := if p.spaced then p else p.put ' '

def indicator (p : Page) (s : Text) (apart spaced fresh : Bool) : Page :=
  let p := (if apart then p.space else p).putAll s
  { p with spaced, fresh := p.fresh && fresh }

def indent (p : Page) (indent : Nat) : Page :=
  let isOver := !p.fresh ∨ indent < p.column ∨ (p.column = indent ∧ !p.spaced)
  let p := if isOver then p.putBreak '\n' else p
  { p.putAll (List.replicate (indent - p.column) ' ') with spaced := true, fresh := true }

end Page

inductive Style where
  | plain
  | single
  | double
  | literal
  deriving DecidableEq

def isShown (c : Char) : Bool :=
  let n := c.toNat
  n == 0x0A || (0x20 ≤ n && n ≤ 0x7E) || (0xA0 ≤ n && n ≤ 0xFFFD && n != 0xFEFF) || 0x10000 ≤ n

structure Traits where
  hidden : Bool := false
  breaks : Bool := false
  spaceAtEnd : Bool := false
  gapAtEnds : Bool := false
  breakSpace : Bool := false
  spaceBreak : Bool := false
  indicator : Bool := false

def isLeadIndicator (c : Char) (gapBehind : Bool) : Bool :=
  c ∈ "#,[]\x7b\x7d&*!|>'\"%@\x60".toList || (c ∈ "?:-".toList && gapBehind)

def isInnerIndicator (c : Char) (gapBefore gapBehind : Bool) : Bool :=
  (c == ':' && gapBehind) || (c == '#' && gapBefore)

def pairTraits (t : Traits) : Text → Traits
  | a :: b :: r =>
    let gapBehind := atGap r
    pairTraits
      { t with
        breakSpace := t.breakSpace || (isBreak a && b == ' ')
        spaceBreak := t.spaceBreak || (a == ' ' && isBreak b)
        indicator := t.indicator || isInnerIndicator b (isBlankOrBreak a) gapBehind }
      (b :: r)
  | _ => t

def traits (s : Text) : Traits :=
  let isEdgeGap (c : Option Char) : Bool := c.any fun c => c == ' ' || isBreak c
  let lead := match s with
    | c :: r => isLeadIndicator c (atGap r)
    | [] => false
  pairTraits
    { hidden := !s.all isShown
      breaks := s.any isBreak
      spaceAtEnd := s.getLast? == some ' '
      gapAtEnds := isEdgeGap s.head? || isEdgeGap s.getLast?
      indicator := lead || s.take 3 == "---".toList || s.take 3 == "...".toList } s

namespace Traits

def allowsPlain (t : Traits) : Bool :=
  !(t.gapAtEnds || t.breakSpace || t.spaceBreak || t.hidden || t.breaks || t.indicator)

def allowsSingle (t : Traits) : Bool := !(t.breakSpace || t.spaceBreak || t.hidden)

def allowsLiteral (t : Traits) : Bool := !(t.spaceAtEnd || t.spaceBreak || t.hidden)

end Traits

def settle (s : Text) (isKey : Bool) (wanted : Style) : Style :=
  let t := traits s
  let wanted := if isKey ∧ t.breaks then .double else wanted
  let wanted := if wanted = .plain ∧ (!t.allowsPlain ∨ (s = [] ∧ isKey)) then .single else wanted
  let wanted := if wanted = .single ∧ !t.allowsSingle then .double else wanted
  if wanted = .literal ∧ (s = [] ∨ !t.allowsLiteral ∨ isKey) then .double else wanted

-- The style that a text would have: a block when it has lines, quotes when it would else be read
-- as something other than a text, or has digits behind a zero.
def wantedStyle (s : Text) : Style :=
  if '\n' ∈ s then .literal
  else
    match Value.ofPlain? s with
    | some (.string _) => if isPaddedDigits s then .single else .plain
    | _ => .single

def hexDigits (n width : Nat) : Text :=
  let ds := (Nat.toDigits 16 n).map Char.toUpper
  List.replicate (width - ds.length) '0' ++ ds

def escapeLetter? (n : Nat) : Option Char :=
  ([(0x00, '0'), (0x07, 'a'), (0x08, 'b'), (0x09, 't'), (0x0A, 'n'), (0x0B, 'v'), (0x0C, 'f'),
    (0x0D, 'r'), (0x1B, 'e'), (0x22, '"'), (0x5C, '\\'), (0x85, 'N'), (0xA0, '_'), (0x2028, 'L'),
    (0x2029, 'P')].find? fun e => e.1 == n).map Prod.snd

def escape (c : Char) : Text :=
  let n := c.toNat
  if isShown c ∧ !isBreak c ∧ c ≠ '"' ∧ c ≠ '\\' then [c]
  else
    match escapeLetter? n with
    | some l => ['\\', l]
    | none =>
      if n ≤ 0xFF then '\\' :: 'x' :: hexDigits n 2
      else if n ≤ 0xFFFF then '\\' :: 'u' :: hexDigits n 4
      else '\\' :: 'U' :: hexDigits n 8

def escapeUri (s : Text) : Text :=
  s.flatMap fun c =>
    if c ≠ '!' ∧ Scan.isUriChar true c ∧ c ≠ '%' then [c]
    else (String.singleton c).toUTF8.toList.flatMap fun b => '%' :: hexDigits b.toNat 2

namespace Page

def close (p : Page) : Page := { p with spaced := false, fresh := false }

def plain (p : Page) (s : Text) : Page :=
  ((if s = [] then p else p.space).putAll s).close

def singleBody (p : Page) (column : Nat) (broken : Bool) : Text → Page
  | [] => if broken then p.indent column else p
  | c :: r =>
    if isBreak c then
      let p := if !broken ∧ c = '\n' then p.putBreak '\n' else p
      singleBody { p.putBreak c with fresh := true } column true r
    else
      let p := if broken ∧ c ≠ ' ' then p.indent column else p
      let p := if c = '\'' then p.put c else p
      singleBody { p.put c with fresh := p.fresh && c == ' ' } column (broken && c == ' ') r

def single (p : Page) (column : Nat) (s : Text) : Page :=
  (((p.indicator ['\''] true false false).singleBody column false s).indicator ['\''] false false
    false).close

def double (p : Page) (s : Text) : Page :=
  (((p.indicator ['"'] true false false).putAll (s.flatMap escape)).indicator ['"'] false false
    false).close

def blockHints (s : Text) : Text :=
  let indentation : Text := if s.head?.any fun c => c == ' ' || isBreak c then ['2'] else []
  let chomping : Text := match s.reverse with
    | [] => ['-']
    | [c] => if isBreak c then ['+'] else ['-']
    | c :: d :: _ => if !isBreak c then ['-'] else if isBreak d then ['+'] else []
  indentation ++ chomping

def literalBody (p : Page) (column : Nat) (broken : Bool) : Text → Page
  | [] => p
  | c :: r =>
    if isBreak c then literalBody { p.putBreak c with fresh := true } column true r
    else
      let p := if broken then p.indent column else p
      literalBody { p.put c with fresh := false } column false r

def literal (p : Page) (column : Nat) (s : Text) : Page :=
  let p := ((p.indicator ['|'] true false false).indicator (blockHints s) false false
    false).putBreak '\n'
  { p with spaced := true, fresh := true }.literalBody column true s

-- A tag of the document's own, behind its `!`; a tag that is `!` alone stands in brackets.
def tag (p : Page) (t : Option Text) : Page :=
  match t with
  | none => p
  | some t =>
    if t = ['!'] then
      ((p.indicator "!<".toList true false false).indicator (escapeUri t) false false
        false).indicator ['>'] false false false
    else
      (p.indicator ['!'] true false false).indicator (escapeUri (Value.unbanged t)) false false
        false

def scalar (p : Page) (tag : Option Text) (column : Nat) (isKey : Bool) (wanted : Style)
    (s : Text) : Page :=
  let p := p.tag tag
  match settle s isKey wanted with
  | .plain => p.plain s
  | .single => p.single column s
  | .double => p.double s
  | .literal => p.literal column s

end Page

def textLength (s : Text) : Nat := (String.ofList s).utf8ByteSize

def renderNumber : Number → Text
  | .double .nan => ".nan".toList
  | .double (.infinite negative) => if negative then "-.inf".toList else ".inf".toList
  | n => n.render false

def renderBool (b : Bool) : Text := if b then "true".toList else "false".toList

def isShortKey (tagLength : Nat) : Value → Bool
  | .string s => !s.any isBreak && tagLength + textLength s ≤ 128
  | .number n => tagLength + (renderNumber n).length ≤ 128
  | .null => tagLength + 4 ≤ 128
  | .bool b => tagLength + (renderBool b).length ≤ 128
  | .sequence items => items.isEmpty && tagLength ≤ 128
  | .mapping entries => entries.isEmpty && tagLength ≤ 128
  | .tagged t v => isShortKey (if t = ['!'] then 1 else textLength (Value.unbanged t) + 1) v

def deeper (indent : Option Nat) : Nat :=
  match indent with
  | some n => n + 2
  | none => 0

mutual

def writeValue (indent : Option Nat) (inMapping isKey : Bool) (tag : Option Text) :
    Value → Page → Page
  | .null, p => p.scalar tag (deeper indent) isKey .plain "null".toList
  | .bool b, p => p.scalar tag (deeper indent) isKey .plain (renderBool b)
  | .number n, p => p.scalar tag (deeper indent) isKey .plain (renderNumber n)
  | .string s, p => p.scalar tag (deeper indent) isKey (wantedStyle s) s
  | .sequence items, p =>
    let p := p.tag tag
    if items.isEmpty then (p.indicator ['['] true true false).indicator [']'] false false false
    else writeItems (if inMapping ∧ !p.fresh then indent.getD 0 else deeper indent) items p
  | .mapping entries, p =>
    let p := p.tag tag
    if entries.isEmpty then
      (p.indicator ['\x7b'] true true false).indicator ['\x7d'] false false false
    else writeEntries (deeper indent) entries p
  | .tagged t v, p => writeValue indent inMapping isKey (some t) v p

def writeItems (column : Nat) : List Value → Page → Page
  | [], p => p
  | v :: r, p =>
    let p := (p.indent column).indicator ['-'] true false true
    writeItems column r (writeValue (some column) false false none v p)

def writeEntries (column : Nat) : List (Value × Value) → Page → Page
  | [], p => p
  | (k, v) :: r, p =>
    let p := p.indent column
    let p :=
      if isShortKey 0 k then
        (writeValue (some column) true true none k p).indicator [':'] false false false
      else
        let p := writeValue (some column) true false none k (p.indicator ['?'] true false true)
        (p.indent column).indicator [':'] true false true
    writeEntries column r (writeValue (some column) true false none v p)

end

def render (v : Value) : Text := ((writeValue none false false none v {}).indent 0).text.reverse

end ComponentLoader.Yaml
