import ComponentLoader.Yaml.Scalar

namespace ComponentLoader.Yaml

inductive Token where
  | version (major minor : Nat)
  | tagShorthand (handle start : Text)
  | documentStart
  | documentEnd
  | blockSequence
  | blockMapping
  | blockEnd
  | flowSequence
  | flowSequenceEnd
  | flowMapping
  | flowMappingEnd
  | entry
  | comma
  | key
  | value
  | alias (name : Text)
  | anchor (name : Text)
  | tag (handle suffix : Text)
  | scalar (plain : Bool) (text : Text)
  deriving DecidableEq

-- Where a key without a `?` may have begun. It must be a key when it stands at the indentation of
-- its mapping.
structure KeyStart where
  possible : Bool := false
  required : Bool := false
  token : Nat := 0
  index : Nat := 0
  line : Nat := 0
  column : Nat := 0

structure Scan where
  cur : Cursor
  tokens : List Token := []
  count : Nat := 0
  indent : Int := -1
  indents : List Int := []
  keys : List KeyStart := [{}]
  keyAllowed : Bool := true

namespace Scan

def inFlow (s : Scan) : Bool := 1 < s.keys.length

def push (s : Scan) (t : Token) : Scan := { s with tokens := t :: s.tokens, count := s.count + 1 }

def pushAt (s : Scan) (number : Nat) (t : Token) : Scan :=
  let behind := s.count - number
  { s with tokens := s.tokens.take behind ++ t :: s.tokens.drop behind, count := s.count + 1 }

def skip (s : Scan) (n : Nat) : Scan := { s with cur := s.cur.skip n }

def allowKey (s : Scan) (allowed : Bool) : Scan := { s with keyAllowed := allowed }

-- A key lies on one line and is no longer than 1024 characters.
def expireKeys (s : Scan) : Option Scan := do
  let keys ← s.keys.mapM fun k =>
    if k.possible ∧ (k.line < s.cur.line ∨ k.index + 1024 < s.cur.index) then
      if k.required then none else some { k with possible := false }
    else some k
  return { s with keys }

def forgetKey (s : Scan) : Option Scan :=
  match s.keys with
  | [] => some s
  | k :: keys =>
    if k.possible ∧ k.required then none
    else some { s with keys := { k with possible := false } :: keys }

def saveKey (s : Scan) : Option Scan := do
  if !s.keyAllowed then some s
  else
    let required := !s.inFlow ∧ s.indent = s.cur.column
    let s ← s.forgetKey
    let k : KeyStart := ⟨true, required, s.count, s.cur.index, s.cur.line, s.cur.column⟩
    return { s with keys := k :: s.keys.drop 1 }

def open? (s : Scan) (column : Nat) (number : Option Nat) (t : Token) : Scan :=
  if s.inFlow ∨ (column : Int) ≤ s.indent then s
  else
    let s := { s with indent := column, indents := s.indent :: s.indents }
    match number with
    | some n => s.pushAt n t
    | none => s.push t

def close (s : Scan) (column : Int) : Scan :=
  if s.inFlow then s
  else
    let closed := (s.indent :: s.indents).takeWhile (column < ·)
    let left := (s.indent :: s.indents).dropWhile (column < ·)
    { s with
      tokens := List.replicate closed.length .blockEnd ++ s.tokens
      count := s.count + closed.length
      indent := left.headD (-1)
      indents := left.drop 1 }

-- Blanks, comments and breaks between tokens. A line may begin with a byte order mark; a tab may
-- not stand where a key could begin.
def skipGap (s : Scan) : (fuel : Nat) → Scan
  | 0 => s
  | fuel + 1 =>
    let isTabAllowed := s.inFlow || !s.keyAllowed
    let cur := s.cur.skipMark.skipRun fun c => c == ' ' || (isTabAllowed && c == '\t')
    let cur := if cur.rest.head? = some '#' then cur.skipRun fun c => !isBreak c else cur
    if cur.atBreak then
      skipGap { s with cur := cur.skipBreak, keyAllowed := s.keyAllowed || !s.inFlow } fuel
    else { s with cur }

def isNameChar (c : Char) : Bool := c.isAlphanum || c == '_' || c == '-'

def isUriChar (verbatim : Bool) (c : Char) : Bool :=
  isNameChar c || c ∈ ";/?:@&=+$.%!~*'()".toList || (verbatim && (c == ',' || c == '[' || c == ']'))

def unescapeUri (s : Text) : Option Text := do
  let bytes ← go s (s.length + 1)
  (String.fromUTF8? bytes.toByteArray).map String.toList
where
  go : Text → Nat → Option (List UInt8)
    | _, 0 => none
    | [], _ => some []
    | '%' :: a :: b :: r, fuel + 1 => do
      let n := (← hexValue? a) * 16 + (← hexValue? b)
      return n.toUInt8 :: (← go r fuel)
    | '%' :: _, _ => none
    | c :: r, fuel + 1 => do
      return (String.singleton c).toUTF8.toList ++ (← go r fuel)

def takeUri (verbatim : Bool) (cur : Cursor) : Option (Text × Cursor) := do
  let (raw, cur) := cur.takeRun (isUriChar verbatim)
  return (← unescapeUri raw, cur)

-- `!`, `!!` or `!name!`; without the second `!` the name belongs to the tag itself.
def takeHandle (cur : Cursor) : Option (Text × Cursor) :=
  match cur.rest with
  | '!' :: _ =>
    let (name, cur) := (cur.skip 1).takeRun isNameChar
    if cur.rest.head? = some '!' then some ('!' :: name ++ ['!'], cur.skip 1)
    else some ('!' :: name, cur)
  | _ => none

def takeTag (inFlow : Bool) (cur : Cursor) : Option (Token × Cursor) := do
  let (t, cur) ←
    if (cur.rest.drop 1).head? = some '<' then do
      let (uri, cur) ← takeUri true (cur.skip 2)
      if uri = [] ∨ cur.rest.head? ≠ some '>' then none
      some (Token.tag [] uri, cur.skip 1)
    else do
      let (handle, cur) ← takeHandle cur
      let (uri, cur) ← takeUri false cur
      if 1 < handle.length ∧ handle.getLast? = some '!' then
        if uri = [] then none else some (Token.tag handle uri, cur)
      else if handle.drop 1 ++ uri = [] then some (.tag [] ['!'], cur)
      else some (.tag ['!'] (handle.drop 1 ++ uri), cur)
  if (inFlow ∧ cur.rest.head? = some ',') ∨ atGap cur.rest then some (t, cur) else none

def takeNumber (cur : Cursor) : Option (Nat × Cursor) :=
  let (digits, cur) := cur.takeRun Char.isDigit
  if digits = [] ∨ 9 < digits.length then none
  else some (digits.foldl (fun n c => n * 10 + (c.toNat - 48)) 0, cur)

def takeDirective (cur : Cursor) : Option (Token × Cursor) := do
  let (name, cur) := (cur.skip 1).takeRun isNameChar
  if !atGap cur.rest then none
  let cur := cur.skipRun isSpace
  let (t, cur) ←
    if name = "YAML".toList then do
      let (major, cur) ← takeNumber cur
      if cur.rest.head? ≠ some '.' then none
      let (minor, cur) ← takeNumber (cur.skip 1)
      some (Token.version major minor, cur)
    else if name = "TAG".toList then do
      let (handle, cur) ← takeHandle cur
      if handle ≠ ['!'] ∧ handle.getLast? ≠ some '!' then none
      if !cur.rest.head?.any isSpace then none
      let (start, cur) ← takeUri true (cur.skipRun isSpace)
      if start = [] ∨ !atGap cur.rest then none
      some (Token.tagShorthand handle start, cur)
    else none
  let cur := cur.skipRun isSpace
  let cur := if cur.rest.head? = some '#' then cur.skipRun fun c => !isBreak c else cur
  if atLineEnd cur.rest then some (t, cur.skipBreak) else none

def takeName (cur : Cursor) : Option (Text × Cursor) :=
  let (name, cur) := (cur.skip 1).takeRun isNameChar
  if name = [] then none
  else if atGap cur.rest ∨ cur.rest.head?.any (· ∈ "?:,]\x7d%@\x60".toList) then some (name, cur)
  else none

def document (s : Scan) (t : Token) (cur : Cursor) : Option Scan := do
  let s ← (s.close (-1)).forgetKey
  return { (s.allowKey false).push t with cur }

def openFlow (s : Scan) (t : Token) : Option Scan := do
  let s ← s.saveKey
  return ({ s with keys := {} :: s.keys }.allowKey true).skip 1 |>.push t

def closeFlow (s : Scan) (t : Token) : Option Scan := do
  let s ← s.forgetKey
  let keys := if s.inFlow then s.keys.drop 1 else s.keys
  return ({ s with keys }.allowKey false).skip 1 |>.push t

def entry (s : Scan) : Option Scan := do
  if !s.inFlow ∧ !s.keyAllowed then none
  let s ← (s.open? s.cur.column none .blockSequence).forgetKey
  return (s.allowKey true).skip 1 |>.push .entry

def key (s : Scan) : Option Scan := do
  if !s.inFlow ∧ !s.keyAllowed then none
  let s ← (s.open? s.cur.column none .blockMapping).forgetKey
  return (s.allowKey (!s.inFlow)).skip 1 |>.push .key

def value (s : Scan) : Option Scan :=
  match s.keys with
  | [] => none
  | k :: keys =>
    if k.possible then
      let s := (s.pushAt k.token .key).open? k.column (some k.token) .blockMapping
      let s := { s with keys := { k with possible := false } :: keys }
      some ((s.allowKey false).skip 1 |>.push .value)
    else if !s.inFlow ∧ !s.keyAllowed then none
    else
      let s := s.open? s.cur.column none .blockMapping
      some ((s.allowKey (!s.inFlow)).skip 1 |>.push .value)

def content (s : Scan) (take : Cursor → Option (Token × Cursor)) : Option Scan := do
  let s ← s.saveKey
  let (t, cur) ← take s.cur
  return { (s.allowKey false).push t with cur }

def block (s : Scan) (literal : Bool) : Option Scan := do
  let s ← s.forgetKey
  let (text, cur) ← blockScalar literal s.indent (s.cur.skip 1)
  return { (s.allowKey true).push (.scalar false text) with cur }

def plain (s : Scan) : Option Scan := do
  let s ← s.saveKey
  let (text, cur, broken) ←
    plainScalar s.inFlow (s.indent + 1) s.cur [] {} (fuelFor s.cur)
  return { (s.allowKey broken).push (.scalar true text) with cur }

def isIndicator (c : Char) : Bool := c ∈ "-?:,[]\x7b\x7d#&*!|>'\"%@\x60".toList

def beginsPlain (inFlow : Bool) (c : Char) (r : Text) : Bool :=
  !(isBlankOrBreak c || isIndicator c) || (c == '-' && !r.head?.any isSpace) ||
    (!inFlow && (c == '?' || c == ':') && !atGap r)

def next (s : Scan) : Option (Option Scan) := do
  let s ← (s.skipGap (fuelFor s.cur)).expireKeys
  let s := s.close s.cur.column
  match s.cur.rest with
  | [] => some none
  | c :: r =>
    let done (s : Option Scan) : Option (Option Scan) := s.map some
    if s.cur.column = 0 ∧ c = '%' then
      done do
        let s ← (s.close (-1)).forgetKey
        let (t, cur) ← takeDirective s.cur
        return { (s.allowKey false).push t with cur }
    else if s.cur.atMark '-' then done (s.document .documentStart (s.cur.skip 3))
    else if s.cur.atMark '.' then done (s.document .documentEnd (s.cur.skip 3))
    else if c = '[' then done (s.openFlow .flowSequence)
    else if c = '\x7b' then done (s.openFlow .flowMapping)
    else if c = ']' then done (s.closeFlow .flowSequenceEnd)
    else if c = '\x7d' then done (s.closeFlow .flowMappingEnd)
    else if c = ',' then
      done do return ((← s.forgetKey).allowKey true).skip 1 |>.push .comma
    else if c = '-' ∧ atGap r then done s.entry
    else if c = '?' ∧ (s.inFlow ∨ atGap r) then done s.key
    else if c = ':' ∧ (s.inFlow ∨ atGap r) then done s.value
    else if c = '*' then
      done (s.content fun cur => (takeName cur).map fun (n, cur) => (.alias n, cur))
    else if c = '&' then
      done (s.content fun cur => (takeName cur).map fun (n, cur) => (.anchor n, cur))
    else if c = '!' then done (s.content (takeTag s.inFlow))
    else if c = '|' ∧ !s.inFlow then done (s.block true)
    else if c = '>' ∧ !s.inFlow then done (s.block false)
    else if c = '\'' ∨ c = '"' then
      done (s.content fun cur =>
        (quotedScalar (c == '\'') (cur.skip 1) [] (fuelFor cur)).map fun (t, cur) =>
          (.scalar false t, cur))
    else if beginsPlain s.inFlow c r then done s.plain
    else none

def run (s : Scan) : (fuel : Nat) → Option (List Token)
  | 0 => none
  | fuel + 1 =>
    match s.next with
    | none => none
    | some (some s) => run s fuel
    | some none => do
      let s ← s.skipGap (fuelFor s.cur) |>.expireKeys
      let s ← (s.close (-1)).forgetKey
      return s.tokens.reverse

end Scan

def tokens? (source : Text) : Option (List Token) :=
  if source.all isAllowed then Scan.run { cur := { rest := source } } (source.length + 2) else none

end ComponentLoader.Yaml
