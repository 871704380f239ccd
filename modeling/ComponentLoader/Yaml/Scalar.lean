import ComponentLoader.Yaml.Cursor

namespace ComponentLoader.Yaml

structure Gap where
  blanks : Text := []
  first : Text := []
  others : Text := []
  broken : Bool := false

namespace Gap

def fold (g : Gap) : Text :=
  if !g.broken then g.blanks
  else if g.first.head? = some '\n' then
    if g.others = [] then [' '] else g.others
  else g.first ++ g.others

-- Blanks and breaks up to something else. A tab may not stand where a plain scalar's indentation is
-- measured.
def read (cur : Cursor) (g : Gap) (indent : Option Int) : (fuel : Nat) → Option (Gap × Cursor)
  | 0 => none
  | fuel + 1 =>
    match cur.rest with
    | [] => some (g, cur)
    | c :: _ =>
      if isSpace c then
        if g.broken then
          if c = '\t' ∧ indent.any (fun i => (cur.column : Int) < i) then none
          else read (cur.skip 1) g indent fuel
        else read (cur.skip 1) { g with blanks := g.blanks ++ [c] } indent fuel
      else if isBreak c then
        let (b, cur) := cur.takeBreak
        if g.broken then read cur { g with others := g.others ++ b } indent fuel
        else read cur { g with blanks := [], first := b, broken := true } indent fuel
      else some (g, cur)

end Gap

def fuelFor (cur : Cursor) : Nat := cur.rest.length + 1

def hexValue? (c : Char) : Option Nat :=
  if c.isDigit then some (c.toNat - 48)
  else if 'a' ≤ c ∧ c ≤ 'f' then some (c.toNat - 87)
  else if 'A' ≤ c ∧ c ≤ 'F' then some (c.toNat - 55)
  else none

def simpleEscape? (c : Char) : Option Nat :=
  if c = '0' then some 0
  else if c = 'a' then some 0x07
  else if c = 'b' then some 0x08
  else if c = 't' ∨ c = '\t' then some 0x09
  else if c = 'n' then some 0x0A
  else if c = 'v' then some 0x0B
  else if c = 'f' then some 0x0C
  else if c = 'r' then some 0x0D
  else if c = 'e' then some 0x1B
  else if c = ' ' ∨ c = '"' ∨ c = '/' ∨ c = '\\' then some c.toNat
  else if c = 'N' then some 0x85
  else if c = '_' then some 0xA0
  else if c = 'L' then some 0x2028
  else if c = 'P' then some 0x2029
  else none

def escapeWidth? (c : Char) : Option Nat :=
  if c = 'x' then some 2 else if c = 'u' then some 4 else if c = 'U' then some 8 else none

def readEscape? : Text → Option (Char × Nat)
  | [] => none
  | c :: r =>
    match escapeWidth? c with
    | some width => do
      let digits := r.take width
      if digits.length < width then none
      let n ← digits.foldlM (fun n c => (hexValue? c).map (n * 16 + ·)) 0
      if n.isValidChar then some (Char.ofNat n, width + 1) else none
    | none => (simpleEscape? c).map fun n => (Char.ofNat n, 1)

def quotedRun (single : Bool) (cur : Cursor) (done : Text) :
    (fuel : Nat) → Option (Text × Cursor × Bool)
  | 0 => none
  | fuel + 1 =>
    match cur.rest with
    | [] => some (done, cur, false)
    | c :: r =>
      if isBlankOrBreak c then some (done, cur, false)
      else if single then
        if c = '\'' then
          if r.head? = some '\'' then quotedRun single (cur.skip 2) ('\'' :: done) fuel
          else some (done, cur, false)
        else quotedRun single (cur.skip 1) (c :: done) fuel
      else if c = '"' then some (done, cur, false)
      else if c = '\\' then
        if r.head?.any isBreak then some (done, (cur.skip 1).skipBreak, true)
        else
          match readEscape? r with
          | some (e, width) => quotedRun single (cur.skip (width + 1)) (e :: done) fuel
          | none => none
      else quotedRun single (cur.skip 1) (c :: done) fuel

def quotedScalar (single : Bool) (cur : Cursor) (done : Text) :
    (fuel : Nat) → Option (Text × Cursor)
  | 0 => none
  | fuel + 1 => do
    if cur.atDocumentMark ∨ cur.rest = [] then none
    let (done, cur, escaped) ← quotedRun single cur done (fuelFor cur)
    if cur.rest.head? = some (if single then '\'' else '"') then some (done.reverse, cur.skip 1)
    else
      let (gap, cur) ← Gap.read cur { broken := escaped } none (fuelFor cur)
      quotedScalar single cur (gap.fold.reverse ++ done) fuel

def isFlowIndicator (c : Char) : Bool :=
  c == ',' || c == '[' || c == ']' || c == '\x7b' || c == '\x7d'

def plainRun (inFlow : Bool) : Text → Option Text
  | [] => some []
  | c :: r =>
    if isBlankOrBreak c then some []
    else if inFlow ∧ c = ':' ∧ r.head?.any (fun n => isFlowIndicator n || n == '?') then none
    else if (c = ':' ∧ atGap r) ∨ (inFlow ∧ isFlowIndicator c) then some []
    else (plainRun inFlow r).map (c :: ·)

def plainScalar (inFlow : Bool) (indent : Int) (cur : Cursor) (done : Text) (gap : Gap) :
    (fuel : Nat) → Option (Text × Cursor × Bool)
  | 0 => none
  | fuel + 1 => do
    let finish := some (done.reverse, cur, gap.broken)
    if cur.atDocumentMark ∨ cur.rest.head? = some '#' then finish
    else
      let run ← plainRun inFlow cur.rest
      let (done, cur, gap) := if run = [] then (done, cur, gap)
        else (run.reverse ++ gap.fold.reverse ++ done, cur.skip run.length, {})
      if cur.rest.head?.any isBlankOrBreak then
        let (gap, cur) ← Gap.read cur gap (some indent) (fuelFor cur)
        if !inFlow ∧ (cur.column : Int) < indent then some (done.reverse, cur, gap.broken)
        else plainScalar inFlow indent cur done gap fuel
      else some (done.reverse, cur, gap.broken)

inductive Chomping where
  | strip
  | clip
  | keep
  deriving DecidableEq

def chomping? (c : Char) : Option Chomping :=
  if c = '+' then some .keep else if c = '-' then some .strip else none

def blockHeader (s : Text) : Option (Chomping × Nat × Nat) :=
  let digit (s : Text) : Option (Nat × Nat) :=
    match s with
    | c :: _ => if c = '0' then none else if c.isDigit then some (c.toNat - 48, 1) else some (0, 0)
    | [] => some (0, 0)
  match s.head?.bind chomping? with
  | some chomping => (digit (s.drop 1)).map fun (n, width) => (chomping, n, width + 1)
  | none =>
    (digit s).map fun (n, width) =>
      if width = 0 then (.clip, n, 0)
      else
        match (s.drop 1).head?.bind chomping? with
        | some chomping => (chomping, n, 2)
        | none => (.clip, n, 1)

-- Blank lines of a block, up to a line that has text; indentation that is not given is found from
-- the deepest.
def blockBreaks (outer : Int) (indent deepest : Nat) (breaks : Text) (cur : Cursor) :
    (fuel : Nat) → Option (Nat × Text × Cursor)
  | 0 => none
  | fuel + 1 =>
    let spaces := (cur.rest.takeWhile (· == ' ')).length
    let cur := cur.skip (if indent = 0 then spaces else min spaces (indent - cur.column))
    let deepest := max deepest cur.column
    if (indent = 0 ∨ cur.column < indent) ∧ cur.rest.head? = some '\t' then none
    else if cur.atBreak then
      let (b, cur) := cur.takeBreak
      blockBreaks outer indent deepest (breaks ++ b) cur fuel
    else
      let found := max (max deepest (outer + 1).toNat) 1
      some (if indent = 0 then found else indent, breaks, cur)

def blockLines (literal : Bool) (outer : Int) (indent : Nat) (done leading trailing : Text)
    (wasBlank : Bool) (cur : Cursor) : (fuel : Nat) → Option (Text × Text × Text × Cursor)
  | 0 => none
  | fuel + 1 =>
    if cur.column = indent ∧ cur.rest ≠ [] then do
      let blank := cur.rest.head?.any isSpace
      let joint :=
        if !literal ∧ leading.head? = some '\n' ∧ !wasBlank ∧ !blank then
          if trailing = [] then [' '] else []
        else leading
      let (text, cur) := cur.takeRun fun c => !isBreak c
      let (leading, cur) := cur.takeBreak
      let (_, trailing', cur) ← blockBreaks outer indent 0 [] cur (fuelFor cur)
      blockLines literal outer indent (done ++ joint ++ trailing ++ text) leading trailing' blank cur
        fuel
    else some (done, leading, trailing, cur)

def blockScalar (literal : Bool) (outer : Int) (cur : Cursor) : Option (Text × Cursor) := do
  let (chomping, increment, width) ← blockHeader cur.rest
  let cur := (cur.skip width).skipRun isSpace
  let cur := if cur.rest.head? = some '#' then cur.skipRun fun c => !isBreak c else cur
  if !atLineEnd cur.rest then none
  let cur := cur.skipBreak
  let given := if increment = 0 then 0
    else if 0 ≤ outer then outer.toNat + increment else increment
  let (indent, trailing, cur) ← blockBreaks outer given 0 [] cur (fuelFor cur)
  let (text, leading, trailing, cur) ←
    blockLines literal outer indent [] [] trailing false cur (fuelFor cur)
  let ending := match chomping with
    | .strip => []
    | .clip => leading
    | .keep => leading ++ trailing
  some (text ++ ending, cur)

end ComponentLoader.Yaml
