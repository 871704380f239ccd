import ComponentLoader.Text.Basic

namespace ComponentLoader.Yaml

def isBreak (c : Char) : Bool :=
  c == '\n' || c == '\r' || c.toNat == 0x85 || c.toNat == 0x2028 || c.toNat == 0x2029

def isSpace (c : Char) : Bool := c == ' ' || c == '\t'

def isBlankOrBreak (c : Char) : Bool := isSpace c || isBreak c

def atGap (s : Text) : Bool := s.head?.all isBlankOrBreak

def atLineEnd (s : Text) : Bool := s.head?.all isBreak

def isAllowed (c : Char) : Bool :=
  let n := c.toNat
  n == 0x09 || n == 0x0A || n == 0x0D || (0x20 ≤ n && n ≤ 0x7E) || n == 0x85 ||
    (0xA0 ≤ n && n ≤ 0xFFFD) || 0x10000 ≤ n

structure Cursor where
  rest : Text
  index : Nat := 0
  line : Nat := 0
  column : Nat := 0

namespace Cursor

def skip (cur : Cursor) (n : Nat) : Cursor :=
  { cur with rest := cur.rest.drop n, index := cur.index + n, column := cur.column + n }

def takeRun (cur : Cursor) (p : Char → Bool) : Text × Cursor :=
  let run := cur.rest.takeWhile p
  (run, cur.skip run.length)

def skipRun (cur : Cursor) (p : Char → Bool) : Cursor := (cur.takeRun p).2

-- The byte order mark that a line may begin with; it has a column of its own.
def skipMark (cur : Cursor) : Cursor :=
  if cur.column = 0 ∧ cur.rest.head?.any (fun c => c.toNat == 0xFEFF) then cur.skip 1 else cur

def nextLine (cur : Cursor) (rest : Text) (n : Nat) : Cursor :=
  { rest := rest, index := cur.index + n, line := cur.line + 1, column := 0 }

-- A break as text, and the line behind it. A carriage return and a line feed are one break.
def takeBreak (cur : Cursor) : Text × Cursor :=
  match cur.rest with
  | '\r' :: '\n' :: r => (['\n'], cur.nextLine r 2)
  | c :: r =>
    if c.toNat = 0x2028 ∨ c.toNat = 0x2029 then ([c], cur.nextLine r 1)
    else if isBreak c then (['\n'], cur.nextLine r 1)
    else ([], cur)
  | [] => ([], cur)

def skipBreak (cur : Cursor) : Cursor := cur.takeBreak.2

def atBreak (cur : Cursor) : Bool := cur.rest.head?.any isBreak

def atMark (cur : Cursor) (c : Char) : Bool :=
  cur.column == 0 && cur.rest.take 3 == [c, c, c] && atGap (cur.rest.drop 3)

def atDocumentMark (cur : Cursor) : Bool := cur.atMark '-' || cur.atMark '.'

end Cursor
end ComponentLoader.Yaml
