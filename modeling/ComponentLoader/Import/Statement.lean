import ComponentLoader.Text.Piece
import ComponentLoader.Regex.Meaning

namespace ComponentLoader

structure ImportedName where
  exported : Text
  -- The binding: the exported name without an alias, empty for `A as`.
  binding : Text
  deriving DecidableEq

structure ImportStatement where
  module : Text
  names : List ImportedName
  deriving DecidableEq

namespace ImportedName

def parse (entry : Text) : ImportedName :=
  match Text.words entry with
  | [exported, ['a', 's'], binding] => ⟨exported, binding⟩
  | [exported, ['a', 's']] => ⟨exported, []⟩
  | _ => ⟨entry, entry⟩

def parseAll (clause : Text) : List ImportedName :=
  (((Text.splitOn ',' clause).map Text.trim).filter fun e => !e.isEmpty).map parse

end ImportedName

namespace ImportStatement

def isOutside (c : Char) : Bool := c != '\x7b' && c != '\x7d' && c != ';' && c != '\n'

def isInside (c : Char) : Bool := c != '\x7b' && c != '\x7d' && c != '\n'

def isQuote (c : Char) : Bool := c == '\'' || c == '"'

def isSpecifierChar (c : Char) : Bool := !isQuote c && c != '\n'

def specifier (module? : Option Text) : Scanner Text := fun s =>
  match module? with
  | some module =>
    match Text.dropPrefix? module s with
    | some (q :: r) => if isQuote q then some (module, r) else none
    | _ => none
  | none =>
    match s.dropWhile isSpecifierChar with
    | q :: r => if isQuote q then some (s.takeWhile isSpecifierChar, r) else none
    | [] => none

def fromClause (module? : Option Text) : Scanner Text := fun s =>
  match Text.dropPrefix? "from".toList s with
  | none => none
  | some r =>
    match r.dropWhile fun c => isBlank c && c != '\n' with
    | q :: r => if isQuote q then specifier module? r else none
    | [] => none

-- The first `from` clause of the module before the statement has to end.
def findFrom (module? : Option Text) : Scanner Text
  | [] => none
  | c :: s =>
    match fromClause module? (c :: s) with
    | some found => some found
    | none => if isOutside c then findFrom module? s else none

def scanner (module? : Option Text) : Scanner ImportStatement := fun s =>
  match Text.dropPrefix? "import".toList s with
  | none => none
  | some r =>
    match r.dropWhile isOutside with
    | '\x7b' :: r =>
      match r.dropWhile isInside with
      | '\x7d' :: rest =>
        (findFrom module? rest).map fun (module, rest) =>
          (⟨module, ImportedName.parseAll (r.takeWhile isInside)⟩, rest)
      | _ => none
    | _ => none

def mayOccur (module? : Option Text) (source : Text) : Bool :=
  Text.contains "import".toList source && module?.all fun module => Text.contains module source

def pattern (module : Text) : Text :=
  "import[^\x7b\x7d;\\n]*\\\x7b([^\x7b\x7d\\n]*)\\\x7d[^\x7b\x7d;\\n]*?".toList ++
    "from[^\\S\\n]*['\"](".toList ++ Regex.escapeText module ++ ")['\"]".toList

-- The pattern of a very long name is too large.
def compiles (module? : Option Text) : Bool :=
  module?.all fun module => (Regex.parse? (pattern module)).isSome

def replaceM [Monad m] (module? : Option Text) (f : (raw : Text) → ImportStatement → m Text)
    (source : Text) : m Text :=
  if mayOccur module? source && compiles module? then (scanner module?).replaceM f source
  else pure source

end ImportStatement
end ComponentLoader
