import ComponentLoader.Theme.Variables
import ComponentLoader.Json.Printer
import ComponentLoader.Text.Piece

namespace ComponentLoader

inductive Block where
  | script
  | template
  | style
  deriving DecidableEq

namespace Block

def name : Block → Text
  | script => "script".toList
  | template => "template".toList
  | style => "style".toList

def marker (b : Block) : Text := "type=".toList ++ b.name

end Block

abbrev Segment := Text

namespace Segment

def stageName (s : Segment) : Text := s.takeWhile (· ≠ '?')

def isMarked (b : Block) (s : Segment) : Bool := Text.contains b.marker s

end Segment

structure Chain where
  segments : List Segment
  deriving DecidableEq

namespace Chain

def parse (chain : Text) : Chain := ⟨Text.splitOn '!' chain⟩

def render (c : Chain) : Text := Text.join ['!'] c.segments

def hasStage (c : Chain) (stage : Text) : Bool := c.segments.contains stage

def selector? (c : Chain) (b : Block) : Option Nat := c.segments.findIdx? (·.isMarked b)

-- The stage put before the segment at `index`; beyond the end there is no place for it.
def insertAt? (c : Chain) (index : Nat) (stage : Text) : Option Chain :=
  if index ≤ c.segments.length then
    some ⟨c.segments.take index ++ stage :: c.segments.drop index⟩
  else none

def insertBehind (c : Chain) (mark stage : Text) : Chain :=
  ⟨c.segments.flatMap fun s => if Text.contains mark s then [s, stage] else [s]⟩

def themeQuery (theme : ThemeVariables) (sourceMap : Bool) : Json :=
  .object (("modifyVars".toList,
      .object (theme.entries.map fun (name, value) => (name, .string value))) ::
    if sourceMap then [("sourceMap".toList, .bool true)] else [])

-- Double quotes would end the request, so the query has single ones.
def themedSegment (theme : ThemeVariables) (s : Segment) : Segment :=
  s.stageName ++ '?' ::
    (themeQuery theme (Text.contains "sourceMap".toList s)).render.map fun c =>
      if c = '"' then '\'' else c

def isStageOf (preprocessor : Text) (s : Segment) : Bool := Text.contains preprocessor s.stageName

def withTheme (c : Chain) (preprocessor : Text) (theme : ThemeVariables) : Chain :=
  ⟨c.segments.dropLast.map (fun s =>
      if isStageOf preprocessor s then themedSegment theme s else s) ++
    c.segments.getLast?.toList⟩

end Chain
end ComponentLoader
