import ComponentLoader.Text.Basic

namespace ComponentLoader.Stylesheet

-- The braces open behind a character, and whether it closed the last of them. A closing brace that
-- nothing opened counts as text.
def braces (depth : Nat) (c : Char) : Nat × Bool :=
  if c = '\x7b' then (depth + 1, false)
  else if c = '\x7d' ∧ 0 < depth then (depth - 1, depth = 1)
  else (depth, false)

def blocks : (depth : Nat) → Text → List Text × Text
  | _, [] => ([], [])
  | depth, c :: s =>
    match braces depth c with
    | (_, true) =>
      let (bs, rest) := blocks 0 s
      ([c] :: bs, rest)
    | (depth, false) =>
      match blocks depth s with
      | (b :: bs, rest) => ((c :: b) :: bs, rest)
      | ([], rest) => ([], c :: rest)

def firstBlocks (seen : List Text) : List Text → List Text
  | [] => []
  | b :: bs =>
    if Text.trim b ∈ seen then firstBlocks seen bs
    else b :: firstBlocks (Text.trim b :: seen) bs

def dedupe (css : Text) : Text :=
  let (bs, rest) := blocks 0 css
  (firstBlocks [] bs).flatten ++ rest

end ComponentLoader.Stylesheet
