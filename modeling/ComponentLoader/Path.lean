import ComponentLoader.Text.Piece

namespace ComponentLoader.Path

def withSlashes (path : Text) : Text := path.map fun c => if c = '\\' then '/' else c

inductive Component where
  | root
  | current
  | parent
  | name (text : Text)
  deriving DecidableEq

def Component.text : Component → Text
  | root => ['/']
  | current => ['.']
  | parent => ['.', '.']
  | name t => t

def isAbsolute (path : Text) : Bool := path.head? == some '/'

def Component.ofSegment? (segment : Text) : Option Component :=
  if segment = [] ∨ segment = ['.'] then none
  else if segment = ['.', '.'] then some .parent
  else some (.name segment)

-- A `.` counts only at the front of a relative path.
def components (path : Text) : List Component :=
  let segments := Text.splitOn '/' path
  let front :=
    if isAbsolute path then [Component.root]
    else if segments.head? = some ['.'] then [.current]
    else []
  front ++ segments.filterMap Component.ofSegment?

def front (path : Text) : Text × Text :=
  match path with
  | '/' :: r => (['/'], r)
  | ['.'] => (['.'], [])
  | '.' :: '/' :: r => (['.'], '/' :: r)
  | r => ([], r)

def isIdle (segment : Text) : Bool := segment.isEmpty || segment == ['.']

-- The path without its last component and without separators behind what is left; none for a path
-- that has no component but the root.
def parent? (path : Text) : Option Text :=
  let (front, body) := front path
  match (Text.splitOn '/' body).reverse.dropWhile isIdle with
  | [] => if front = ['.'] then some [] else none
  | _ :: above => some (front ++ Text.join ['/'] (above.dropWhile isIdle).reverse)

def directory (path : Text) : Text := (parent? (withSlashes path)).getD []

def lastName (path : Text) : Text := ((Text.splitOn '/' (withSlashes path)).getLast?).getD []

def directoryName? (path : Text) : Option Text :=
  let above := directory path
  if above = [] then none else some (lastName above)

def aboveDir? (path dir : Text) : Option (Text × Nat) :=
  let segments := Text.splitOn '/' (withSlashes path)
  let above := segments.takeWhile (· ≠ dir)
  if above.length + 1 < segments.length then
    some (Text.join ['/'] above, segments.length - above.length - 1)
  else none

def join (base path : Text) : Text :=
  if isAbsolute path then path
  else if base = [] ∨ base.getLast? = some '/' then base ++ path
  else base ++ '/' :: path

-- From the components of a base to those of a path: the common start is left out, each component
-- of the base that is left is climbed. A base that climbs itself cannot be compared any further.
def climb (path base : List Component) : Option (List Component) :=
  match path, base with
  | [], [] => some []
  | p, [] => some p
  | [], b => some (b.map fun _ => .parent)
  | p :: ps, b :: bs => if p = b then climb ps bs else diverge (p :: ps) (b :: bs)
where
  diverge : List Component → List Component → Option (List Component)
    | p, [] => some p
    | [], b => some (b.map fun _ => .parent)
    | p :: ps, .current :: bs => (diverge ps bs).map (p :: ·)
    | _ :: _, .parent :: _ => none
    | p, b => some (b.map (fun _ => .parent) ++ p)

def difference? (path base : Text) : Option Text :=
  if isAbsolute path = isAbsolute base then
    (climb (components path) (components base)).map fun cs => Text.join ['/'] (cs.map (·.text))
  else if isAbsolute path then some path
  else none

-- Only the components are compared, no file is looked at.
def relative? (fromDir toDir : Text) : Option Text :=
  (difference? toDir fromDir).map fun diff =>
    let diff := withSlashes diff
    if diff = [] then ['.']
    else if Text.startsWith ['.', '.'] diff then diff
    else withSlashes (join ['.', '/'] diff)

def resolve (components : List Component) : List Text :=
  components.foldl (fun names c =>
    match c with
    | .name t => names ++ [t]
    | .parent => names.dropLast
    | _ => names) []

def ofNames (names : List Text) : Text := '/' :: Text.join ['/'] names

def absolute (cwd path : Text) : Text := ofNames (resolve (components (join cwd path)))

end ComponentLoader.Path
