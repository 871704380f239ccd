import ComponentLoader.Path
import ComponentLoader.Error
import ComponentLoader.OrderedMap

namespace ComponentLoader

-- When a file was changed: at a moment of the tree's own clock, which never repeats, or at a time
-- that was set.
inductive Stamp where
  | moment (n : Nat)
  | time (seconds : Int)
  deriving DecidableEq

inductive Node where
  | directory (changed : Stamp)
  -- The text is absent when the bytes are not valid UTF-8.
  | file (text : Option Text) (changed : Stamp)
  deriving DecidableEq

namespace Node

def changed : Node → Stamp
  | directory s => s
  | file _ s => s

def isDirectory : Node → Bool
  | directory _ => true
  | file _ _ => false

end Node

abbrev Names := List Text

structure FileTree where
  cwd : Names
  clock : Nat
  nodes : OrderedMap Names Node

namespace FileTree

def ofDirectory (cwd : Names) : FileTree where
  cwd := cwd
  clock := 1
  nodes := .ofList ((List.range (cwd.length + 1)).map fun n => (cwd.take n, .directory (.moment 0)))

def cwdPath (t : FileTree) : Text := Path.ofNames t.cwd

def node? (t : FileTree) (names : Names) : Except FileError Node :=
  match t.nodes.get? names with
  | some n => .ok n
  | none => .error .notFound

-- Where the segments of a path lead. Even an empty segment asks for a directory before it.
def walk (t : FileTree) (names : Names) : List Text → Except FileError Names
  | [] => .ok names
  | segment :: rest => do
    if !(← t.node? names).isDirectory then throw .notDirectory
    if Path.isIdle segment then t.walk names rest
    else if segment = ['.', '.'] then t.walk names.dropLast rest
    else
      let _ ← t.node? (names ++ [segment])
      t.walk (names ++ [segment]) rest

def start (t : FileTree) (path : Text) : Names := if Path.isAbsolute path then [] else t.cwd

def locate (t : FileTree) (path : Text) : Except FileError (Names × Node) := do
  if path = [] then throw .notFound
  let names ← t.walk (t.start path) (Text.splitOn '/' path)
  return (names, ← t.node? names)

def readText (t : FileTree) (path : Text) : Except FileError Text := do
  match ← t.locate path with
  | (_, .directory _) => throw .isDirectory
  | (_, .file none _) => throw .notText
  | (_, .file (some text) _) => return text

def changed? (t : FileTree) (path : Text) : Option Stamp :=
  match t.locate path with
  | .ok (_, n) => some n.changed
  | .error _ => none

def isDirectory (t : FileTree) (path : Text) : Bool :=
  match t.locate path with
  | .ok (_, n) => n.isDirectory
  | .error _ => false

def put (t : FileTree) (names : Names) (make : Stamp → Node) : FileTree :=
  { t with clock := t.clock + 1, nodes := t.nodes.insert names (make (.moment t.clock)) }

def place (t : FileTree) (path : Text) (ifDirectory : FileError) : Except FileError Names := do
  let segments := Text.splitOn '/' path
  let above ← t.walk (t.start path) segments.dropLast
  if !(← t.node? above).isDirectory then throw .notDirectory
  match segments.getLast? with
  | some last =>
    if Path.isIdle last ∨ last = ['.', '.'] then throw ifDirectory else return above ++ [last]
  | none => throw .notFound

def writeText (t : FileTree) (path : Text) (text : Option Text) (changed : Option Stamp) :
    Except FileError FileTree := do
  let names ← t.place path .isDirectory
  match t.node? names with
  | .ok (.directory _) => throw .isDirectory
  | _ => return t.put names fun now => .file text (changed.getD now)

def dropSlashes (path : Text) : Text := Text.dropEndWhile (· == '/') path

def makeDirectory (t : FileTree) (path : Text) : Except FileError FileTree := do
  let names ← t.place (dropSlashes path) .notDirectory
  match t.node? names with
  | .ok _ => throw .notDirectory
  | .error _ => return t.put names .directory

-- A directory with all that is missing above it. The fuel is more than the path's length.
def makeDirectories (t : FileTree) (path : Text) : (fuel : Nat) → Except FileError FileTree
  | 0 => .error .notFound
  | fuel + 1 =>
    let settle (t : FileTree) (e : FileError) : Except FileError FileTree :=
      if t.isDirectory path then .ok t else .error e
    if path = [] then .ok t
    else
      match t.makeDirectory path with
      | .ok t => .ok t
      | .error .notFound =>
        match Path.parent? path with
        | none => .error .notFound
        | some above => do
          let t ← t.makeDirectories above fuel
          match t.makeDirectory path with
          | .ok t => .ok t
          | .error e => settle t e
      | .error e => settle t e

def createDirectories (t : FileTree) (path : Text) : Except FileError FileTree :=
  t.makeDirectories path (path.length + 1)

def store (t : FileTree) (path : Text) (text : Option Text) (changed : Option Stamp) :
    Except FileError FileTree := do
  let t ← match Path.parent? path with
    | some above => t.createDirectories above
    | none => pure t
  t.writeText path text changed

def remove (t : FileTree) (path : Text) : FileTree :=
  match t.locate path with
  | .ok (names, _) =>
    let gone := t.nodes.keys.filter names.isPrefixOf
    { t with nodes := gone.foldl OrderedMap.erase t.nodes }
  | .error _ => t

end FileTree
end ComponentLoader
