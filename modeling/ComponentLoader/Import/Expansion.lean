import ComponentLoader.Import.Statement
import ComponentLoader.ComponentMap
import ComponentLoader.Options

namespace ComponentLoader

inductive KitPaths where
  | packaged
  | relative
  deriving DecidableEq

structure Expansion where
  kit : Text
  -- What gives way to a relative directory while the kit is developed.
  kitPath : Text
  paths : KitPaths
  resource : Text
  rootEntry : Text
  overrideDir : Option Text
  sourceDir : Text
  deriving DecidableEq

namespace Expansion

def ofOptions (o : Options) (resource : Text) : Expansion where
  kit := o.kit
  kitPath := o.kitPath
  paths := if o.kitDev then .relative else .packaged
  resource := resource
  rootEntry := o.rootEntry
  overrideDir := o.kitDir
  sourceDir := o.sourceDir

def fromClause : Scanner Text
  | '\x7d' :: s =>
    match Text.dropPrefix? "from".toList (Text.trimStart s) with
    | none => none
    | some r =>
      match Text.trimStart r with
      | [] => none
      | q :: r =>
        match r.dropWhile ImportStatement.isSpecifierChar with
        | close :: rest =>
          let module := r.takeWhile ImportStatement.isSpecifierChar
          if ImportStatement.isQuote q ∧ ImportStatement.isQuote close ∧ module ≠ [] then
            some (module, rest)
          else none
        | [] => none
  | _ => none

def mayOccur (kit source : Text) : Bool :=
  (fromClause.items source).any fun module =>
    module == kit || Text.startsWith (kit ++ ['/']) module

def liesInKit (e : Expansion) : Bool :=
  Text.contains ('/' :: e.kit ++ '/' :: e.sourceDir ++ ['/']) (Path.withSlashes e.resource)

-- The directory that stands for the kit in a relative import. The root component lies beside it,
-- an override is taken as it is, demos climb to the directory of the first `demos`.
def relativeDir (e : Expansion) : Text :=
  if Path.lastName e.resource = e.rootEntry then ['.']
  else
    match e.overrideDir with
    | some dir => Text.dropEndWhile (· == '/') dir
    | none =>
      match Path.aboveDir? e.resource "demos".toList with
      | some (above, depth) =>
        (Path.relative? (Path.directory e.resource) above).getD
          (Text.join ['/'] (List.replicate depth "..".toList))
      | none =>
        if e.liesInKit ∧ Path.directoryName? e.resource ≠ some "components".toList then
          "../..".toList
        else "..".toList

def specifier (e : Expansion) (path : Text) : Text :=
  match e.paths with
  | .packaged => path
  | .relative =>
    match Text.dropPrefix? (e.kitPath ++ ['/']) path with
    | some rest => e.relativeDir ++ '/' :: rest
    | none => path

def dropDotSlash : Text → Text
  | '.' :: '/' :: r => dropDotSlash r
  | s => s

def importLine (e : Expansion) (binding mapped : Text) : Text :=
  "import ".toList ++ binding ++ " from '".toList ++
    e.specifier (e.kit ++ '/' :: dropDotSlash mapped) ++ ['\'']

-- A name with an empty binding is dropped.
def statementLines (e : Expansion) (map : ComponentMap) :
    List ImportedName → Except LoadError (List Text)
  | [] => .ok []
  | name :: rest =>
    if name.binding = [] then e.statementLines map rest
    else
      match map.get? name.exported with
      | none => .error (.unresolvedComponent name.exported e.kit e.resource)
      | some mapped =>
        (e.statementLines map rest).map (e.importLine name.binding mapped :: ·)

def replacement (e : Expansion) (map : ComponentMap) (statement : ImportStatement) :
    Except LoadError Text :=
  (e.statementLines map statement.names).map (Text.join ['\n'])

def expand (e : Expansion) (map : ComponentMap) (source : Text) : Except LoadError Text :=
  if mayOccur e.kit source then
    ImportStatement.replaceM (some e.kit) (fun _ statement => e.replacement map statement) source
  else .ok source

end Expansion
end ComponentLoader
