import ComponentLoader.Options
import ComponentLoader.Regex.Meaning
import ComponentLoader.Host.Module

namespace ComponentLoader

def isComponentCompiler (stage : Text) : Bool :=
  stageHead stage == "vue".toList || stageHead stage == "vue-loader".toList

def isTranspiler (stage : Text) : Bool :=
  stageHead stage == "babel".toList || stageHead stage == "babel-loader".toList ||
    stageHead stage == "ts-loader".toList

namespace Rule

def ofLoader (test loader : Text) : Rule := { test := some test, loader := some loader }

def insertOwnStage (own : Text) : List StageEntry → List StageEntry
  | [] => []
  | e :: es =>
    if isComponentCompiler e.loader then .name own :: e :: es else e :: insertOwnStage own es

def forComponents? (chain : Text) (format : RuleFormat) (r : Rule) : Option Rule :=
  let own := chainHead chain
  match r.use, r.head? with
  | some entries, _ =>
    if entries.any fun e => isComponentCompiler e.loader then
      if entries.any fun e => e.loader == own then some r
      else some { r with use := some (insertOwnStage own entries) }
    else none
  | none, some head =>
    if head = own then some r
    else if isComponentCompiler head then
      match r.options, format with
      | some options, .modern =>
        some { r with
          loader := none
          options := none
          use := some [.name own, .stage (r.loader.getD []) (some options)] }
      | _, _ => some { r with loader := some chain }
    else none
  | none, none => none

def withScriptStage (stage : Text) (format : RuleFormat) (r : Rule) : Rule :=
  match r.use, r.loader with
  | some entries, _ =>
    if (entries.any fun e => isTranspiler e.loader) && !(entries.any fun e => e.loader == stage) then
      { r with use := some (entries ++ [.name stage]) }
    else r
  | none, some loader =>
    if isTranspiler (chainHead loader) && !(Text.splitOn '!' loader).contains stage then
      match r.options, format with
      | some options, .modern =>
        { r with
          loader := none
          options := none
          use := some [.stage loader (some options), .name stage] }
      | _, _ => { r with loader := some (loader ++ '!' :: stage) }
    else r
  | none, none => r

def componentTest : Text := "\\.vue$".toList

-- The rule for the scripts of the kit itself; they only go through the transpiler.
def ofKit (cwd : Text) (o : Options) : Rule where
  test := some ("node_modules.*".toList ++ Regex.escapeText o.kit ++ ".src.*?js$".toList)
  loader := some "babel-loader".toList
  directory := some (o.kitRoot cwd)

def adaptComponents (chain : Text) (format : RuleFormat) (rules : List Rule) : List Rule :=
  let adapted := rules.map fun r => (r.forComponents? chain format).getD r
  if rules.any fun r => (r.forComponents? chain format).isSome then adapted
  else adapted ++ [ofLoader componentTest chain]

def isKitRule (cwd : Text) (o : Options) (r : Rule) : Bool :=
  o.compileKitSource && r.test == (ofKit cwd o).test

def addKitRule (cwd : Text) (o : Options) (rules : List Rule) : List Rule :=
  if o.compileKitSource && !rules.any (isKitRule cwd o) then rules ++ [ofKit cwd o] else rules

def adaptAll (cwd : Text) (o : Options) (format : RuleFormat) (rules : List Rule) : List Rule :=
  let rules :=
    if o.adaptsComponents then adaptComponents o.componentChain format rules else rules
  addKitRule cwd o (rules.map fun r =>
    if isKitRule cwd o r then r else r.withScriptStage o.jsStage format)

end Rule

def Module.adapt (cwd : Text) (o : Options) (format : RuleFormat) (m : Module) : Module :=
  m.setRules format (Rule.adaptAll cwd o format (m.rulesOf format))

end ComponentLoader
