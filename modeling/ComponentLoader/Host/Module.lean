import ComponentLoader.Json.Parser
import ComponentLoader.Json.Printer
import ComponentLoader.Json.Record

namespace ComponentLoader

inductive RuleFormat where
  | modern
  | legacy
  deriving DecidableEq

def RuleFormat.key : RuleFormat → Text
  | modern => "rules".toList
  | legacy => "loaders".toList

inductive StageEntry where
  | name (loader : Text)
  | stage (loader : Text) (options : Option Json)

def StageEntry.loader : StageEntry → Text
  | name l => l
  | stage l _ => l

structure Rule where
  test : Option Text := none
  loader : Option Text := none
  options : Option Json := none
  use : Option (List StageEntry) := none
  directory : Option Text := none

structure Module where
  rules : Option (List Rule) := none
  loaders : Option (List Rule) := none

def stageHead (stage : Text) : Text := stage.takeWhile (· ≠ '?')

def chainHead (chain : Text) : Text := chain.takeWhile (· ≠ '!')

def Rule.head? (r : Rule) : Option Text := r.loader.map fun loader => stageHead (chainHead loader)

namespace Module

def rulesOf (m : Module) : RuleFormat → List Rule
  | .modern => m.rules.getD []
  | .legacy => m.loaders.getD []

def setRules (m : Module) (format : RuleFormat) (rules : List Rule) : Module :=
  match format with
  | .modern => { m with rules := some rules }
  | .legacy => { m with loaders := some rules }

-- The format asked for, else the one the module has rules in.
def format (m : Module) : (asked : Option Bool) → RuleFormat
  | some true => .modern
  | some false => .legacy
  | none => if m.rules.isNone ∧ m.loaders.isSome then .legacy else .modern

end Module

-- Only the rules and the module may be written as arrays.
def StageEntry.ofJson? : Json → Option StageEntry
  | .string s => some (.name s)
  | v => do
    guard v.isObject
    return .stage
      (← Json.required Json.text? (v.part? "loader" 0))
      (← Json.optional (some ·.canonical) (v.part? "options" 1))

def StageEntry.toJson : StageEntry → Json
  | .name s => .string s
  | .stage loader options =>
    .object (("loader".toList, .string loader) :: Json.member? "options" options)

def Rule.ofJson? (v : Json) : Option Rule := do
  guard (v.isRecord 5)
  return {
    test := ← Json.optional Json.text? (v.part? "test" 0)
    loader := ← Json.optional Json.text? (v.part? "loader" 1)
    options := ← Json.optional (some ·.canonical) (v.part? "options" 2)
    use := ← Json.optional (Json.list? StageEntry.ofJson?) (v.part? "use" 3)
    directory := ← Json.optional Json.text? (v.part? "include" 4) }

def Rule.toJson (r : Rule) : Json :=
  .object (Json.member? "include" (r.directory.map .string) ++
    Json.member? "loader" (r.loader.map .string) ++
    Json.member? "options" r.options ++
    Json.member? "test" (r.test.map .string) ++
    Json.member? "use" (r.use.map fun entries => .array (entries.map StageEntry.toJson)))

def Module.ofJson? (v : Json) : Option Module := do
  guard (v.isRecord 2)
  return {
    rules := ← Json.optional (Json.list? Rule.ofJson?) (v.part? "rules" 0)
    loaders := ← Json.optional (Json.list? Rule.ofJson?) (v.part? "loaders" 1) }

def Module.toJson (m : Module) : Json :=
  .object (Json.member? "loaders" (m.loaders.map fun rules => .array (rules.map Rule.toJson)) ++
    Json.member? "rules" (m.rules.map fun rules => .array (rules.map Rule.toJson)))

def Module.render (m : Module) : Text := m.toJson.render

def Module.parse? (text : Text) : Option Module := do
  let v ← Json.parse? text
  guard (v.depth ≤ 127)
  Module.ofJson? v

end ComponentLoader
