import ComponentLoader.Options
import ComponentLoader.Json.Record

namespace ComponentLoader.Options

def defaults : Options := {}

def ofJson? (v : Json) : Option Options := do
  guard (v.isRecord 20)
  let text (name : String) (place : Nat) (default : Text) : Option Text :=
    Json.orDefault Json.text? default (v.part? name place)
  let flag (name : String) (place : Nat) (default : Bool) : Option Bool :=
    Json.orDefault Json.bool? default (v.part? name place)
  let text? (name : String) (place : Nat) : Option (Option Text) :=
    Json.optional Json.text? (v.part? name place)
  let flag? (name : String) (place : Nat) : Option (Option Bool) :=
    Json.optional Json.bool? (v.part? name place)
  return {
    projectRoot := ← text? "project_root" 0
    modernRules := ← flag? "is_webpack2" 1
    quiet := ← flag "is_test" 2 defaults.quiet
    env := ← text? "env" 3
    kit := ← text "ui_kit" 4 defaults.kit
    sourceRoot := ← text? "source_root" 5
    expandKit := ← flag "use_kit_ui" 6 defaults.expandKit
    kitDev := ← flag "kit_dev" 7 defaults.kitDev
    kitDir := ← text? "resolve_kit_dir" 8
    rootEntry := ← text "root_entry" 9 defaults.rootEntry
    compileKitSource := ← flag "compile_kit_source" 10 defaults.compileKitSource
    ssr := ← flag "ssr" 11 defaults.ssr
    componentChain := ← text "loader_string" 12 defaults.componentChain
    adaptComponentRules := ← flag? "rewrite_loader_string" 13
    preprocessor := ← text "preprocessor" 14 defaults.preprocessor
    scriptStage := ← text "script_stage" 15 defaults.scriptStage
    styleStage := ← text "style_stage" 16 defaults.styleStage
    templateStage := ← text "template_stage" 17 defaults.templateStage
    beforeTemplateStage := ← text "before_template_stage" 18 defaults.beforeTemplateStage
    jsStage := ← text "js_stage" 19 defaults.jsStage }

end ComponentLoader.Options
