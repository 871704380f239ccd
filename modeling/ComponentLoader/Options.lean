import ComponentLoader.Path

namespace ComponentLoader

structure Options where
  projectRoot : Option Text := none
  -- Forces one of the two formats of module rules.
  modernRules : Option Bool := none
  quiet : Bool := false
  env : Option Text := none
  kit : Text := "vux".toList
  -- Directory in the kit's package that mapped paths start from.
  sourceRoot : Option Text := none
  expandKit : Bool := false
  kitDev : Bool := false
  -- Replaces the computed relative directory of kit imports.
  kitDir : Option Text := none
  rootEntry : Text := "App.vue".toList
  compileKitSource : Bool := false
  ssr : Bool := false
  componentChain : Text := "vux-loader!vue-loader".toList
  adaptComponentRules : Option Bool := none
  preprocessor : Text := "less-loader".toList
  scriptStage : Text := "vux-loader/src/script-loader.js".toList
  styleStage : Text := "vux-loader/src/style-loader.js".toList
  templateStage : Text := "vux-loader/src/template-loader.js".toList
  beforeTemplateStage : Text := "vux-loader/src/before-template-compiler-loader.js".toList
  jsStage : Text := "vux-loader/src/js-loader.js".toList
  deriving DecidableEq

namespace Options

def rootDir (cwd : Text) (o : Options) : Text := Path.absolute cwd (o.projectRoot.getD [])

def kitRoot (cwd : Text) (o : Options) : Text :=
  Path.join (Path.join (o.rootDir cwd) "node_modules".toList) o.kit

def kitPath (o : Options) : Text :=
  match o.sourceRoot with
  | some (c :: root) => o.kit ++ '/' :: c :: root
  | _ => o.kit

def sourceDir (o : Options) : Text := o.sourceRoot.getD "src".toList

def adaptsComponents (o : Options) : Bool := o.adaptComponentRules.getD true

-- The manifest is the project's own while the kit is developed.
def componentMapPath (cwd : Text) (o : Options) : Text :=
  Path.join (if o.kitDev then o.rootDir cwd else o.kitRoot cwd)
    "src/components/map.json".toList

def kitLocalesPath (cwd : Text) (o : Options) : Text :=
  Path.join (o.kitRoot cwd) "src/locales/all.yml".toList

def projectLocalesPath (cwd : Text) (o : Options) : Text :=
  Path.join (o.rootDir cwd) "src/global_locales.yml".toList

def componentLocalesPath (cwd : Text) (o : Options) : Text :=
  Path.join (o.rootDir cwd) "src/locales/components_locales.yml".toList

end Options
end ComponentLoader
