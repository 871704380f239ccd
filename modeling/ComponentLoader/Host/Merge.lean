import ComponentLoader.Host.Basic
import ComponentLoader.Host.Rules
import ComponentLoader.Locale.Table

namespace ComponentLoader

def repeatedName? (seen : List Text) : List Descriptor → Option Text
  | [] => none
  | d :: ds => if d.name ∈ seen then some d.name else repeatedName? (d.name :: seen) ds

namespace Descriptor

-- In the place of the one of that name, else at the end.
def put (d : Descriptor) : List Descriptor → List Descriptor
  | [] => [d]
  | e :: es => if e.name = d.name then d :: es else e :: put d es

def putAll (merged incoming : List Descriptor) : List Descriptor :=
  incoming.foldl (fun ds d => d.put ds) merged

end Descriptor

namespace HostPlugin

def callback? : Plugin → Option Text
  | .doneCallback id => some id
  | _ => none

def ofPlugin? : Plugin → Option HostPlugin
  | .duplicateStyle => some .duplicateStyle
  | .emitCallback callback => some (.emit callback)
  | .htmlCallback callback => some (.htmlBuild callback)
  | _ => none

def sameKind : HostPlugin → HostPlugin → Bool
  | emit _, emit _ => true
  | duplicateStyle, duplicateStyle => true
  | htmlBuild _, htmlBuild _ => true
  | _, _ => false

def firsts (done : List HostPlugin) : List HostPlugin → List HostPlugin
  | [] => done
  | p :: ps => firsts (if done.any (sameKind p) then done else done ++ [p]) ps

-- One plugin for all callbacks of a done build, then the first of each other kind.
def ofActive (active : List Descriptor) : List HostPlugin :=
  let done := active.filterMap fun d => callback? d.plugin
  (if done = [] then [] else [buildDone done]) ++
    firsts [] (active.filterMap fun d => ofPlugin? d.plugin)

end HostPlugin

namespace Settings

-- The component map and the locales are read only where kit imports are expanded.
def build (files : FileTree) (o : Options) (active : List Descriptor) :
    Except LoadError Settings :=
  let s : Settings := { options := o, plugins := active }
  if s.expandsKit then do
    let map ← ComponentMap.load files (o.componentMapPath files.cwdPath)
    return { s with
      componentMap := some map
      locales := LocaleTable.load files (o.kitLocalesPath files.cwdPath)
        (o.projectLocalesPath files.cwdPath) }
  else .ok s

def localeConstant : Text := "__VUX_LOCALE__".toList

def ssrConstant : Text := "__VUX_SSR__".toList

def constants (s : Settings) : List (Text × Json) :=
  [(localeConstant, .string s.i18n.1), (ssrConstant, .bool s.options.ssr)]

end Settings

namespace Host

def mergedPlugins (h : Host) : List Descriptor :=
  match h.history with
  | some history => history.plugins
  | none => []

def merges (h : Host) : UInt32 :=
  match h.history with
  | some history => history.merges
  | none => 0

def define (h : Host) (constants : List (Text × Json)) : Host :=
  match constants.filter fun c => !h.isDefined c.1 with
  | [] => h
  | missing => { h with plugins := h.plugins ++ [.define (.ofList missing)] }

def exchangeMade (h : Host) (made : List HostPlugin) : Host :=
  { h with plugins := h.plugins.filter (!·.isMadeByMerge) ++ made }

def handOver (h : Host) (s : Settings) : RuleFormat → Host
  | .modern =>
    if h.hasLoaderOptions then { h with plugins := exchange s h.plugins }
    else { h with plugins := h.plugins ++ [.loaderOptions s] }
  | .legacy => { h with ownSettings := some s }

def adopt (cwd : Text) (h : Host) (accumulated : List Descriptor) (s : Settings) : Host :=
  let format := h.module.format s.options.modernRules
  let h := { h with
    history := some ⟨h.merges + 1, accumulated⟩
    module := h.module.adapt cwd s.options format }
  ((h.define s.constants).exchangeMade (HostPlugin.ofActive s.plugins)).handOver s format

-- Everything that can fail comes before the host is changed.
def merge (files : FileTree) (h : Host) (o : Options) (incoming : List Descriptor) :
    Except LoadError Host :=
  match repeatedName? [] incoming with
  | some name => .error (.duplicatePlugin name)
  | none => do
    let accumulated := Descriptor.putAll h.mergedPlugins incoming
    let s ← Settings.build files o (accumulated.filter (·.isActiveIn o.env))
    return h.adopt files.cwdPath accumulated s

end Host
end ComponentLoader
