import ComponentLoader.Settings
import ComponentLoader.Stylesheet
import ComponentLoader.Host.Module

namespace ComponentLoader

inductive HostPlugin where
  | loaderOptions (settings : Settings)
  | define (constants : OrderedMap Text Json)
  | buildDone (callbacks : List Text)
  | emit (callback : EmitFn)
  | duplicateStyle
  | htmlBuild (callback : SourceFn)
  | other (name : Text)

namespace HostPlugin

-- The plugins that every merge makes anew.
def isMadeByMerge : HostPlugin → Bool
  | buildDone _ | emit _ | duplicateStyle | htmlBuild _ => true
  | _ => false

def settings? : HostPlugin → Option Settings
  | loaderOptions s => some s
  | _ => none

def defines (name : Text) : HostPlugin → Bool
  | define constants => constants.contains name
  | _ => false

def callbacks : HostPlugin → List Text
  | buildDone ids => ids
  | _ => []

def isStylesheet (name : Text) : Bool := Text.endsWith ".css".toList name

def passAssets (assets : Assets) : HostPlugin → Assets
  | emit callback => callback assets
  | duplicateStyle =>
    assets.map fun name content => if isStylesheet name then Stylesheet.dedupe content else content
  | _ => assets

def passPage (page : Text) : HostPlugin → Text
  | htmlBuild callback => callback page
  | _ => page

end HostPlugin

-- What merges leave behind: how many there were, and the descriptors of all of them.
structure MergeHistory where
  merges : UInt32
  plugins : List Descriptor

structure Host where
  module : Module := {}
  plugins : List HostPlugin := []
  ownSettings : Option Settings := none
  history : Option MergeHistory := none

namespace Host

-- The settings that the loaders are handed: those of the last plugin that has some.
def settings? (h : Host) : Option Settings :=
  (h.plugins.reverse.findSome? HostPlugin.settings?).or h.ownSettings

def exchange (s : Settings) : List HostPlugin → List HostPlugin
  | [] => []
  | p :: ps => if p.settings?.isSome then .loaderOptions s :: ps else p :: exchange s ps

def hasLoaderOptions (h : Host) : Bool := h.plugins.any (·.settings?.isSome)

def updateSettings (h : Host) (s : Settings) : Host :=
  if h.hasLoaderOptions then { h with plugins := (exchange s h.plugins.reverse).reverse }
  else { h with ownSettings := some s }

def isDefined (h : Host) (name : Text) : Bool := h.plugins.any (·.defines name)

def buildDone (h : Host) : List Text := h.plugins.flatMap (·.callbacks)

def emit (h : Host) (assets : Assets) : Assets := h.plugins.foldl HostPlugin.passAssets assets

def html (h : Host) (page : Text) : Text := h.plugins.foldl HostPlugin.passPage page

end Host
end ComponentLoader
