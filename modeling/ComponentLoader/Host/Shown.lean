import ComponentLoader.Host.Basic
import ComponentLoader.Text.Quoted

namespace ComponentLoader

def shownEntries (entries : List (Text × Text)) : Text :=
  '\x7b' :: Text.join ", ".toList (entries.map fun (k, v) => k ++ ':' :: ' ' :: v) ++ ['\x7d']

def shownMap (text : β → Text) (m : OrderedMap Text β) : Text :=
  shownEntries (m.entries.map fun (k, v) => (Text.quoted k, text v))

def shownBool (b : Bool) : Text := if b then "true".toList else "false".toList

namespace Json

mutual

def shown : Json → Text
  | null => "Null".toList
  | bool b => "Bool(".toList ++ shownBool b ++ [')']
  | number n => "Number(".toList ++ n.render true ++ [')']
  | string s => "String(".toList ++ Text.quoted s ++ [')']
  | array items => "Array [".toList ++ Text.join ", ".toList (shownItems items) ++ [']']
  | object members => "Object ".toList ++ shownEntries (shownMembers members)

def shownItems : List Json → List Text
  | [] => []
  | v :: r => v.shown :: shownItems r

def shownMembers : List (Text × Json) → List (Text × Text)
  | [] => []
  | (k, v) :: r => (Text.quoted k, v.shown) :: shownMembers r

end

end Json

def shownRecord (name : String) (fields : List (String × Text)) : Text :=
  name.toList ++ " \x7b ".toList ++
    Text.join ", ".toList (fields.map fun (f, v) => f.toList ++ ':' :: ' ' :: v) ++ " \x7d".toList

def Plugin.shown : Plugin → Text
  | featureSwitch flags => shownRecord "FeatureSwitch" [("features", shownMap shownBool flags)]
  | i18n locale atRunTime =>
    shownRecord "I18n" [("locale", Text.quoted locale), ("dynamic", shownBool atRunTime)]
  | lessTheme path aliases =>
    shownRecord "LessTheme"
      [("path", Text.quotedPath path), ("aliases", shownMap Text.quoted aliases)]
  | p => p.kindName

def HostPlugin.shown : HostPlugin → Text
  | loaderOptions _ => "LoaderOptions".toList
  | define constants => "Define(".toList ++ shownMap Json.shown constants ++ [')']
  | buildDone ids => "BuildDone(".toList ++ Text.ofNat ids.length ++ " callbacks)".toList
  | emit _ => "Emit".toList
  | duplicateStyle => "DuplicateStyle".toList
  | htmlBuild _ => "HtmlBuild".toList
  | other name => "Other(".toList ++ Text.quoted name ++ [')']

end ComponentLoader
