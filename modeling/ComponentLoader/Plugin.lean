import ComponentLoader.Regex.Program
import ComponentLoader.Template.Process

namespace ComponentLoader

abbrev Assets := OrderedMap Text Text

abbrev EmitFn := Assets → Assets

inductive Plugin where
  | scriptParser (transform : SourceFn)
  | templateParser (transform : Option SourceFn) (replacements : List (Regex × Text))
  | styleParser (transform : SourceFn)
  | jsParser (transform : SourceFn)
  | featureSwitch (flags : FeatureFlags)
  -- Is called when a build is done; the text identifies the callback.
  | doneCallback (callback : Text)
  | emitCallback (callback : EmitFn)
  -- Locale of kit templates; `atRunTime` leaves the texts to run time.
  | i18n (locale : Text) (atRunTime : Bool)
  | lessTheme (path : Text) (aliases : OrderedMap Text Text)
  | kitUi
  | duplicateStyle
  | templateAppend (generate : Template.AppendFn)
  | htmlCallback (callback : SourceFn)

namespace Plugin

def kindName : Plugin → Text
  | scriptParser _ => "script-parser".toList
  | templateParser _ _ => "template-parser".toList
  | styleParser _ => "style-parser".toList
  | jsParser _ => "js-parser".toList
  | featureSwitch _ => "template-feature-switch".toList
  | doneCallback _ => "build-done-callback".toList
  | emitCallback _ => "build-emit-callback".toList
  | i18n _ _ => "i18n".toList
  | lessTheme _ _ => "less-theme".toList
  | kitUi => "vux-ui".toList
  | duplicateStyle => "duplicate-style".toList
  | templateAppend _ => "template-string-append".toList
  | htmlCallback _ => "html-build-callback".toList

end Plugin

structure Descriptor where
  name : Text
  plugin : Plugin
  test : Option Regex := none
  -- The environments it is active in, all when empty.
  envs : List Text := []

namespace Descriptor

def isActiveIn (d : Descriptor) (env : Option Text) : Bool :=
  d.envs.isEmpty || env.any fun e => d.envs.contains e

def covers (d : Descriptor) (path : Text) : Bool := d.test.all (·.isMatch path)

end Descriptor
end ComponentLoader
