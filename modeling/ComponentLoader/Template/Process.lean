import ComponentLoader.Markup.Tag
import ComponentLoader.Text.Piece
import ComponentLoader.Unicode.Trait
import ComponentLoader.Template.Localization
import ComponentLoader.Regex.Replacement
import ComponentLoader.Path

namespace ComponentLoader

abbrev FeatureFlags := OrderedMap Text Bool

namespace FeatureFlags

def isOn (flags : FeatureFlags) (tag : Tag) : Bool :=
  ((tag.attributes.get? "feature".toList).bind flags.get?).getD false

def strip (flags : FeatureFlags) (source : Text) : Text :=
  let kept (on : Bool) (tag : Tag) : Text :=
    if flags.isOn tag = on then tag.inner.getD [] else []
  Tag.replace (Tag.replace source "on".toList fun _ tag => kept true tag) "off".toList
    fun _ tag => kept false tag

def mayOccur (source : Text) : Bool :=
  Text.contains "<on".toList source || Text.contains "<off".toList source

end FeatureFlags

abbrev SourceFn := Text → Text

namespace Template

abbrev AppendFn := (basename path : Text) → Option Text

def isClosingTag : Text → Bool
  | '<' :: '/' :: c :: r =>
    c.isAlpha && (r.dropWhile fun c => isWordChar c || c == '-') == ['>']
  | _ => false

def cutClosingTag? : Text → Option (Text × Text)
  | [] => none
  | c :: s =>
    if isClosingTag (c :: s) then some ([], c :: s)
    else (cutClosingTag? s).map fun (body, tag) => (c :: body, tag)

-- The template without blanks at its end and without literal `\n` anywhere.
def tidy (source : Text) : Text := Text.replaceAll ['\\', 'n'] [] (Text.trimEnd source)

def append (source text : Text) : Text :=
  match cutClosingTag? (tidy source) with
  | some (body, tag) => body ++ text ++ tag
  | none => source

structure Revision where
  transform : Option SourceFn := none
  replacements : List (Regex × Text) := []

def Revision.apply (r : Revision) (source : Text) : Text :=
  let source := match r.transform with
    | some transform => transform source
    | none => source
  r.replacements.foldl (fun s (pattern, new) => pattern.replaceAll s new) source

structure Addition where
  test : Option Regex := none
  generate : AppendFn

def Addition.apply (a : Addition) (resource source : Text) : Text :=
  if a.test.all (·.isMatch resource) then
    match a.generate (Path.lastName resource) resource with
    | some (c :: text) => append source (c :: text)
    | _ => source
  else source

structure Job where
  resource : Text
  features : Option FeatureFlags := none
  localization : Option Localization := none
  revisions : List Revision := []
  additions : List Addition := []

structure Output where
  code : Text
  warnings : List Warning
  deriving DecidableEq

def Job.localize (job : Job) (source : Text) : Text :=
  match job.localization with
  | some t => t.apply source
  | none => source

def Job.switchFeatures (job : Job) (source : Text) : Text :=
  match job.features with
  | some flags => if FeatureFlags.mayOccur source then flags.strip source else source
  | none => source

def Job.revise (job : Job) (source : Text) : Text :=
  job.revisions.foldl (fun s r => r.apply s) source

def Job.append (job : Job) (source : Text) : Text :=
  job.additions.foldl (fun s a => a.apply job.resource s) source

def Job.run (job : Job) (source : Text) : Output where
  code := job.append (job.revise (job.switchFeatures (job.localize source)))
  warnings := match job.localization with
    | some t => t.warnings source
    | none => []

-- The name of a kit's component: its path behind the last `/components/`, without separators and
-- without `index.vue`.
def kitComponent? (resource : Text) : Option Text :=
  let mark := "/components/".toList
  match Text.cut? mark.reverse (Path.withSlashes resource).reverse with
  | none => none
  | some (behind, _) =>
    let name :=
      Text.replaceAll ['/'] [] (Text.replaceAll "index.vue".toList [] behind.reverse)
    if name = [] then none else some name

end Template
end ComponentLoader
