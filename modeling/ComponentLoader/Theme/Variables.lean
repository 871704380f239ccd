import ComponentLoader.Text.Basic
import ComponentLoader.OrderedMap

namespace ComponentLoader

abbrev ThemeVariables := OrderedMap Text Text

namespace ThemeVariables

-- A mark at the very front is no trailing comment.
def dropComment (mark line : Text) : Text :=
  match Text.cut? mark line with
  | some (c :: before, _) => Text.trim (c :: before)
  | _ => line

def isComment (line : Text) : Bool :=
  Text.startsWith "//".toList line || Text.startsWith "/*".toList line

def declaration? (line : Text) : Option (Text × Text) :=
  let line := Text.trim line
  if isComment line then none
  else
    let line := dropComment "/*".toList (dropComment "//".toList line)
    match Text.cut? [':'] line with
    | none => none
    | some (name, value) =>
      let name := (Text.trim name).dropWhile (· == '@')
      if name = [] then none
      else some (name, Text.trim (Text.dropEndWhile (· == ';') (Text.trim value)))

def parse (content : Text) : ThemeVariables :=
  .ofList ((Text.lines content).filterMap declaration?)

def rename (theme : ThemeVariables) (aliases : OrderedMap Text Text) : ThemeVariables :=
  .ofList (theme.entries.map fun (name, value) => ((aliases.get? name).getD name, value))

end ThemeVariables
end ComponentLoader
