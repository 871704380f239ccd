import ComponentLoader.Text.Piece
import ComponentLoader.Unicode.Trait
import ComponentLoader.Locale.Table
import ComponentLoader.Error

namespace ComponentLoader

inductive TextCall where
  | key (text : Text)
  | identifier (text : Text)
  deriving DecidableEq

namespace TextCall

def isNameStart (c : Char) : Bool := c.isAlpha || c == '_' || c == '$'

def isNameChar (c : Char) : Bool := isWordChar c || c == '$' || c == '.'

def isKeyChar (c : Char) : Bool := c != '\'' && c != '\n'

def argument : Scanner TextCall
  | [] => none
  | c :: s =>
    if c = '\'' then
      match s.dropWhile isKeyChar with
      | '\'' :: r => some (.key (s.takeWhile isKeyChar), r)
      | _ => none
    else if isNameStart c then
      some (.identifier (c :: s.takeWhile isNameChar), s.dropWhile isNameChar)
    else none

def scanner : Scanner TextCall := fun s => do
  let r ← Text.dropPrefix? "$t(".toList s
  let (call, r) ← argument (Text.trimStart r)
  let r ← Text.dropPrefix? [')'] (Text.trimStart r)
  return (call, r)

end TextCall

inductive LookupTime where
  | buildTime
  | runTime
  deriving DecidableEq

structure Localization where
  module : Text
  component : Text
  locale : Text
  mode : LookupTime
  table : LocaleTable

namespace Localization

def fullKey (t : Localization) (key : Text) : Text :=
  t.module ++ '.' :: t.component ++ '.' :: key

def text? (t : Localization) (key : Text) : Option Text := t.table.lookup? (t.fullKey key) t.locale

def quote (text : Text) : Text := '\'' :: Text.replaceAll ['\''] ['\\', '\''] text ++ ['\'']

def render (t : Localization) (raw : Text) : TextCall → Text
  | .identifier _ => raw
  | .key key =>
    match t.mode with
    | .runTime => "$t('".toList ++ t.fullKey key ++ "')".toList
    | .buildTime =>
      match t.text? key with
      | some text => quote text
      | none => raw

def warning? (t : Localization) : TextCall → Option Warning
  | .identifier _ => none
  | .key key =>
    match t.mode, t.text? key with
    | .buildTime, none => some (.missingText (t.fullKey key) t.locale)
    | _, _ => none

def mayOccur (source : Text) : Bool := Text.contains "$t(".toList source

def apply (t : Localization) (source : Text) : Text :=
  if mayOccur source then TextCall.scanner.replace t.render source else source

-- A key without a text gives a warning each time it is called for.
def warnings (t : Localization) (source : Text) : List Warning :=
  if mayOccur source then (TextCall.scanner.items source).filterMap t.warning? else []

end Localization
end ComponentLoader
