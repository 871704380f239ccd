import ComponentLoader.Regex.Program
import ComponentLoader.Text.Piece

namespace ComponentLoader.Regex

inductive Reference where
  | dollar
  | group (name : Text)
  deriving DecidableEq

def isGroupChar (c : Char) : Bool := c.isAlphanum || c == '_'

-- A name is as long as can be; a brace without its partner is text, and so is a dollar sign alone.
def reference : Scanner Reference
  | '$' :: '$' :: r => some (.dollar, r)
  | '$' :: '{' :: r =>
    if '}' ∈ r then
      some (.group (r.takeWhile fun c => c ≠ '}'), (r.dropWhile fun c => c ≠ '}').drop 1)
    else none
  | '$' :: r =>
    if r.takeWhile isGroupChar = [] then none
    else some (.group (r.takeWhile isGroupChar), r.dropWhile isGroupChar)
  | _ => none

def number? (s : Text) : Option Nat :=
  let digits := match s with
    | '+' :: r => r
    | r => r
  if digits ≠ [] ∧ digits.all Char.isDigit then
    some (digits.foldl (fun n c => n * 10 + (c.toNat - 48)) 0)
  else none

def slice (text : Text) (span : Nat × Nat) : Text := (text.drop span.1).take (span.2 - span.1)

def groupText (r : Regex) (text : Text) (slots : Slots) (name : Text) : Text :=
  let index := match number? name with
    | some n => some n
    | none => (r.names.find? fun (e : Text × Nat) => e.1 == name).map Prod.snd
  ((index.bind slots.group?).map (slice text)).getD []

def expand (r : Regex) (text : Text) (slots : Slots) (replacement : Text) : Text :=
  reference.replace (fun _ part =>
    match part with
    | .dollar => ['$']
    | .group name => groupText r text slots name) replacement

def replaceAll (r : Regex) (text replacement : Text) : Text :=
  go 0 (r.allMatches text)
where
  go (done : Nat) : List Slots → Text
    | [] => text.drop done
    | slots :: rest =>
      match slots.group? 0 with
      | some (a, b) => slice text (done, a) ++ expand r text slots replacement ++ go b rest
      | none => go done rest

end ComponentLoader.Regex
