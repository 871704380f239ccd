import ComponentLoader.Json.Basic

namespace ComponentLoader.Json

def hexDigit (n : Nat) : Char := Nat.digitChar n

def escape (c : Char) : Text :=
  if c = '"' then ['\\', '"']
  else if c = '\\' then ['\\', '\\']
  else if c = '\n' then ['\\', 'n']
  else if c = '\r' then ['\\', 'r']
  else if c = '\t' then ['\\', 't']
  else if c.toNat = 8 then ['\\', 'b']
  else if c.toNat = 12 then ['\\', 'f']
  else if c.toNat < 32 then
    ['\\', 'u', '0', '0', hexDigit (c.toNat / 16), hexDigit (c.toNat % 16)]
  else [c]

def quote (s : Text) : Text := '"' :: s.flatMap escape ++ ['"']

mutual

def render : Json → Text
  | null => "null".toList
  | bool b => if b then "true".toList else "false".toList
  | number n => n.render true
  | string s => quote s
  | array items => '[' :: renderItems items ++ [']']
  | object members => '{' :: renderMembers members ++ ['}']

def renderItems : List Json → Text
  | [] => []
  | [v] => render v
  | v :: w :: r => render v ++ ',' :: renderItems (w :: r)

def renderMembers : List (Text × Json) → Text
  | [] => []
  | [(k, v)] => quote k ++ ':' :: render v
  | (k, v) :: m :: r => quote k ++ ':' :: render v ++ ',' :: renderMembers (m :: r)

end

end ComponentLoader.Json
