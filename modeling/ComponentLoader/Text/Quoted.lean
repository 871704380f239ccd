import ComponentLoader.Unicode.Age
import ComponentLoader.Unicode.Trait

namespace ComponentLoader

def unseen : CharSet :=
  (CharSet.unions [Unicode.Category.other, Unicode.Category.separator, Unicode.Trait.graphemeExtend,
    .ofTable "115F-1160 3164 FFA0"]).diff
    (.unions [Unicode.Recent.shaped, .ofTable "20 FF9E-FF9F"])

def isUnseen (c : Char) : Bool :=
  if c.toNat < 0x80 then c.toNat < 0x20 || c.toNat == 0x7F else unseen.has c

namespace Text

def shown (quotes : List Char) (c : Char) : Text :=
  if c.toNat = 0 then ['\\', '0']
  else if c = '\t' then ['\\', 't']
  else if c = '\n' then ['\\', 'n']
  else if c = '\r' then ['\\', 'r']
  else if c = '\\' then ['\\', '\\']
  else if c ∈ quotes then ['\\', c]
  else if isUnseen c then "\\u\x7b".toList ++ Nat.toDigits 16 c.toNat ++ ['\x7d']
  else [c]

def quoted (s : Text) : Text := '"' :: s.flatMap (shown ['"']) ++ ['"']

def quotedPath (s : Text) : Text := '"' :: s.flatMap (shown ['"', '\'']) ++ ['"']

end Text
end ComponentLoader
