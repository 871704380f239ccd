import ComponentLoader.Chain.Injection
import ComponentLoader.Unicode.Trait

namespace ComponentLoader

namespace Request

-- A request's text before its chain, and the chain; the text behind the chain begins with the
-- closing quote.
structure Found where
  before : Text
  chain : Text
  after : Text
  deriving DecidableEq

def quoted (before : Text) (after : Text) (s : Text) : Option (Found × Text) :=
  let chain := s.takeWhile (· ≠ '"')
  (Text.dropPrefix? after (s.dropWhile (· ≠ '"'))).map fun rest => (⟨before, chain, after⟩, rest)

def requireCall : Scanner Found := fun s =>
  match Text.dropPrefix? "require(\"".toList s with
  | some r => quoted "require(\"".toList "\")".toList r
  | none => none

def isBindingChar (c : Char) : Bool := isWordChar c || c == '$'

def run (p : Char → Bool) (s : Text) : Option (Text × Text) :=
  if s.takeWhile p = [] then none else some (s.takeWhile p, s.dropWhile p)

def defaultImport : Scanner Found := fun s => do
  let r ← Text.dropPrefix? "import".toList s
  let (gap₁, r) ← run isBlank r
  let (binding, r) ← run isBindingChar r
  let (gap₂, r) ← run isBlank r
  let r ← Text.dropPrefix? "from".toList r
  let (gap₃, r) ← run isBlank r
  let r ← Text.dropPrefix? ['"'] r
  quoted ("import".toList ++ gap₁ ++ binding ++ gap₂ ++ "from".toList ++ gap₃ ++ ['"']) ['"'] r

def bare : Scanner Found := fun s =>
  match s with
  | '"' :: '!' :: '!' :: r => quoted ['"'] ['"'] ('!' :: '!' :: r)
  | _ => none

def scanner : Scanner Found := fun s => (requireCall s).or ((defaultImport s).or (bare s))

end Request

namespace Injection

-- Stands for an escaped quote while requests are looked for.
def quotePlaceholder : Text := "__VUX_LOADER_ESCAPED_QUOTE__".toList

def hideQuotes : Text → Text := Text.replaceAll ['\\', '"'] quotePlaceholder

def showQuotes : Text → Text := Text.replaceAll quotePlaceholder ['\\', '"']

def extendRequests (i : Injection) : Text → Text :=
  Request.scanner.replace fun _ r => r.before ++ i.extend r.chain ++ r.after

def mayApply (i : Injection) (source : Text) : Bool := Text.contains i.block.marker source

def inject (i : Injection) (source : Text) : Text :=
  if i.mayApply source then showQuotes (i.extendRequests (hideQuotes source)) else source

end Injection
end ComponentLoader
