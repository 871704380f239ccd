import ComponentLoader.Text.Basic

namespace ComponentLoader

inductive FileError where
  | notFound
  | isDirectory
  | notDirectory
  | notText
  deriving DecidableEq

inductive LoadError where
  | duplicatePlugin (name : Text)
  | unresolvedComponent (name module resource : Text)
  | unreadable (path : Text) (cause : FileError)
  | invalidComponentMap (path : Text)
  | invalidLocales (path : Text)
  | invalidPattern
  deriving DecidableEq

def LoadError.message : LoadError → Text
  | duplicatePlugin name =>
    "E_DUPLICATE_PLUGIN: plugin `".toList ++ name ++ "` is declared more than once".toList
  | unresolvedComponent name module resource =>
    "E_UNRESOLVED_COMPONENT: `".toList ++ name ++ "` is not exported by `".toList ++ module ++
      "` (imported in ".toList ++ resource ++ ")".toList
  | unreadable path _ => "E_FILE_READ: failed to read ".toList ++ path
  | invalidComponentMap path => "E_INVALID_COMPONENT_MAP: ".toList ++ path
  | invalidLocales path => "E_INVALID_LOCALES: ".toList ++ path
  | invalidPattern => "E_INVALID_PATTERN".toList

inductive Warning where
  | missingText (key locale : Text)
  deriving DecidableEq

def Warning.message : Warning → Text
  | missingText key locale =>
    "W_MISSING_TRANSLATION: no `".toList ++ locale ++ "` translation for `".toList ++ key ++
      "`".toList

abbrev InPlace (σ : Type) := ExceptT LoadError (StateM σ)

namespace InPlace

variable {σ α β : Type}

def check (outcome : Except LoadError α) : InPlace σ α := ExceptT.mk (pure outcome)

theorem run_check_bind (outcome : Except LoadError α) (next : α → InPlace σ β) (s : σ) :
    (check outcome >>= next).run s = match outcome with
      | .ok a => (next a).run s
      | .error e => (.error e, s) := by
  cases outcome <;> rfl

theorem run_get_bind (next : σ → InPlace σ β) (s : σ) :
    ((get : InPlace σ σ) >>= next).run s = (next s).run s := rfl

end InPlace
end ComponentLoader
