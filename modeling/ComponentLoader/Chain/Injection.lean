import ComponentLoader.Chain.Basic

namespace ComponentLoader

structure Injection where
  block : Block
  stage : Text
  postCompile : Option Text := none
  preprocessor : Text := "less-loader".toList
  theme : Option ThemeVariables := none

namespace Injection

-- The last stage of the preprocessor before the selector, else the selector.
def styleIndex (c : Chain) (preprocessor : Text) (selector : Nat) : Nat :=
  let before := (c.segments.take selector).reverse
  match before.findIdx? fun s => s.stageName ≠ [] && Chain.isStageOf preprocessor s with
  | some back => selector - 1 - back
  | none => selector

def insert (c : Chain) (index : Nat) (stage : Text) : Chain := (c.insertAt? index stage).getD c

def extendParsed (i : Injection) (c : Chain) (selector : Nat) : Chain :=
  match i.block with
  | .script => insert c selector i.stage
  | .template =>
    let c := insert c selector i.stage
    match i.postCompile with
    | some post => if c.hasStage post then c else c.insertBehind "template-compiler".toList post
    | none => c
  | .style =>
    let c := insert c (styleIndex c i.preprocessor selector) i.stage
    match i.theme with
    | some theme => if theme.isEmpty then c else c.withTheme i.preprocessor theme
    | none => c

def extend (i : Injection) (chain : Text) : Text :=
  let c := Chain.parse chain
  match c.selector? i.block with
  | some selector => if c.hasStage i.stage then chain else (i.extendParsed c selector).render
  | none => chain

end Injection
end ComponentLoader
