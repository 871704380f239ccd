import ComponentLoader.Proofs.Chain.Passes
import ComponentLoader.Proofs.Import.Statement
import ComponentLoader.Proofs.Template.Feature
import ComponentLoader.Proofs.Template.Localization
import ComponentLoader.Template.Process

namespace ComponentLoader
open Injection

theorem Template.Job.switchFeatures_eq (job : Template.Job) (source : Text) :
    job.switchFeatures source = job.features.elim source (·.strip source) := by
  unfold Template.Job.switchFeatures
  cases job.features with
  | none => rfl
  | some flags =>
    dsimp only
    split
    · rfl
    · next absent => exact (flags.strip_of_not_mayOccur absent).symm

theorem Injection.inject_eq_unchecked (i : Injection) {source : Text} (unmarked : Unmarked source) :
    i.inject source = showQuotes (i.extendRequests (hideQuotes source)) := by
  have shown := i.inject_showQuotes (unescaped_hideQuotes source)
  rwa [showQuotes_hideQuotes unmarked] at shown

-- No text check in front of a pass shows in what the pass does, in its result, in what it calls and
-- in what it reports.
theorem passes_eq_unchecked [Monad m] [LawfulMonad m] :
    (∀ module? (f : Text → ImportStatement → m Text) source,
      ImportStatement.replaceM module? f source =
        if ImportStatement.compiles module? then (ImportStatement.scanner module?).replaceM f source
        else pure source) ∧
    (∀ source name (f : Text → Tag → m Text),
      Tag.replaceM source name f =
        if Tag.compiles name then (Tag.scanner name).replaceM f source else pure source) ∧
    (∀ source name (f : Text → Tag → Text),
      Tag.replace source name f =
        if Tag.compiles name then (Tag.scanner name).replace f source else source) ∧
    (∀ (t : Localization) source,
      t.apply source = TextCall.scanner.replace t.render source ∧
      t.warnings source = (TextCall.scanner.items source).filterMap t.warning?) ∧
    (∀ (job : Template.Job) source,
      job.switchFeatures source = job.features.elim source (·.strip source)) ∧
    (∀ (i : Injection) source, Unmarked source →
      i.inject source = showQuotes (i.extendRequests (hideQuotes source))) := by
  refine ⟨ImportStatement.replaceM_eq, Tag.replaceM_eq, Tag.replace_eq, ?_,
    Template.Job.switchFeatures_eq, fun i source => i.inject_eq_unchecked⟩
  intro t source
  exact ⟨t.apply_eq source, t.warnings_eq source⟩

theorem passes_eq_unchecked_escaped_quote :
    let i : Injection := { block := .style, stage := "x".toList }
    let source := "say(\\\"hi\\\"); require(\"!!css-loader!vue-loader?a!./a.vue?type=style\")".toList
    let injected :=
      "say(\\\"hi\\\"); require(\"!!css-loader!vue-loader?a!x!./a.vue?type=style\")".toList
    Unmarked source ∧ i.inject source = injected ∧
      showQuotes (i.extendRequests (hideQuotes source)) = injected := by
  intro i source injected
  have unmarked : Unmarked source := unmarked_of_not_mem (by decide)
  have pinned : i.inject source = injected := by decide +kernel
  obtain ⟨-, -, -, -, -, unchecked⟩ := passes_eq_unchecked (m := Id)
  exact ⟨unmarked, pinned, (unchecked i source unmarked).symm.trans pinned⟩

end ComponentLoader
