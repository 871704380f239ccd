import ComponentLoader.Host.Rules
import ComponentLoader.Proofs.Text.Search
import Mathlib.Data.List.TakeWhile

namespace ComponentLoader

theorem stageHead_stageHead (stage : Text) : stageHead (stageHead stage) = stageHead stage :=
  List.takeWhile_idem

theorem stageHead_chainHead {chain : Text} (plain : '!' ∉ stageHead chain) :
    stageHead (chainHead chain) = stageHead chain := by
  have swap : stageHead (chainHead chain) = chainHead (stageHead chain) := by
    unfold stageHead chainHead
    rw [List.takeWhile_takeWhile, List.takeWhile_takeWhile]
    congr 1
    funext c
    simp only [decide_eq_true_eq, and_comm]
  rw [swap]
  refine List.takeWhile_eq_self_iff.2 fun c member => ?_
  simpa using fun same : c = '!' => plain (same ▸ member)

theorem chainHead_append (chain stages : Text) :
    chainHead (chain ++ '!' :: stages) = chainHead chain := by
  unfold chainHead
  induction chain with
  | nil => simp
  | cons c chain ih =>
    by_cases here : c = '!'
    · simp [here]
    · have kept : decide (c ≠ '!') = true := by simpa using here
      simp only [List.cons_append, List.takeWhile_cons, kept, if_true, ih]

theorem isComponentCompiler_iff {stage : Text} : isComponentCompiler stage = true ↔
    stageHead stage = "vue".toList ∨ stageHead stage = "vue-loader".toList := by
  rw [isComponentCompiler, Bool.or_eq_true, beq_iff_eq, beq_iff_eq]

theorem isComponentCompiler_stageHead (stage : Text) :
    isComponentCompiler (stageHead stage) = isComponentCompiler stage := by
  rw [isComponentCompiler, stageHead_stageHead]
  rfl

theorem isTranspiler_stageHead (stage : Text) :
    isTranspiler (stageHead stage) = isTranspiler stage := by
  rw [isTranspiler, stageHead_stageHead]
  rfl

theorem isTranspiler_of_compiler {stage : Text} (compiler : isComponentCompiler stage = true) :
    isTranspiler stage = false := by
  unfold isTranspiler
  rcases isComponentCompiler_iff.1 compiler with same | same
  · rw [same]
    decide
  · rw [same]
    decide

theorem isComponentCompiler_of_transpiler {stage : Text} (transpiler : isTranspiler stage = true) :
    isComponentCompiler stage = false := by
  cases compiler : isComponentCompiler stage with
  | false => rfl
  | true =>
    rw [isTranspiler_of_compiler compiler] at transpiler
    cases transpiler

theorem isComponentCompiler_chainHead {chain : Text} (compiler : isComponentCompiler chain = true) :
    isComponentCompiler (chainHead chain) = true := by
  have plain : '!' ∉ stageHead chain := by
    rcases isComponentCompiler_iff.1 compiler with same | same
    · rw [same]
      decide
    · rw [same]
      decide
  rw [isComponentCompiler_iff, stageHead_chainHead plain, ← isComponentCompiler_iff]
  exact compiler

theorem isTranspiler_chainHead {chain : Text} (transpiler : isTranspiler chain = true) :
    isTranspiler (chainHead chain) = true := by
  have plain : '!' ∉ stageHead chain := by
    unfold isTranspiler at transpiler
    simp only [Bool.or_eq_true, beq_iff_eq] at transpiler
    rcases transpiler with (same | same) | same
    · rw [same]
      decide
    · rw [same]
      decide
    · rw [same]
      decide
  unfold isTranspiler at transpiler ⊢
  rwa [stageHead_chainHead plain]

theorem mem_splitOn_self_iff {sep : Char} {t : Text} : t ∈ Text.splitOn sep t ↔ sep ∉ t := by
  constructor
  · exact Text.not_mem_of_mem_splitOn
  · intro absent
    rw [Text.splitOn_of_not_mem absent]
    exact List.mem_singleton_self t

end ComponentLoader
