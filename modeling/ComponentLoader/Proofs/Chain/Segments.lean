import ComponentLoader.Chain.Injection
import ComponentLoader.Proofs.Text.Search

namespace ComponentLoader
namespace Chain

theorem length_le_insertBehind (c : Chain) (mark stage : Text) :
    c.segments.length ≤ (c.insertBehind mark stage).segments.length := by
  rw [insertBehind, List.length_flatMap]
  induction c.segments with
  | nil => exact Nat.le_refl _
  | cons s segments ih =>
    rw [List.map_cons, List.sum_cons, List.length_cons]
    split <;> simp only [List.length_cons, List.length_nil] <;> omega

theorem length_withTheme (c : Chain) (preprocessor : Text) (theme : ThemeVariables) :
    (c.withTheme preprocessor theme).segments.length = c.segments.length := by
  unfold withTheme
  rcases List.eq_nil_or_concat c.segments with none_ | ⟨init, last, same⟩
  · simp [none_]
  · simp [same]

theorem getLast?_withTheme (c : Chain) (preprocessor : Text) (theme : ThemeVariables) :
    (c.withTheme preprocessor theme).segments.getLast? = c.segments.getLast? := by
  unfold withTheme
  rcases List.eq_nil_or_concat c.segments with none_ | ⟨init, last, same⟩
  · simp [none_]
  · simp [same]

end Chain

namespace Injection

-- What an injection does to a chain is cut in two: the stage is put in, and then the post-compile
-- stage or the theme is brought to the chain that has it.
def index (i : Injection) (c : Chain) (selector : Nat) : Nat :=
  match i.block with
  | .style => styleIndex c i.preprocessor selector
  | _ => selector

def finish (i : Injection) (c : Chain) : Chain :=
  match i.block with
  | .script => c
  | .template =>
    match i.postCompile with
    | some post => if c.hasStage post then c else c.insertBehind "template-compiler".toList post
    | none => c
  | .style =>
    match i.theme with
    | some theme => if theme.isEmpty then c else c.withTheme i.preprocessor theme
    | none => c

def extendChain (i : Injection) (c : Chain) : Chain :=
  match c.selector? i.block with
  | some selector => if c.hasStage i.stage then c else i.extendParsed c selector
  | none => c

theorem extend_eq (i : Injection) (chain : Text) :
    i.extend chain = (i.extendChain (Chain.parse chain)).render := by
  have whole : (Chain.parse chain).render = chain := Text.join_splitOn '!' chain
  unfold extend extendChain
  dsimp only
  cases (Chain.parse chain).selector? i.block with
  | none => exact whole.symm
  | some selector =>
    dsimp only
    split
    · exact whole.symm
    · rfl

theorem finish_cases (i : Injection) (c : Chain) :
    i.finish c = c ∨
      (∃ post, i.postCompile = some post ∧
        i.finish c = c.insertBehind "template-compiler".toList post) ∨
      ∃ theme, i.block = .style ∧ i.theme = some theme ∧ theme.isEmpty = false ∧
        i.finish c = c.withTheme i.preprocessor theme := by
  unfold finish
  cases i.block with
  | script => exact .inl rfl
  | template =>
    cases i.postCompile with
    | none => exact .inl rfl
    | some post =>
      dsimp only
      split
      · exact .inl rfl
      · exact .inr (.inl ⟨post, rfl, rfl⟩)
  | style =>
    cases i.theme with
    | none => exact .inl rfl
    | some theme =>
      dsimp only
      split
      · exact .inl rfl
      · next filled => exact .inr (.inr ⟨theme, rfl, rfl, by simpa using filled, rfl⟩)

theorem length_le_finish (i : Injection) (c : Chain) :
    c.segments.length ≤ (i.finish c).segments.length := by
  rcases i.finish_cases c with same | ⟨post, -, same⟩ | ⟨theme, -, -, -, same⟩
  · rw [same]
  · rw [same]
    exact c.length_le_insertBehind ..
  · rw [same, Chain.length_withTheme]

theorem extendParsed_eq (i : Injection) (c : Chain) (selector : Nat) :
    i.extendParsed c selector = i.finish (insert c (i.index c selector) i.stage) := by
  unfold extendParsed finish index
  cases i.block <;> rfl

theorem styleIndex_cases (c : Chain) (preprocessor : Text) {selector : Nat}
    (inside : selector ≤ c.segments.length) :
    styleIndex c preprocessor selector = selector ∨
      ∃ k < selector, styleIndex c preprocessor selector = k ∧
        ∃ s, c.segments[k]? = some s ∧ s.stageName ≠ [] := by
  unfold styleIndex
  dsimp only
  split
  · next back found =>
    obtain ⟨bound, chosen, -⟩ := List.findIdx?_eq_some_iff_getElem.1 found
    have near : back < selector := by simpa [inside] using bound
    have length : (c.segments.take selector).length = selector := by simp [inside]
    have place : (c.segments.take selector).reverse[back] = c.segments[selector - 1 - back] := by
      simp [List.getElem_reverse, length]
    rw [Bool.and_eq_true, decide_eq_true_eq, place] at chosen
    exact .inr ⟨_, by omega, rfl, _, List.getElem?_eq_getElem (by omega), chosen.1⟩
  · exact .inl rfl

theorem index_le (i : Injection) {c : Chain} {selector : Nat}
    (inside : selector ≤ c.segments.length) : i.index c selector ≤ selector := by
  unfold index
  split
  · rcases styleIndex_cases c i.preprocessor inside with same | ⟨k, before, same, -⟩ <;> omega
  · exact Nat.le_refl _

theorem selector_lt {c : Chain} {b : Block} {selector : Nat}
    (found : c.selector? b = some selector) :
    selector < c.segments.length :=
  (List.findIdx?_eq_some_iff_getElem.1 found).1

theorem insert_segments {c : Chain} {index : Nat} (inside : index ≤ c.segments.length)
    (stage : Text) :
    (insert c index stage).segments =
      c.segments.take index ++ stage :: c.segments.drop index := by
  simp [insert, Chain.insertAt?, inside]

theorem isMarked_nil (b : Block) : Segment.isMarked b [] = false := by
  cases b <;> decide

theorem two_le_index {i : Injection} {c : Chain} {selector : Nat} {behind : List Segment}
    (found : c.selector? i.block = some selector) (bare : c.segments = [] :: [] :: behind) :
    2 ≤ i.index c selector := by
  have filled : ∀ {k : Nat} {s : Segment}, c.segments[k]? = some s → s ≠ [] → 2 ≤ k := by
    intro k s here ne
    match k with
    | 0 => simp [bare, ne.symm] at here
    | 1 => simp [bare, ne.symm] at here
    | k + 2 => omega
  have far : 2 ≤ selector := by
    obtain ⟨bound, marked, -⟩ := List.findIdx?_eq_some_iff_getElem.1 found
    refine filled (List.getElem?_eq_getElem bound) fun empty => ?_
    rw [empty, isMarked_nil] at marked
    cases marked
  unfold index
  split
  · rcases styleIndex_cases c i.preprocessor (Nat.le_of_lt (selector_lt found)) with
      same | ⟨k, -, same, s, here, named⟩
    · omega
    · have := filled here (by rintro rfl; exact named rfl)
      omega
  · exact far

theorem extendChain_of_found {i : Injection} {c : Chain} {selector : Nat}
    (found : c.selector? i.block = some selector) (absent : i.stage ∉ c.segments) :
    i.extendChain c = i.finish
      ⟨c.segments.take (i.index c selector) ++
        i.stage :: c.segments.drop (i.index c selector)⟩ := by
  have fresh : ¬c.hasStage i.stage = true := mt List.contains_iff_mem.1 absent
  have inside := Nat.le_of_lt (selector_lt found)
  rw [extendChain, found]
  dsimp only
  rw [if_neg fresh, extendParsed_eq, ← insert_segments (Nat.le_trans (i.index_le inside) inside)]

-- A chain that is changed at all gets the stage at one place in front of its last segment.
theorem extendChain_cases (i : Injection) (c : Chain) :
    i.extendChain c = c ∨ ∃ index < c.segments.length,
      (∀ behind, c.segments = [] :: [] :: behind → 2 ≤ index) ∧
      i.extendChain c =
        i.finish ⟨c.segments.take index ++ i.stage :: c.segments.drop index⟩ := by
  cases found : c.selector? i.block with
  | none => exact .inl (by rw [extendChain, found])
  | some selector =>
    by_cases present : i.stage ∈ c.segments
    · have has : c.hasStage i.stage = true := List.contains_iff_mem.2 present
      exact .inl (by simp only [extendChain, found, has, if_true])
    · have bound := selector_lt found
      have near := i.index_le (Nat.le_of_lt bound)
      exact .inr ⟨i.index c selector, by omega, fun behind bare => two_le_index found bare,
        extendChain_of_found found present⟩

theorem mem_insertBehind {c : Chain} {mark stage s : Text}
    (member : s ∈ (c.insertBehind mark stage).segments) : s ∈ c.segments ∨ s = stage := by
  simp only [Chain.insertBehind, List.mem_flatMap] at member
  obtain ⟨t, original, here⟩ := member
  split at here
  · rcases List.mem_cons.1 here with rfl | here
    · exact .inl original
    · exact .inr (List.mem_singleton.1 here)
  · exact .inl (List.mem_singleton.1 here ▸ original)

theorem mem_withTheme {c : Chain} {preprocessor : Text} {theme : ThemeVariables} {s : Segment}
    (member : s ∈ (c.withTheme preprocessor theme).segments) :
    s ∈ c.segments ∨
      ∃ t ∈ c.segments, preprocessor <:+: t.stageName ∧ s = Chain.themedSegment theme t := by
  simp only [Chain.withTheme, List.mem_append, List.mem_map, Option.mem_toList] at member
  rcases member with ⟨t, early, rfl⟩ | last
  · have original := List.mem_of_mem_dropLast early
    split
    · next stage => exact .inr ⟨t, original, Text.contains_iff.1 stage, rfl⟩
    · exact .inl original
  · exact .inl (List.mem_of_getLast? last)

theorem mem_finish {i : Injection} {c : Chain} {s : Segment}
    (member : s ∈ (i.finish c).segments) :
    s ∈ c.segments ∨ i.postCompile = some s ∨
      ∃ theme, i.theme = some theme ∧
        ∃ t ∈ c.segments, i.preprocessor <:+: t.stageName ∧ s = Chain.themedSegment theme t := by
  rcases i.finish_cases c with same | ⟨post, given, same⟩ | ⟨theme, -, given, -, same⟩
  · rw [same] at member
    exact .inl member
  · rw [same] at member
    rcases mem_insertBehind member with original | rfl
    · exact .inl original
    · exact .inr (.inl given)
  · rw [same] at member
    rcases mem_withTheme member with original | ⟨t, original, stage, rfl⟩
    · exact .inl original
    · exact .inr (.inr ⟨theme, given, t, original, stage, rfl⟩)

theorem mem_extendChain {i : Injection} {c : Chain} {s : Segment}
    (member : s ∈ (i.extendChain c).segments) :
    s ∈ c.segments ∨ s = i.stage ∨ i.postCompile = some s ∨
      ∃ theme, i.theme = some theme ∧ ∃ t, (t ∈ c.segments ∨ t = i.stage) ∧
        i.preprocessor <:+: t.stageName ∧ s = Chain.themedSegment theme t := by
  rcases i.extendChain_cases c with same | ⟨index, -, -, same⟩
  · rw [same] at member
    exact .inl member
  · have split : ∀ t ∈ c.segments.take index ++ i.stage :: c.segments.drop index,
        t ∈ c.segments ∨ t = i.stage := by
      intro t here
      rw [List.mem_append, List.mem_cons] at here
      rcases here with early | rfl | late
      · exact .inl (List.mem_of_mem_take early)
      · exact .inr rfl
      · exact .inl (List.mem_of_mem_drop late)
    rw [same] at member
    rcases mem_finish member with here | post | ⟨theme, given, t, here, stage, rfl⟩
    · rcases split s here with original | stage
      · exact .inl original
      · exact .inr (.inl stage)
    · exact .inr (.inr (.inl post))
    · exact .inr (.inr (.inr ⟨theme, given, t, split t here, stage, rfl⟩))

end Injection
end ComponentLoader
