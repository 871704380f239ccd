import ComponentLoader.Proofs.Chain.Segments

namespace ComponentLoader
namespace Injection

def ThemeSpares (i : Injection) : Prop :=
  i.block = .style → ∀ theme, i.theme = some theme → theme.isEmpty = false →
    ¬i.preprocessor <:+: Segment.stageName i.stage

theorem mem_insertBehind_of_mem {c : Chain} {mark stage s : Text} (member : s ∈ c.segments) :
    s ∈ (c.insertBehind mark stage).segments := by
  simp only [Chain.insertBehind, List.mem_flatMap]
  refine ⟨s, member, ?_⟩
  split <;> simp

theorem mem_withTheme_of_mem {c : Chain} {preprocessor : Text} {theme : ThemeVariables}
    {s : Segment} (member : s ∈ c.segments) (other : ¬preprocessor <:+: s.stageName) :
    s ∈ (c.withTheme preprocessor theme).segments := by
  have kept : (if Chain.isStageOf preprocessor s then Chain.themedSegment theme s else s) = s := by
    rw [if_neg]
    rwa [Chain.isStageOf, Text.contains_iff]
  have ne : c.segments ≠ [] := List.ne_nil_of_mem member
  rw [← List.dropLast_concat_getLast ne, List.mem_append, List.mem_singleton] at member
  simp only [Chain.withTheme, List.mem_append, List.mem_map, Option.mem_toList]
  rcases member with early | last
  · exact .inl ⟨s, early, kept⟩
  · exact .inr (by rw [last, List.getLast?_eq_some_getLast ne])

theorem stage_mem_finish {i : Injection} {c : Chain} (spares : i.ThemeSpares)
    (member : i.stage ∈ c.segments) : i.stage ∈ (i.finish c).segments := by
  rcases i.finish_cases c with same | ⟨post, -, same⟩ | ⟨theme, block, given, filled, same⟩
  · rwa [same]
  · rw [same]
    exact mem_insertBehind_of_mem member
  · rw [same]
    exact mem_withTheme_of_mem member (spares block theme given filled)

theorem extend_of_hasStage {i : Injection} {chain : Text}
    (present : i.stage ∈ Text.splitOn '!' chain) : i.extend chain = chain := by
  have has : (Chain.parse chain).hasStage i.stage = true := by
    simpa [Chain.hasStage, Chain.parse] using present
  unfold extend
  dsimp only
  split
  · rw [if_pos has]
  · rfl

theorem stage_mem_extend {i : Injection} (segment : '!' ∉ i.stage) (spares : i.ThemeSpares)
    {chain : Text} {selector : Nat}
    (found : (Chain.parse chain).selector? i.block = some selector) :
    i.stage ∈ Text.splitOn '!' (i.extend chain) := by
  by_cases present : i.stage ∈ Text.splitOn '!' chain
  · rwa [extend_of_hasStage present]
  · rw [extend_eq, extendChain_of_found found present]
    exact Text.mem_splitOn_join (stage_mem_finish spares (by simp)) segment

-- A chain that is changed has the stage afterwards, and a chain with the stage is not changed.
theorem extend_extend {i : Injection} (segment : '!' ∉ i.stage) (spares : i.ThemeSpares)
    (chain : Text) : i.extend (i.extend chain) = i.extend chain := by
  cases found : (Chain.parse chain).selector? i.block with
  | none =>
    have same : i.extend chain = chain := by simp [extend, found]
    rw [same, same]
  | some selector => exact extend_of_hasStage (stage_mem_extend segment spares found)

end Injection
end ComponentLoader
