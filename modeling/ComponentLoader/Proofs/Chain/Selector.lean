import ComponentLoader.Proofs.Chain.Theme

namespace ComponentLoader
namespace Chain

def selected (c : Chain) (b : Block) : List Segment := c.segments.dropWhile fun s => !s.isMarked b

theorem selected_eq_drop {c : Chain} {b : Block} {selector : Nat}
    (found : c.selector? b = some selector) : c.selected b = c.segments.drop selector := by
  obtain ⟨-, same⟩ := List.findIdx?_eq_some_iff_findIdx_eq.1 found
  rw [selected, List.dropWhile_eq_drop_findIdx_not, ← same]
  simp only [Bool.not_not]

theorem selected_eq_nil {c : Chain} {b : Block} (none_ : c.selector? b = none) :
    c.selected b = [] := by
  rw [selected, List.dropWhile_eq_nil_iff]
  intro s member
  rw [List.findIdx?_eq_none_iff.1 none_ s member]
  rfl

theorem suffix_append_iff_of_length {l r : List α} (front : List α) (same : l.length = r.length) :
    l <:+ front ++ r ↔ l = r := by
  constructor
  · intro last
    exact (List.suffix_of_suffix_length_le last (List.suffix_append front r)
      same.le).eq_of_length same
  · rintro rfl
    exact List.suffix_append front l

theorem concat_suffix_concat_iff {l r : List α} {a b : α} :
    l ++ [a] <:+ r ++ [b] ↔ a = b ∧ l <:+ r := by
  rw [← List.reverse_prefix, List.reverse_concat, List.reverse_concat, List.cons_prefix_cons,
    List.reverse_prefix]

theorem insertBehind_append (l r : List Segment) (mark stage : Text) :
    (insertBehind ⟨l ++ r⟩ mark stage).segments =
      (insertBehind ⟨l⟩ mark stage).segments ++ (insertBehind ⟨r⟩ mark stage).segments :=
  List.flatMap_append

theorem insertBehind_of_marked {mark : Text} {s : Segment} (marked : mark <:+: s) (stage : Text) :
    (insertBehind ⟨[s]⟩ mark stage).segments = [s, stage] := by
  simp [insertBehind, Text.contains_iff.2 marked]

theorem insertBehind_of_unmarked {mark : Text} {s : Segment} (unmarked : ¬mark <:+: s)
    (stage : Text) : (insertBehind ⟨[s]⟩ mark stage).segments = [s] := by
  simp [insertBehind, mt Text.contains_iff.1 unmarked]

theorem suffix_insertBehind_iff {l : List Segment} {mark stage : Text} (absent : stage ∉ l)
    (front : List Segment) :
    l <:+ front ++ (insertBehind ⟨l⟩ mark stage).segments ↔ ∀ s ∈ l, ¬mark <:+: s := by
  induction l using List.reverseRecOn with
  | nil => exact iff_of_true List.nil_suffix fun s member => absurd member List.not_mem_nil
  | append_singleton l last ih =>
    rw [List.mem_append, List.mem_singleton, not_or] at absent
    obtain ⟨early, other⟩ := absent
    have each : (∀ s ∈ l ++ [last], ¬mark <:+: s) ↔ (∀ s ∈ l, ¬mark <:+: s) ∧ ¬mark <:+: last := by
      simp [or_imp, forall_and]
    rw [insertBehind_append, ← List.append_assoc, each]
    by_cases marked : mark <:+: last
    · have here : (insertBehind ⟨[last]⟩ mark stage).segments = [last] ++ [stage] :=
        insertBehind_of_marked marked stage
      rw [here, ← List.append_assoc, concat_suffix_concat_iff]
      exact iff_of_false (fun both => other both.1.symm) fun both => both.2 marked
    · rw [insertBehind_of_unmarked marked, concat_suffix_concat_iff, ih early, and_iff_right rfl,
        and_iff_left marked]

theorem suffix_withTheme_iff (preprocessor : Text) (theme : ThemeVariables)
    (front l : List Segment) :
    l <:+ (withTheme ⟨front ++ l⟩ preprocessor theme).segments ↔
      EachStage preprocessor l fun s => themedSegment theme s = s := by
  rcases List.eq_nil_or_concat l with rfl | ⟨init, last, rfl⟩
  · exact iff_of_true List.nil_suffix fun s member => absurd member List.not_mem_nil
  have parts : (withTheme ⟨front ++ (init ++ [last])⟩ preprocessor theme).segments =
      front.map (themed preprocessor theme) ++ init.map (themed preprocessor theme) ++ [last] := by
    rw [withTheme_segments, ← List.append_assoc, List.dropLast_concat, List.getLast?_concat,
      List.map_append]
    rfl
  have length : init.length = (init.map (themed preprocessor theme)).length := by simp
  have fixed : init.map (themed preprocessor theme) = init.map id ↔
      ∀ s ∈ init, themed preprocessor theme s = id s := List.map_inj_left
  rw [List.map_id] at fixed
  rw [List.concat_eq_append, parts, concat_suffix_concat_iff, and_iff_right rfl,
    suffix_append_iff_of_length _ length, EachStage, List.dropLast_concat, eq_comm, fixed]
  refine forall₂_congr fun s member => ?_
  by_cases stage : preprocessor <:+: s.stageName
  · rw [themed_of_stage stage, imp_iff_right stage, id]
  · exact iff_of_true (themed_of_not stage) fun named => absurd named stage

end Chain

namespace Injection

structure Whole (i : Injection) : Prop where
  stage : '!' ∉ i.stage
  post : ∀ post, i.postCompile = some post → '!' ∉ post
  theme : ∀ theme, i.theme = some theme →
    ∀ entry ∈ theme.entries, '!' ∉ entry.1 ∧ '!' ∉ entry.2

theorem splitOn_extend {i : Injection} (whole : i.Whole) (chain : Text) :
    Text.splitOn '!' (i.extend chain) = (i.extendChain (Chain.parse chain)).segments := by
  have original : ∀ t ∈ (Chain.parse chain).segments, '!' ∉ t := fun t => Text.not_mem_of_mem_splitOn
  have clean : ∀ s ∈ (i.extendChain (Chain.parse chain)).segments, '!' ∉ s := by
    intro s member
    rcases mem_extendChain member with here | rfl | post | ⟨theme, given, t, here, -, rfl⟩
    · exact original s here
    · exact whole.stage
    · exact whole.post s post
    · have cut : '!' ∉ t := by
        rcases here with here | rfl
        · exact original t here
        · exact whole.stage
      rw [Chain.mem_themedSegment_iff cut]
      rintro ⟨entry, listed, name | value⟩
      · exact (whole.theme theme given entry listed).1 name
      · exact (whole.theme theme given entry listed).2 value
  have some_ : (i.extendChain (Chain.parse chain)).segments ≠ [] := by
    rcases i.extendChain_cases (Chain.parse chain) with same | ⟨index, -, -, same⟩
    · rw [same]
      exact Text.splitOn_ne_nil '!' chain
    · have longer := i.length_le_finish
        ⟨(Chain.parse chain).segments.take index ++
          i.stage :: (Chain.parse chain).segments.drop index⟩
      rw [same]
      rintro empty
      simp [empty] at longer
  rw [extend_eq]
  exact Text.splitOn_join_of_not_mem some_ clean

-- The edits behind the stage leave the segments that the chain ends with: none of them is followed
-- by the post-compile stage or is handed a theme that it does not have.
def Leaves (i : Injection) (present ending : List Segment) : Prop :=
  match i.block with
  | .script => True
  | .template => ∀ post, i.postCompile = some post →
      post ∈ present ∨ ∀ s ∈ ending, ¬"template-compiler".toList <:+: s
  | .style => ∀ theme, i.theme = some theme → theme.isEmpty = false →
      Chain.EachStage i.preprocessor ending fun s => Chain.themedSegment theme s = s

theorem leaves_congr (i : Injection) {present others ending : List Segment}
    (same : ∀ s, s ∈ present ↔ s ∈ others) : i.Leaves present ending ↔ i.Leaves others ending := by
  unfold Leaves
  simp only [same]

theorem leaves_nil (i : Injection) (present : List Segment) : i.Leaves present [] := by
  unfold Leaves
  split
  · trivial
  · exact fun post given => .inr fun s member => absurd member List.not_mem_nil
  · exact fun theme given filled s member => absurd member List.not_mem_nil

theorem suffix_finish_iff (i : Injection) (front ending : List Segment) :
    ending <:+ (i.finish ⟨front ++ ending⟩).segments ↔ i.Leaves (front ++ ending) ending := by
  unfold finish Leaves
  cases i.block with
  | script => exact iff_of_true (List.suffix_append front ending) trivial
  | template =>
    cases i.postCompile with
    | none => exact iff_of_true (List.suffix_append front ending) fun post given => (by cases given)
    | some post =>
      have each : (∀ other, some post = some other →
          other ∈ front ++ ending ∨ ∀ s ∈ ending, ¬"template-compiler".toList <:+: s) ↔
            (post ∈ front ++ ending ∨ ∀ s ∈ ending, ¬"template-compiler".toList <:+: s) := by
        simp
      have has : (Chain.mk (front ++ ending)).hasStage post = true ↔ post ∈ front ++ ending :=
        List.contains_iff_mem
      dsimp only
      rw [each]
      by_cases present : post ∈ front ++ ending
      · rw [if_pos (has.2 present)]
        exact iff_of_true (List.suffix_append front ending) (.inl present)
      · have absent : post ∉ ending := fun member => present (List.mem_append_right front member)
        rw [if_neg (mt has.1 present), Chain.insertBehind_append,
          Chain.suffix_insertBehind_iff absent, or_iff_right present]
  | style =>
    cases i.theme with
    | none => exact iff_of_true (List.suffix_append front ending) fun theme given => (by cases given)
    | some theme =>
      dsimp only
      by_cases empty : theme.isEmpty = true
      · rw [if_pos empty]
        refine iff_of_true (List.suffix_append front ending) fun other given filled => ?_
        cases given
        rw [empty] at filled
        cases filled
      · rw [if_neg empty, Chain.suffix_withTheme_iff]
        simp [empty]

theorem extendChain_selected {i : Injection} {c : Chain} {selector : Nat}
    (found : c.selector? i.block = some selector) (absent : i.stage ∉ c.segments) :
    ∃ front, (∀ s, s ∈ front ++ c.selected i.block ↔ s ∈ i.stage :: c.segments) ∧
      i.extendChain c = i.finish ⟨front ++ c.selected i.block⟩ := by
  have bound := selector_lt found
  have near := i.index_le (Nat.le_of_lt bound)
  have behind : c.segments.drop (i.index c selector) =
      (c.segments.drop (i.index c selector)).take (selector - i.index c selector) ++
        c.selected i.block := by
    rw [Chain.selected_eq_drop found]
    conv_lhs => rw [← List.take_append_drop (selector - i.index c selector)
      (c.segments.drop (i.index c selector))]
    rw [List.drop_drop, Nat.add_sub_cancel' near]
  have split : ∀ s, s ∈ c.segments ↔
      s ∈ c.segments.take (i.index c selector) ∨ s ∈ c.segments.drop (i.index c selector) := by
    intro s
    rw [← List.mem_append, List.take_append_drop]
  refine ⟨c.segments.take (i.index c selector) ++ i.stage ::
    (c.segments.drop (i.index c selector)).take (selector - i.index c selector), fun s => ?_, ?_⟩
  · rw [List.append_assoc, List.cons_append, ← behind, List.mem_append, List.mem_cons,
      List.mem_cons, split]
    exact or_left_comm
  · rw [List.append_assoc, List.cons_append, ← behind]
    exact extendChain_of_found found absent

-- The selector and what stands behind it stay at the end of the chain exactly when the stage was
-- there before or the other edits leave them too.
theorem selected_suffix_extend_iff {i : Injection} (whole : i.Whole) (chain : Text) :
    (Chain.parse chain).selected i.block <:+ Text.splitOn '!' (i.extend chain) ↔
      i.stage ∈ Text.splitOn '!' chain ∨
        i.Leaves (i.stage :: Text.splitOn '!' chain) ((Chain.parse chain).selected i.block) := by
  cases found : (Chain.parse chain).selector? i.block with
  | none =>
    rw [Chain.selected_eq_nil found]
    exact iff_of_true List.nil_suffix (.inr (i.leaves_nil _))
  | some selector =>
    by_cases present : i.stage ∈ Text.splitOn '!' chain
    · rw [extend_of_hasStage present]
      exact iff_of_true (List.dropWhile_suffix _) (.inl present)
    · obtain ⟨front, members, same⟩ := extendChain_selected found present
      rw [splitOn_extend whole, same, suffix_finish_iff, or_iff_right present,
        leaves_congr i members]
      rfl

theorem selected_suffix_extend_iff_two_stages :
    let theme : ThemeVariables := .ofList [("color".toList, "red".toList)]
    let i : Injection := { block := .style, stage := "AFTER".toList, theme := some theme }
    let chain := "less-loader?a!./selector?type=style!less-loader!./less-loader.vue".toList
    i.Whole ∧ ((Chain.parse chain).selected i.block <:+ Text.splitOn '!' (i.extend chain) ↔
      i.stage ∈ Text.splitOn '!' chain ∨
        i.Leaves (i.stage :: Text.splitOn '!' chain) ((Chain.parse chain).selected i.block)) := by
  intro theme i chain
  have whole : i.Whole := by
    refine ⟨by decide, fun post given => (by cases given), fun _ given => ?_⟩
    cases given
    decide
  exact ⟨whole, selected_suffix_extend_iff whole chain⟩

theorem resource_followed_by_stage :
    let i : Injection :=
      { block := .template, stage := "T".toList, postCompile := some "P".toList }
    let chain := "./selector?type=template!./template-compiler/a.vue".toList
    i.Whole ∧ (Chain.parse chain).selected i.block =
        ["./selector?type=template".toList, "./template-compiler/a.vue".toList] ∧
      Text.splitOn '!' (i.extend chain) = ["T".toList, "./selector?type=template".toList,
        "./template-compiler/a.vue".toList, "P".toList] ∧
      ¬(Chain.parse chain).selected i.block <:+ Text.splitOn '!' (i.extend chain) := by
  intro i chain
  have whole : i.Whole := by
    refine ⟨by decide, fun _ given => ?_, fun theme given => (by cases given)⟩
    cases given
    decide
  exact ⟨whole, by decide, by decide, by decide⟩

example :
    let theme : ThemeVariables := .ofList [("color".toList, "red".toList)]
    let i : Injection := { block := .style, stage := "AFTER".toList, theme := some theme }
    i.extend "./less-loader/selector?type=style!./a.vue".toList =
      "AFTER!./less-loader/selector?\x7b'modifyVars':\x7b'color':'red'\x7d\x7d!./a.vue".toList := by
  decide +kernel

end Injection
end ComponentLoader
