import ComponentLoader.Proofs.Chain.Selector
import Mathlib.Data.List.Forall2

namespace ComponentLoader
namespace Chain

theorem findIdx?_reverse_eq_some {l : List α} {p : α → Bool} {back : Nat}
    (found : l.reverse.findIdx? p = some back) : ∃ _ : back < l.length,
      p l[l.length - 1 - back] = true ∧
        ∀ (j : Nat) (_ : j < l.length), p l[j] = true → j ≤ l.length - 1 - back := by
  obtain ⟨bound, chosen, earlier⟩ := List.findIdx?_eq_some_iff_getElem.1 found
  have near : back < l.length := by simpa using bound
  refine ⟨near, by simpa [List.getElem_reverse] using chosen, fun j inside here => ?_⟩
  by_contra far
  have other := earlier (l.length - 1 - j) (by omega)
  have same : l.length - 1 - (l.length - 1 - j) = j := by omega
  simp only [List.getElem_reverse, same, here] at other
  exact other trivial

structure FirstMarked (b : Block) (segments : List Segment) (t : Nat) : Prop where
  marked : ∃ s, segments[t]? = some s ∧ b.marker <:+: s
  first : ∀ s ∈ segments.take t, ¬b.marker <:+: s

theorem selector?_of_firstMarked {c : Chain} {b : Block} {t : Nat}
    (first : FirstMarked b c.segments t) : c.selector? b = some t := by
  obtain ⟨s, place, marked⟩ := first.marked
  obtain ⟨bound, same⟩ := List.getElem?_eq_some_iff.1 place
  refine List.findIdx?_eq_some_iff_getElem.2 ⟨bound, ?_, fun u before => ?_⟩
  · rw [same]
    exact Text.contains_iff.2 marked
  · have early : c.segments[u] ∈ c.segments.take t := by
      rw [List.mem_take_iff_getElem]
      exact ⟨u, by omega, rfl⟩
    exact mt Text.contains_iff.1 (first.first _ early)

theorem selector?_of_unmarked {c : Chain} {b : Block}
    (unmarked : ∀ s ∈ c.segments, ¬b.marker <:+: s) : c.selector? b = none := by
  refine List.findIdx?_eq_none_iff.2 fun s member => ?_
  exact Bool.eq_false_iff.2 (mt Text.contains_iff.1 (unmarked s member))

def HasStageAt (preprocessor : Text) (segments : List Segment) (k : Nat) : Prop :=
  ∃ s, segments[k]? = some s ∧ s.stageName ≠ [] ∧ preprocessor <:+: s.stageName

inductive Followed (mark post : Text) : List Segment → List Segment → Prop
  | nil : Followed mark post [] []
  | marked {s : Segment} {l r : List Segment} :
    mark <:+: s → Followed mark post l r → Followed mark post (s :: l) (s :: post :: r)
  | other {s : Segment} {l r : List Segment} :
    ¬mark <:+: s → Followed mark post l r → Followed mark post (s :: l) (s :: r)

theorem followed_insertBehind (mark post : Text) (l : List Segment) :
    Followed mark post l (insertBehind ⟨l⟩ mark post).segments := by
  induction l with
  | nil => exact .nil
  | cons s l ih =>
    rw [← List.singleton_append, insertBehind_append]
    by_cases marked : mark <:+: s
    · rw [insertBehind_of_marked marked]
      exact .marked marked ih
    · rw [insertBehind_of_unmarked marked]
      exact .other marked ih

theorem Followed.sublist {mark post : Text} {l r : List Segment} (followed : Followed mark post l r) :
    l.Sublist r := by
  induction followed with
  | nil => exact .slnil
  | marked _ _ ih => exact (ih.cons _).cons_cons _
  | other _ _ ih => exact ih.cons_cons _

structure Requeried (preprocessor : Text) (l r : List Segment) : Prop where
  last : r.getLast? = l.getLast?
  others : List.Forall₂ (fun s s' : Segment => s'.stageName = s.stageName ∧
    (preprocessor <:+: s.stageName ∨ s' = s)) l.dropLast r.dropLast

theorem requeried_withTheme (preprocessor : Text) (theme : ThemeVariables) (l : List Segment) :
    Requeried preprocessor l (withTheme ⟨l⟩ preprocessor theme).segments := by
  refine ⟨getLast?_withTheme ⟨l⟩ preprocessor theme, ?_⟩
  rw [dropLast_withTheme, List.forall₂_map_right_iff, List.forall₂_same]
  refine fun s _ => ⟨stageName_themed preprocessor theme s, ?_⟩
  by_cases stage : preprocessor <:+: s.stageName
  · exact .inl stage
  · exact .inr (themed_of_not stage)

theorem stageNames_withTheme (c : Chain) (preprocessor : Text) (theme : ThemeVariables) :
    (c.withTheme preprocessor theme).segments.map Segment.stageName =
      c.segments.map Segment.stageName := by
  rw [withTheme_segments]
  rcases List.eq_nil_or_concat c.segments with none_ | ⟨init, last, same⟩
  · simp [none_]
  · simp [same, stageName_themed]

theorem exists_splitOn_stageName {s : Segment} (plain : '!' ∉ s.stageName) :
    ∃ (first : Segment) (others : List Segment),
      Text.splitOn '!' s = first :: others ∧ first.stageName = s.stageName := by
  have whole : s = s.stageName ++ s.dropWhile (· ≠ '?') := List.takeWhile_append_dropWhile.symm
  rcases query : s.dropWhile (· ≠ '?') with _ | ⟨c, r⟩
  · rw [query, List.append_nil] at whole
    exact ⟨s, [], Text.splitOn_of_not_mem (whole ▸ plain), rfl⟩
  · have mark : c = '?' := by
      have some_ : s.dropWhile (fun c => decide (c ≠ '?')) ≠ [] := by
        rw [query]
        exact List.cons_ne_nil c r
      have stop := List.head_dropWhile_not (fun c => decide (c ≠ '?')) some_
      simpa only [query, List.head_cons, decide_eq_false_iff_not, not_not] using stop
    subst mark
    obtain ⟨first, others, behind⟩ := List.exists_cons_of_ne_nil (Text.splitOn_ne_nil '!' r)
    have cut : Text.splitOn '!' ('?' :: r) = ('?' :: first) :: others := by
      simp [Text.splitOn, behind]
    refine ⟨s.stageName ++ '?' :: first, others, ?_, ?_⟩
    · conv_lhs => rw [whole, query]
      exact Text.splitOn_append_of_not_mem plain cut
    · exact Text.takeWhile_append_cons (name_ne_mark s) (by decide)

theorem sublist_stageNames_splitOn {names : List Text} {ts : List Segment}
    (plain : ∀ name ∈ names, '!' ∉ name) (sub : names.Sublist (ts.map Segment.stageName)) :
    names.Sublist ((ts.flatMap (Text.splitOn '!')).map Segment.stageName) := by
  induction ts generalizing names with
  | nil => exact sub
  | cons t ts ih =>
    rw [List.flatMap_cons, List.map_append]
    rw [List.map_cons] at sub
    cases sub with
    | cons _ sub => exact (ih plain sub).trans (List.sublist_append_right ..)
    | cons_cons _ sub =>
      obtain ⟨here, later⟩ := List.forall_mem_cons.1 plain
      obtain ⟨first, others, parts, same⟩ := exists_splitOn_stageName here
      rw [parts, List.map_cons, same, List.cons_append]
      exact .cons_cons _ ((ih later sub).trans (List.sublist_append_right ..))

end Chain

namespace Injection
open Chain

-- Where the stage is put: in front of the selector, for a style in front of the preprocessor's last
-- stage there.
def IsPlace (i : Injection) (segments : List Segment) (selector k : Nat) : Prop :=
  match i.block with
  | .style =>
    (k < selector ∧ HasStageAt i.preprocessor segments k ∧
        ∀ j < selector, HasStageAt i.preprocessor segments j → j ≤ k) ∨
      (k = selector ∧ ∀ j < selector, ¬HasStageAt i.preprocessor segments j)
  | _ => k = selector

def Finished (i : Injection) (present result : List Segment) : Prop :=
  match i.block with
  | .script => result = present
  | .template =>
    match i.postCompile with
    | some post =>
      (post ∈ present → result = present) ∧
        (post ∉ present → Followed "template-compiler".toList post present result)
    | none => result = present
  | .style =>
    match i.theme with
    | some theme =>
      if theme.isEmpty then result = present else Requeried i.preprocessor present result
    | none => result = present

theorem finished_finish (i : Injection) (l : List Segment) :
    i.Finished l (i.finish ⟨l⟩).segments := by
  unfold Finished finish
  cases i.block with
  | script => rfl
  | template =>
    cases i.postCompile with
    | none => rfl
    | some post =>
      have has : (Chain.mk l).hasStage post = true ↔ post ∈ l := List.contains_iff_mem
      refine ⟨fun present => ?_, fun absent => ?_⟩
      · dsimp only
        rw [if_pos (has.2 present)]
      · dsimp only
        rw [if_neg (mt has.1 absent)]
        exact followed_insertBehind _ post l
  | style =>
    cases i.theme with
    | none => rfl
    | some theme =>
      dsimp only
      split
      · rfl
      · exact requeried_withTheme i.preprocessor theme l

theorem stageNames_finish (i : Injection) (c : Chain) :
    (c.segments.map Segment.stageName).Sublist
      ((i.finish c).segments.map Segment.stageName) := by
  rcases i.finish_cases c with same | ⟨post, -, same⟩ | ⟨theme, -, -, -, same⟩
  · rw [same]
  · rw [same]
    exact (followed_insertBehind _ post c.segments).sublist.map _
  · rw [same, stageNames_withTheme]

-- The search goes backwards, so what it finds first is the last stage in front of the selector.
theorem isPlace_index (i : Injection) {c : Chain} {selector : Nat}
    (inside : selector ≤ c.segments.length) :
    i.IsPlace c.segments selector (i.index c selector) := by
  unfold IsPlace index
  cases i.block with
  | script => rfl
  | template => rfl
  | style =>
    have length : (c.segments.take selector).length = selector := by simp [inside]
    have stage : ∀ (j : Nat) (before : j < selector),
        HasStageAt i.preprocessor c.segments j ↔
          (decide (c.segments[j].stageName ≠ []) && isStageOf i.preprocessor c.segments[j]) = true := by
      intro j before
      rw [Bool.and_eq_true, decide_eq_true_eq, isStageOf_iff]
      simp [HasStageAt, List.getElem?_eq_getElem (Nat.lt_of_lt_of_le before inside)]
    dsimp only [styleIndex]
    split
    · next back found =>
      obtain ⟨bound, chosen, later⟩ := findIdx?_reverse_eq_some found
      simp only [length, List.getElem_take] at bound chosen later
      refine .inl ⟨by omega, (stage _ (by omega)).2 chosen, fun j before here => ?_⟩
      exact later j before ((stage j before).1 here)
    · next none_ =>
      refine .inr ⟨rfl, fun j before here => ?_⟩
      have member : c.segments[j] ∈ (c.segments.take selector).reverse := by
        rw [List.mem_reverse, List.mem_take_iff_getElem]
        exact ⟨j, by omega, rfl⟩
      have other := List.findIdx?_eq_none_iff.1 none_ _ member
      rw [(stage j before).1 here] at other
      cases other

theorem stageNames_extend (i : Injection) (chain : Text) :
    ((Text.splitOn '!' chain).map Segment.stageName).Sublist
      ((Text.splitOn '!' (i.extend chain)).map Segment.stageName) := by
  rcases i.extendChain_cases (Chain.parse chain) with same | ⟨index, bound, -, same⟩
  · have kept : i.extend chain = chain := by
      rw [extend_eq, same]
      exact Text.join_splitOn '!' chain
    rw [kept]
  have longer : (Chain.parse chain).segments.Sublist
      ((Chain.parse chain).segments.take index ++
        i.stage :: (Chain.parse chain).segments.drop index) := by
    conv_lhs => rw [← List.take_append_drop index (Chain.parse chain).segments]
    exact (List.Sublist.refl _).append (List.sublist_cons_self _ _)
  have named := (longer.map Segment.stageName).trans (i.stageNames_finish _)
  have some_ : (i.extendChain (Chain.parse chain)).segments ≠ [] := by
    rw [← same] at named
    intro none_
    rw [none_, List.map_nil, List.sublist_nil, List.map_eq_nil_iff] at named
    exact Text.splitOn_ne_nil '!' chain named
  have plain : ∀ name ∈ (Text.splitOn '!' chain).map Segment.stageName, '!' ∉ name := by
    intro name member
    obtain ⟨s, original, rfl⟩ := List.mem_map.1 member
    exact fun cut => Text.not_mem_of_mem_splitOn original ((List.takeWhile_prefix _).subset cut)
  rw [extend_eq, Chain.render, Text.splitOn_join '!' some_, same]
  exact sublist_stageNames_splitOn plain named

-- The stage is put in once, at its place, and what comes with it stands where it belongs; the names
-- of the chain's own stages are found again in their order.
theorem extend_placed (i : Injection) (chain : Text) :
    (i.Whole → ∀ selector, FirstMarked i.block (Text.splitOn '!' chain) selector →
      i.stage ∉ Text.splitOn '!' chain → ∃ k, i.IsPlace (Text.splitOn '!' chain) selector k ∧
        i.Finished
          ((Text.splitOn '!' chain).take k ++ i.stage :: (Text.splitOn '!' chain).drop k)
          (Text.splitOn '!' (i.extend chain))) ∧
      ((Text.splitOn '!' chain).map Segment.stageName).Sublist
        ((Text.splitOn '!' (i.extend chain)).map Segment.stageName) ∧
      ((∀ s ∈ Text.splitOn '!' chain, ¬i.block.marker <:+: s) ∨ i.stage ∈ Text.splitOn '!' chain →
        i.extend chain = chain) := by
  refine ⟨fun whole selector first absent => ?_, i.stageNames_extend chain, ?_⟩
  · have found : (Chain.parse chain).selector? i.block = some selector :=
      selector?_of_firstMarked first
    have inside := Nat.le_of_lt (selector_lt found)
    refine ⟨i.index (Chain.parse chain) selector, i.isPlace_index inside, ?_⟩
    rw [splitOn_extend whole, extendChain_of_found found absent]
    exact i.finished_finish _
  · rintro (unmarked | present)
    · have none_ : (Chain.parse chain).selector? i.block = none := selector?_of_unmarked unmarked
      rw [extend, none_]
    · exact extend_of_hasStage present

theorem extend_placed_two_stages :
    let theme : ThemeVariables := .ofList [("color".toList, "red".toList)]
    let i : Injection := { block := .style, stage := "AFTER".toList, theme := some theme }
    let chain := "!!css-loader!less-loader!less-loader?a!./a.vue?type=style!./less-loader.vue".toList
    let extended := "AFTER!less-loader!./a.vue?type=style".toList
    i.Whole ∧ FirstMarked i.block (Text.splitOn '!' chain) 5 ∧
      i.stage ∉ Text.splitOn '!' chain ∧ (∃ k, i.IsPlace (Text.splitOn '!' chain) 5 k ∧
        i.Finished
          ((Text.splitOn '!' chain).take k ++ i.stage :: (Text.splitOn '!' chain).drop k)
          (Text.splitOn '!' (i.extend chain))) ∧
      i.stage ∈ Text.splitOn '!' extended ∧ i.extend extended = extended := by
  intro theme i chain extended
  have whole : i.Whole := by
    refine ⟨by decide, fun post given => (by cases given), fun _ given => ?_⟩
    cases given
    decide
  have first : FirstMarked i.block (Text.splitOn '!' chain) 5 := by
    refine ⟨⟨"./a.vue?type=style".toList, by decide, by decide⟩, ?_⟩
    decide
  have absent : i.stage ∉ Text.splitOn '!' chain := by decide
  have present : i.stage ∈ Text.splitOn '!' extended := by decide
  obtain ⟨k, place, finished⟩ := (i.extend_placed chain).1 whole 5 first absent
  exact ⟨whole, first, absent, ⟨k, place, finished⟩, present,
    (i.extend_placed extended).2.2 (.inr present)⟩

end Injection
end ComponentLoader
