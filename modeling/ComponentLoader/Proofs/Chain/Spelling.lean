import ComponentLoader.Proofs.Chain.Masking
import ComponentLoader.Proofs.Chain.Segments

namespace ComponentLoader
namespace Injection
open Glyph

-- A way to spell glyphs that the injection cannot tell from another: how an escaped quote is
-- spelled shows in no text that is looked for in a chain.
structure Spelling (i : Injection) (f : Glyph → Text) : Prop where
  char : ∀ c, f (.char c) = [c]
  some : f .escapedQuote ≠ []
  separators : Text.Apart (f .escapedQuote) ['!', '?']
  marker : Text.Apart (f .escapedQuote) i.block.marker
  compiler : Text.Apart (f .escapedQuote) "template-compiler".toList
  sourceMap : Text.Apart (f .escapedQuote) "sourceMap".toList
  preprocessor : Text.Apart (f .escapedQuote) i.preprocessor
  stage : ¬f .escapedQuote <:+: i.stage
  postCompile : ∀ post, i.postCompile = Option.some post → ¬f .escapedQuote <:+: post

def spelled (f : Glyph → Text) (c : List (List Glyph)) : Chain := ⟨c.map fun s => s.flatMap f⟩

variable {i : Injection} {f : Glyph → Text}

theorem Spelling.flatMap_map (spelling : Spelling i f) (t : Text) :
    (t.map Glyph.char).flatMap f = t := by
  induction t with
  | nil => rfl
  | cons c t ih => rw [List.map_cons, List.flatMap_cons, spelling.char, ih, List.singleton_append]

theorem Spelling.contains (spelling : Spelling i f) {p : Text}
    (apart : Text.Apart (f .escapedQuote) p) (s : List Glyph) :
    Text.contains p (s.flatMap f) = decide (p.map Glyph.char <:+: s) := by
  rw [Bool.eq_iff_iff, Text.contains_iff, decide_eq_true_eq]
  constructor
  · refine Text.infix_flatMap fun g => ?_
    cases g with
    | char c => exact .inl ⟨c, rfl, spelling.char c⟩
    | escapedQuote => exact .inr ⟨spelling.some, apart⟩
  · rintro ⟨before, behind, rfl⟩
    rw [List.flatMap_append, List.flatMap_append, spelling.flatMap_map]
    exact List.infix_append ..

theorem Spelling.eq_iff (spelling : Spelling i f) {t : Text} (absent : ¬f .escapedQuote <:+: t)
    (s : List Glyph) : s.flatMap f = t ↔ s = t.map Glyph.char := by
  constructor
  · rintro rfl
    induction s with
    | nil => rfl
    | cons g s ih =>
      rw [List.flatMap_cons] at absent ⊢
      cases g with
      | char c =>
        rw [spelling.char, List.singleton_append] at absent ⊢
        rw [List.map_cons, ← ih fun found => absent (List.infix_cons found)]
      | escapedQuote => exact absurd (List.prefix_append ..).isInfix absent
  · rintro rfl
    exact spelling.flatMap_map t

theorem splitOn_flatMap (i : Injection) (s : List Glyph) : ∃ c : List (List Glyph),
    ∀ f, Spelling i f → Text.splitOn '!' (s.flatMap f) = c.map fun s => s.flatMap f := by
  induction s with
  | nil => exact ⟨[[]], fun f spelling => rfl⟩
  | cons g s ih =>
    obtain ⟨c, parts⟩ := ih
    by_cases sep : g = .char '!'
    · refine ⟨[] :: c, fun f spelling => ?_⟩
      rw [sep, List.flatMap_cons, spelling.char, List.singleton_append, Text.splitOn, if_pos rfl,
        parts f spelling]
      rfl
    · cases c with
      | nil => exact ⟨[], fun f spelling => absurd (parts f spelling) (Text.splitOn_ne_nil _ _)⟩
      | cons t ts =>
        refine ⟨(g :: t) :: ts, fun f spelling => ?_⟩
        have absent : '!' ∉ f g := by
          cases g with
          | char d =>
            rw [spelling.char, List.mem_singleton]
            rintro rfl
            exact sep rfl
          | escapedQuote => exact fun member => spelling.separators _ member (by simp)
        rw [List.flatMap_cons, Text.splitOn_append_of_not_mem absent (parts f spelling)]
        rfl

theorem join_flatMap (i : Injection) (c : List (List Glyph)) : ∃ s : List Glyph,
    ∀ f, Spelling i f → (spelled f c).render = s.flatMap f := by
  induction c with
  | nil => exact ⟨[], fun f spelling => rfl⟩
  | cons t ts ih =>
    obtain ⟨s, joined⟩ := ih
    cases ts with
    | nil => exact ⟨t, fun f spelling => rfl⟩
    | cons u us =>
      refine ⟨t ++ .char '!' :: s, fun f spelling => ?_⟩
      have joined := joined f spelling
      unfold spelled Chain.render at joined ⊢
      rw [List.map_cons, Text.join_cons (by simp), joined, List.flatMap_append, List.flatMap_cons,
        spelling.char]
      simp

def glyphName (s : List Glyph) : List Glyph := s.takeWhile (· ≠ .char '?')

theorem Spelling.stageName (spelling : Spelling i f) (s : List Glyph) :
    Segment.stageName (s.flatMap f) = (glyphName s).flatMap f := by
  unfold Segment.stageName glyphName
  induction s with
  | nil => rfl
  | cons g s ih =>
    cases g with
    | char c =>
      by_cases query : c = '?'
      · simp [spelling.char, query]
      · simp [spelling.char, query] at ih ⊢
        exact ih
    | escapedQuote =>
      rw [List.flatMap_cons, List.takeWhile_append_of_pos, ih]
      · simp
      · intro x member
        simpa using fun same : x = '?' => spelling.separators x member (by simp [same])

theorem Spelling.selector? (spelling : Spelling i f) (c : List (List Glyph)) :
    (spelled f c).selector? i.block =
      c.findIdx? fun s => decide (i.block.marker.map Glyph.char <:+: s) := by
  unfold Chain.selector? spelled
  rw [List.findIdx?_map]
  congr 1
  funext s
  exact spelling.contains spelling.marker s

theorem Spelling.hasStage (spelling : Spelling i f) {t : Text} (absent : ¬f .escapedQuote <:+: t)
    (c : List (List Glyph)) : (spelled f c).hasStage t = decide (t.map Glyph.char ∈ c) := by
  unfold Chain.hasStage spelled
  rw [Bool.eq_iff_iff, List.contains_iff_mem, decide_eq_true_eq, List.mem_map]
  constructor
  · rintro ⟨s, member, same⟩
    rwa [← (spelling.eq_iff absent s).1 same]
  · intro member
    exact ⟨_, member, spelling.flatMap_map t⟩

theorem Spelling.isStageOf (spelling : Spelling i f) (s : List Glyph) :
    Chain.isStageOf i.preprocessor (s.flatMap f) =
      decide (i.preprocessor.map Glyph.char <:+: glyphName s) := by
  rw [Chain.isStageOf, spelling.stageName, spelling.contains spelling.preprocessor]

theorem Spelling.flatMap_eq_nil (spelling : Spelling i f) {s : List Glyph} :
    s.flatMap f = [] ↔ s = [] := by
  rw [List.flatMap_eq_nil_iff]
  constructor
  · intro empty
    refine List.eq_nil_iff_forall_not_mem.2 fun g member => ?_
    cases g with
    | char c => exact absurd (empty _ member) (by simp [spelling.char])
    | escapedQuote => exact spelling.some (empty _ member)
  · rintro rfl
    simp

theorem index_spelled (i : Injection) (c : List (List Glyph)) (selector : Nat) :
    ∃ n, ∀ f, Spelling i f → i.index (spelled f c) selector = n := by
  cases block : i.block with
  | script => exact ⟨selector, fun f spelling => by rw [index, block]⟩
  | template => exact ⟨selector, fun f spelling => by rw [index, block]⟩
  | style =>
    refine ⟨((c.take selector).reverse.findIdx? fun s => decide (glyphName s ≠ []) &&
      decide (i.preprocessor.map Glyph.char <:+: glyphName s)).elim selector
        fun back => selector - 1 - back, fun f spelling => ?_⟩
    have test : ((fun s => decide (Segment.stageName s ≠ []) && Chain.isStageOf i.preprocessor s) ∘
        fun s => s.flatMap f) = fun s => decide (glyphName s ≠ []) &&
          decide (i.preprocessor.map Glyph.char <:+: glyphName s) := by
      funext s
      simp only [Function.comp_apply, spelling.isStageOf, spelling.stageName, Ne,
        spelling.flatMap_eq_nil]
    unfold index styleIndex spelled
    rw [block]
    dsimp only
    rw [← List.map_take, ← List.map_reverse, List.findIdx?_map, test]
    split
    · next back found =>
      rw [found]
      rfl
    · next absent =>
      rw [absent]
      rfl

theorem insertBehind_spelled (i : Injection) (c : List (List Glyph)) (post : Text) :
    ∃ d, ∀ f, Spelling i f →
      (spelled f c).insertBehind "template-compiler".toList post = spelled f d := by
  refine ⟨c.flatMap fun s => if "template-compiler".toList.map Glyph.char <:+: s then
    [s, post.map Glyph.char] else [s], fun f spelling => ?_⟩
  unfold Chain.insertBehind spelled
  rw [Chain.mk.injEq, List.flatMap_map, List.map_flatMap]
  refine List.flatMap_congr fun s _ => ?_
  rw [spelling.contains spelling.compiler]
  by_cases found : "template-compiler".toList.map Glyph.char <:+: s
  · simp only [found, decide_true, if_true, List.map_cons, List.map_nil, spelling.flatMap_map]
  · simp only [found, decide_false, if_false, List.map_cons, List.map_nil, Bool.false_eq_true]

theorem themedSegment_spelled (i : Injection) (theme : ThemeVariables) (s : List Glyph) :
    ∃ t : List Glyph, ∀ f, Spelling i f →
      Chain.themedSegment theme (s.flatMap f) = t.flatMap f := by
  refine ⟨glyphName s ++ .char '?' :: ((Chain.themeQuery theme
    (decide ("sourceMap".toList.map Glyph.char <:+: s))).render.map fun c =>
      if c = '"' then '\'' else c).map Glyph.char, fun f spelling => ?_⟩
  unfold Chain.themedSegment
  rw [spelling.stageName, spelling.contains spelling.sourceMap, List.flatMap_append,
    List.flatMap_cons, spelling.char, spelling.flatMap_map]
  rfl

theorem withTheme_spelled (i : Injection) (c : List (List Glyph)) (theme : ThemeVariables) :
    ∃ d, ∀ f, Spelling i f → (spelled f c).withTheme i.preprocessor theme = spelled f d := by
  choose themed same using themedSegment_spelled i theme
  refine ⟨c.dropLast.map (fun s =>
    if i.preprocessor.map Glyph.char <:+: glyphName s then themed s else s) ++ c.getLast?.toList,
    fun f spelling => ?_⟩
  unfold Chain.withTheme spelled
  rw [Chain.mk.injEq, List.map_append, ← List.map_dropLast, List.map_map, List.map_map,
    List.getLast?_map]
  congr 1
  · refine List.map_congr_left fun s _ => ?_
    simp only [Function.comp_apply, spelling.isStageOf, decide_eq_true_eq]
    split
    · exact same s f spelling
    · rfl
  · cases c.getLast? <;> rfl

theorem finish_spelled (i : Injection) (c : List (List Glyph)) :
    ∃ d, ∀ f, Spelling i f → i.finish (spelled f c) = spelled f d := by
  unfold finish
  cases i.block with
  | script => exact ⟨c, fun f spelling => rfl⟩
  | template =>
    cases given : i.postCompile with
    | none => exact ⟨c, fun f spelling => rfl⟩
    | some post =>
      by_cases has : post.map Glyph.char ∈ c
      · refine ⟨c, fun f spelling => ?_⟩
        simp [spelling.hasStage (spelling.postCompile post given), has]
      · obtain ⟨d, same⟩ := insertBehind_spelled i c post
        refine ⟨d, fun f spelling => ?_⟩
        simp only [spelling.hasStage (spelling.postCompile post given), has, decide_false,
          Bool.false_eq_true, if_false]
        exact same f spelling
  | style =>
    cases i.theme with
    | none => exact ⟨c, fun f spelling => rfl⟩
    | some theme =>
      cases empty : theme.isEmpty with
      | true => exact ⟨c, fun f spelling => by simp [empty]⟩
      | false =>
        obtain ⟨d, same⟩ := withTheme_spelled i c theme
        refine ⟨d, fun f spelling => ?_⟩
        simp only [empty, Bool.false_eq_true, if_false]
        exact same f spelling

theorem extendChain_spelled (i : Injection) (c : List (List Glyph)) :
    ∃ d, ∀ f, Spelling i f → i.extendChain (spelled f c) = spelled f d := by
  cases found : c.findIdx? fun s => decide (i.block.marker.map Glyph.char <:+: s) with
  | none =>
    refine ⟨c, fun f spelling => ?_⟩
    rw [extendChain, spelling.selector?, found]
  | some selector =>
    by_cases has : i.stage.map Glyph.char ∈ c
    · refine ⟨c, fun f spelling => ?_⟩
      simp [extendChain, spelling.selector?, found, spelling.hasStage spelling.stage, has]
    · obtain ⟨n, place⟩ := index_spelled i c selector
      obtain ⟨d, put⟩ : ∃ d, ∀ f, Spelling i f →
          insert (spelled f c) n i.stage = spelled f d := by
        by_cases inside : n ≤ c.length
        · refine ⟨c.take n ++ i.stage.map Glyph.char :: c.drop n, fun f spelling => ?_⟩
          simp [insert, Chain.insertAt?, spelled, inside, spelling.flatMap_map]
        · refine ⟨c, fun f spelling => ?_⟩
          simp [insert, Chain.insertAt?, spelled, inside]
      obtain ⟨e, finished⟩ := finish_spelled i d
      refine ⟨e, fun f spelling => ?_⟩
      rw [extendChain, spelling.selector?, found]
      dsimp only
      rw [spelling.hasStage spelling.stage, decide_eq_false has, extendParsed_eq,
        place f spelling, put f spelling]
      exact finished f spelling

theorem extend_spelled (i : Injection) (chain : List Glyph) : ∃ extended : List Glyph,
    ∀ f, Spelling i f → i.extend (chain.flatMap f) = extended.flatMap f := by
  obtain ⟨c, parts⟩ := splitOn_flatMap i chain
  obtain ⟨d, same⟩ := extendChain_spelled i c
  obtain ⟨extended, joined⟩ := join_flatMap i d
  refine ⟨extended, fun f spelling => ?_⟩
  have parsed : Chain.parse (chain.flatMap f) = spelled f c := by
    rw [Chain.parse, parts f spelling]
    rfl
  rw [extend_eq, parsed, same f spelling, joined f spelling]

end Injection
end ComponentLoader
