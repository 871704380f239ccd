import ComponentLoader.Proofs.Chain.Alignment
import ComponentLoader.Proofs.Chain.Segments

namespace ComponentLoader
namespace Text

theorem not_mem_join {x sep : Char} {ts : List Text} (other : x ≠ sep) (absent : ∀ t ∈ ts, x ∉ t) :
    x ∉ join [sep] ts := by
  intro member
  rcases mem_join member with same | ⟨t, part, inside⟩
  · exact other (List.mem_singleton.1 same)
  · exact absent t part inside

theorem head?_join {x sep : Char} {ts : List Text} (other : x ≠ sep) :
    (join [sep] ts).head? = some x ↔ ∃ t, ts.head? = some t ∧ t.head? = some x := by
  match ts with
  | [] => simp [join]
  | [t] => simp [join]
  | t :: u :: us =>
    have differs : sep ≠ x := fun same => other same.symm
    cases t with
    | nil => simp [join, differs]
    | cons c t => simp [join]

theorem getLast?_join {x sep : Char} {ts : List Text} (other : x ≠ sep) :
    (join [sep] ts).getLast? = some x ↔ ∃ t, ts.getLast? = some t ∧ t.getLast? = some x := by
  induction ts with
  | nil => simp [join]
  | cons t ts ih =>
    cases ts with
    | nil => simp [join]
    | cons u us =>
      have differs : sep ≠ x := fun same => other same.symm
      rw [join_cons (by simp), List.getLast?_append, List.getLast?_cons_cons, ← ih]
      cases join [sep] (u :: us) with
      | nil => simp [differs]
      | cons c rest => simp [List.getLast?_cons]

end Text

namespace Chain

theorem not_mem_themedSegment {theme : ThemeVariables} {s : Segment} (closed : '"' ∉ s) :
    '"' ∉ themedSegment theme s := by
  unfold themedSegment
  simp only [List.mem_append, List.mem_cons, List.mem_map, not_or]
  refine ⟨fun member => closed ((List.takeWhile_prefix _).subset member), by decide, ?_⟩
  rintro ⟨c, -, same⟩
  split at same
  · cases same
  · next other => exact other same

theorem head?_themedSegment {theme : ThemeVariables} {s : Segment} {x : Char} (other : x ≠ '?') :
    (themedSegment theme s).head? = some x ↔ s.head? = some x := by
  have differs : '?' ≠ x := fun same => other same.symm
  unfold themedSegment Segment.stageName
  cases s with
  | nil => simp [differs]
  | cons c s =>
    by_cases query : c = '?'
    · simp [query]
    · simp [query]

theorem getLast?_insertBehind (c : Chain) (mark stage : Text) :
    (c.insertBehind mark stage).segments.getLast? = c.segments.getLast? ∨
      (c.insertBehind mark stage).segments.getLast? = some stage := by
  unfold insertBehind
  rcases List.eq_nil_or_concat c.segments with none_ | ⟨init, last, same⟩
  · simp [none_]
  · rw [same, List.concat_eq_append, List.flatMap_append]
    by_cases marked : Text.contains mark last = true
    · simp [marked]
    · simp [marked]

theorem head?_insertBehind (c : Chain) (mark stage : Text) :
    (c.insertBehind mark stage).segments.head? = c.segments.head? := by
  unfold insertBehind
  cases c.segments with
  | nil => rfl
  | cons s rest =>
    by_cases marked : Text.contains mark s = true
    · simp [marked]
    · simp [marked]

theorem head?_withTheme {c : Chain} {preprocessor : Text} {theme : ThemeVariables} {s : Segment}
    (first : (c.withTheme preprocessor theme).segments.head? = some s) :
    c.segments.head? = some s ∨
      ∃ t, c.segments.head? = some t ∧ s = themedSegment theme t := by
  unfold withTheme at first
  match all : c.segments with
  | [] => simp [all] at first
  | [t] => exact .inl (by simpa [all] using first)
  | t :: u :: rest =>
    simp only [all, List.dropLast_cons_cons, List.map_cons, List.cons_append, List.head?_cons,
      Option.some.injEq] at first
    split at first
    · exact .inr ⟨t, rfl, first.symm⟩
    · exact .inl (by rw [first]; rfl)

theorem insertBehind_bare {c : Chain} {mark : Text} (stage : Text) {rest : List Segment}
    (ne : mark ≠ []) (bare : c.segments = [] :: [] :: rest) (some_ : rest ≠ []) :
    ∃ u, u ≠ [] ∧ (c.insertBehind mark stage).segments = [] :: [] :: u := by
  have plain : Text.contains mark [] = false := by
    rw [Bool.eq_false_iff, Ne, Text.contains_iff]
    simpa using ne
  refine ⟨rest.flatMap fun s => if Text.contains mark s then [s, stage] else [s], ?_, ?_⟩
  · cases rest with
    | nil => exact absurd rfl some_
    | cons s rest =>
      rw [List.flatMap_cons]
      split <;> simp
  · simp [insertBehind, bare, plain]

theorem withTheme_bare {c : Chain} {preprocessor : Text} (theme : ThemeVariables)
    {rest : List Segment} (ne : preprocessor ≠ []) (bare : c.segments = [] :: [] :: rest)
    (some_ : rest ≠ []) :
    ∃ u, u ≠ [] ∧ (c.withTheme preprocessor theme).segments = [] :: [] :: u := by
  have plain : isStageOf preprocessor [] = false := by
    rw [Bool.eq_false_iff, Ne, isStageOf, Text.contains_iff]
    simpa [Segment.stageName] using ne
  cases rest with
  | nil => exact absurd rfl some_
  | cons s rest => simp [withTheme, bare, plain]

end Chain

namespace Injection

theorem getLast?_finish (i : Injection) (c : Chain) :
    (i.finish c).segments.getLast? = c.segments.getLast? ∨
      (i.finish c).segments.getLast? = i.postCompile := by
  rcases i.finish_cases c with same | ⟨post, given, same⟩ | ⟨theme, -, -, -, same⟩
  · exact .inl (by rw [same])
  · rw [same, given]
    exact Chain.getLast?_insertBehind ..
  · rw [same]
    exact .inl (Chain.getLast?_withTheme ..)

theorem head?_finish {i : Injection} {c : Chain} {s : Segment}
    (first : (i.finish c).segments.head? = some s) :
    c.segments.head? = some s ∨
      ∃ theme t, c.segments.head? = some t ∧ s = Chain.themedSegment theme t := by
  rcases i.finish_cases c with same | ⟨post, -, same⟩ | ⟨theme, -, -, -, same⟩
  · rw [same] at first
    exact .inl first
  · rw [same, Chain.head?_insertBehind] at first
    exact .inl first
  · rw [same] at first
    exact (Chain.head?_withTheme first).imp_right fun themed => ⟨theme, themed⟩

-- A stage that is one segment of a chain in one request.
structure Plain (stage : Text) : Prop where
  separator : '!' ∉ stage
  quote : '"' ∉ stage
  backslash : '\\' ∉ stage

structure Closed (i : Injection) : Prop where
  stage : Plain i.stage
  postCompile : ∀ post, i.postCompile = some post → Plain post

theorem not_mem_extend {i : Injection} (closed : i.Closed) {chain : Text} (plain : '"' ∉ chain) :
    '"' ∉ i.extend chain := by
  rw [extend_eq]
  refine Text.not_mem_join (by decide) fun s member => ?_
  have original : ∀ t ∈ (Chain.parse chain).segments, '"' ∉ t := fun t here inside =>
    plain ((Text.infix_of_mem_splitOn here).subset inside)
  rcases mem_extendChain member with here | rfl | post | ⟨theme, -, t, here, -, rfl⟩
  · exact original s here
  · exact closed.stage.quote
  · exact (closed.postCompile s post).quote
  · apply Chain.not_mem_themedSegment
    rcases here with here | rfl
    · exact original t here
    · exact closed.stage.quote

def Named (i : Injection) : Prop :=
  i.block = .style → ∀ theme, i.theme = some theme → theme.isEmpty = false → i.preprocessor ≠ []

theorem finish_bare {i : Injection} (named : i.Named) {c : Chain} {rest : List Segment}
    (bare : c.segments = [] :: [] :: rest) (some_ : rest ≠ []) :
    ∃ u, u ≠ [] ∧ (i.finish c).segments = [] :: [] :: u := by
  rcases i.finish_cases c with same | ⟨post, -, same⟩ | ⟨theme, block, given, filled, same⟩
  · rw [same]
    exact ⟨rest, some_, bare⟩
  · rw [same]
    exact Chain.insertBehind_bare post (by simp) bare some_
  · rw [same]
    exact Chain.withTheme_bare theme (named block theme given filled) bare some_

theorem extend_bare {i : Injection} (named : i.Named) (chain : Text) :
    ∃ rest, i.extend ('!' :: '!' :: chain) = '!' :: '!' :: rest := by
  have bare : (Chain.parse ('!' :: '!' :: chain)).segments =
      [] :: [] :: Text.splitOn '!' chain := by
    simp [Chain.parse, Text.splitOn]
  have rendered : ∀ u : List Segment, u ≠ [] →
      (Chain.mk ([] :: [] :: u)).render = '!' :: '!' :: Text.join ['!'] u := by
    intro u ne
    rw [Chain.render, Text.join_cons (by simp), Text.join_cons ne]
    rfl
  rcases i.extendChain_cases (Chain.parse ('!' :: '!' :: chain)) with
    same | ⟨index, bound, far, same⟩
  · refine ⟨chain, ?_⟩
    rw [extend_eq, same]
    exact Text.join_splitOn '!' _
  · have far := far _ bare
    obtain ⟨index, rfl⟩ := Nat.exists_eq_add_of_le' far
    have placed : (Chain.parse ('!' :: '!' :: chain)).segments.take (index + 2) ++
        i.stage :: (Chain.parse ('!' :: '!' :: chain)).segments.drop (index + 2) =
          [] :: [] :: ((Text.splitOn '!' chain).take index ++
            i.stage :: (Text.splitOn '!' chain).drop index) := by
      simp [bare]
    obtain ⟨u, ne, result⟩ := finish_bare named (c := ⟨_⟩) placed (by simp)
    refine ⟨Text.join ['!'] u, ?_⟩
    rw [extend_eq, same, ← rendered u ne, ← result]

theorem extend_front {i : Injection} (front : i.stage.head? ≠ some ')') {chain : Text}
    (first : (i.extend chain).head? = some ')') : chain.head? = some ')' := by
  rw [extend_eq, Chain.render, Text.head?_join (by decide)] at first
  obtain ⟨s, first, begins⟩ := first
  have original : ∀ {t}, (Chain.parse chain).segments.head? = some t → t.head? = some ')' →
      chain.head? = some ')' := by
    intro t here begins
    have joined : (Text.join ['!'] (Text.splitOn '!' chain)).head? = some ')' :=
      (Text.head?_join (by decide)).2 ⟨t, here, begins⟩
    rwa [Text.join_splitOn] at joined
  rcases i.extendChain_cases (Chain.parse chain) with same | ⟨index, bound, -, same⟩
  · rw [same] at first
    exact original first begins
  · have placed : ∀ {t}, ((Chain.parse chain).segments.take index ++
        i.stage :: (Chain.parse chain).segments.drop index).head? = some t →
        t.head? = some ')' → chain.head? = some ')' := by
      intro t here begins
      cases index with
      | zero =>
        simp only [List.take_zero, List.nil_append, List.head?_cons, Option.some.injEq] at here
        rw [here] at front
        exact absurd begins front
      | succ index =>
        cases segments : (Chain.parse chain).segments with
        | nil => simp [segments] at bound
        | cons u us =>
          refine original (t := t) ?_ begins
          simpa [segments] using here
    rw [same] at first
    rcases head?_finish first with here | ⟨theme, t, here, rfl⟩
    · exact placed here begins
    · exact placed here ((Chain.head?_themedSegment (by decide)).1 begins)

theorem extend_fits {i : Injection} (closed : i.Closed) (named : i.Named)
    (front : i.stage.head? ≠ some ')') : Request.Fits i.extend where
  closed := not_mem_extend closed
  bare := extend_bare named
  front := extend_front front

theorem extend_ends {i : Injection} {chain : Text} {x : Char} (other : x ≠ '!')
    (last : (i.extend chain).getLast? = some x) :
    chain.getLast? = some x ∨ ∃ post, i.postCompile = some post ∧ post.getLast? = some x := by
  rw [extend_eq, Chain.render, Text.getLast?_join other] at last
  obtain ⟨s, last, ends⟩ := last
  have original : (Chain.parse chain).segments.getLast? = some s → chain.getLast? = some x := by
    intro here
    have joined : (Text.join ['!'] (Text.splitOn '!' chain)).getLast? = some x :=
      (Text.getLast?_join other).2 ⟨s, here, ends⟩
    rwa [Text.join_splitOn] at joined
  rcases i.extendChain_cases (Chain.parse chain) with same | ⟨index, bound, -, same⟩
  · rw [same] at last
    exact .inl (original last)
  · rw [same] at last
    rcases i.getLast?_finish ⟨_⟩ with kept | post
    · rw [kept] at last
      refine .inl (original ?_)
      rw [← last, List.getLast?_append, List.getLast?_cons, List.getLast?_drop,
        if_neg (Nat.not_le.2 bound)]
      cases segments : (Chain.parse chain).segments.getLast? with
      | none =>
        rw [List.getLast?_eq_none_iff] at segments
        simp [segments] at bound
      | some t => rfl
    · rw [post] at last
      exact .inr ⟨s, last, ends⟩

end Injection
end ComponentLoader
