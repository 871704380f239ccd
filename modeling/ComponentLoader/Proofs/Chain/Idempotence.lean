import ComponentLoader.Proofs.Chain.Fitting
import ComponentLoader.Proofs.Chain.Masking
import ComponentLoader.Proofs.Chain.Repetition

namespace ComponentLoader
namespace Request

theorem Rewritten.unescaped {g : Text → Text} {s t : Text} (path : Rewritten g s t)
    (closed : ∀ {chain}, '"' ∉ chain → '"' ∉ g chain)
    (ends : ∀ {chain}, (g chain).getLast? = some '\\' → chain.getLast? = some '\\')
    (unescaped : Injection.Unescaped s) : Injection.Unescaped t := by
  induction path with
  | nil => exact .nil
  | char nothing rest ih =>
    obtain ⟨apart, later⟩ := List.isChain_cons.1 unescaped
    refine List.isChain_cons.2 ⟨?_, ih later⟩
    rwa [rest.head?]
  | @request s t r request rest ih =>
    obtain ⟨plain, ⟨opening, quiet, before⟩, ending, kind, after⟩ := request.quotes
    obtain ⟨here, later, -⟩ := List.isChain_append.1 unescaped
    obtain ⟨front, -, apart⟩ := List.isChain_append.1 here
    obtain ⟨opened, -, -⟩ := List.isChain_append.1 front
    have tail : Injection.Unescaped ('"' :: ending) := by
      rcases kind with rfl | rfl <;> simp [Injection.Unescaped]
    unfold Found.text Found.rewrite
    rw [after] at apart ⊢
    refine List.isChain_append.2 ⟨List.isChain_append.2 ⟨List.isChain_append.2
      ⟨opened, Injection.unescaped_of_not_mem (closed plain), ?_⟩, tail, ?_⟩, ih later, ?_⟩
    · rintro x last y - rfl
      simp [before] at last
    · rintro x last y first rfl
      rw [List.getLast?_append] at last
      cases made : (g r.chain).getLast? with
      | none => simp [made, before] at last
      | some z =>
        simp only [made, Option.some_or, Option.mem_some_iff] at last
        subst last
        refine apart '\\' ?_ y first rfl
        rw [List.getLast?_append, ends made]
        rfl
    · rintro x last y - rfl
      rcases kind with rfl | rfl <;> simp at last

-- A text that is not a call until the chain of the import in it begins with a parenthesis; then the
-- call ends inside, and the bare chain behind it begins where the import's chain ended.
def reopening (chain bare : Text) : Text :=
  "require(".toList ++ '"' :: ("import a from ".toList ++ '"' :: (chain ++ '"' :: (bare ++ ['"'])))

theorem rewrite_of_one_quote (g : Text → Text) {a : Text} (plain : '"' ∉ a) :
    Request.rewrite g (a ++ ['"']) = a ++ ['"'] := by
  have nothing : ∀ b, '"' ∉ b → scanner (b ++ ['"']) = none := by
    intro b absent
    rw [Option.eq_none_iff_forall_ne_some]
    rintro ⟨r, rest⟩ found
    obtain ⟨request, same⟩ := scanner_eq_some.1 found
    obtain ⟨-, ⟨opening, quiet, before⟩, ending, -, after⟩ := request.quotes
    rw [Found.text, before, after] at same
    simp only [List.append_assoc, List.cons_append, List.nil_append] at same
    obtain ⟨-, tail⟩ := Text.append_cons_inj absent quiet same
    simp at tail
  induction a with
  | nil =>
    rw [List.nil_append, rewrite_cons (nothing [] List.not_mem_nil), rewrite_nil]
  | cons c a ih =>
    have first := nothing (c :: a) plain
    rw [List.mem_cons, not_or] at plain
    rw [List.cons_append] at first ⊢
    rw [rewrite_cons first, ih plain.2]

-- Whatever stands before the opening quote, the bare chain is that of a request.
theorem rewrite_of_two_quotes (g : Text → Text) {a bare : Text} (plain : '"' ∉ a)
    (closed : '"' ∉ bare) {s : Text} (other : s.head? ≠ some ')') :
    Request.rewrite g (a ++ '"' :: ('!' :: '!' :: bare ++ '"' :: s)) =
      a ++ '"' :: (g ('!' :: '!' :: bare) ++ '"' :: Request.rewrite g s) := by
  induction a with
  | nil =>
    have request : Found.IsRequest ⟨['"'], '!' :: '!' :: bare, ['"']⟩ := .bare closed
    have found := rewrite_append (g := g) request s
    simpa [Found.text, Found.rewrite] using found
  | cons c a ih =>
    rw [List.mem_cons, not_or] at plain
    cases found : scanner (c :: (a ++ '"' :: ('!' :: '!' :: bare ++ '"' :: s))) with
    | none => rw [List.cons_append, rewrite_cons found, ih plain.2, List.cons_append]
    | some item =>
      obtain ⟨r, rest⟩ := item
      obtain ⟨request, same⟩ := scanner_eq_some.1 found
      obtain ⟨inside, ⟨opening, quiet, before⟩, ending, kind, after⟩ := request.quotes
      have whole : '"' ∉ c :: a := by simpa using plain
      have chained : '"' ∉ '!' :: '!' :: bare := by simpa using closed
      rw [List.cons_append, same, rewrite_append request]
      rw [Found.text, before, after] at same
      simp only [List.append_assoc, List.cons_append, List.nil_append] at same
      rw [← List.cons_append] at same
      obtain ⟨rfl, tail⟩ := Text.append_cons_inj whole quiet same
      obtain ⟨chain, ended⟩ := Text.append_cons_inj chained inside tail
      obtain ⟨rfl, rfl⟩ : ending = [] ∧ s = rest := by
        rcases kind with rfl | rfl
        · exact ⟨rfl, ended⟩
        · rw [ended] at other
          exact absurd rfl other
      simp [Found.text, Found.rewrite, before, after, ← chain]

theorem Shape.closing {opening chain after : Text} (shape : Shape (opening ++ ['"']) chain after)
    (sharp : ∀ c ∈ opening.getLast?, isBlank c = false) (full : chain.head? ≠ some '!') :
    after = '"' :: [')'] := by
  generalize opened : opening ++ ['"'] = before at shape
  cases shape with
  | requireCall => simp
  | @defaultImport _ _ g₃ _ _ gap₁ gap₂ gap₃ =>
    repeat rw [written_char] at opened
    obtain ⟨same, -⟩ := List.append_inj' opened rfl
    rcases List.eq_nil_or_concat g₃ with none_ | ⟨g, c, rfl⟩
    · exact absurd none_ gap₃.1
    · have last : c ∈ opening.getLast? := by
        rw [same, List.concat_eq_append, ← List.append_assoc, List.getLast?_concat]
        rfl
      have blank := gap₃.2 c (by simp)
      rw [sharp c last] at blank
      cases blank
  | bare => exact absurd rfl full

theorem rewrite_of_unclosed (g : Text → Text) {a t u : Text} (plain : '"' ∉ a) (closed : '"' ∉ t)
    (sharp : ∀ c ∈ a.getLast?, isBlank c = false) (full : t.head? ≠ some '!')
    (other : u.head? ≠ some ')') :
    Request.rewrite g (a ++ '"' :: (t ++ '"' :: u)) =
      a ++ '"' :: Request.rewrite g (t ++ '"' :: u) := by
  have nothing : ∀ b, '"' ∉ b → (∀ c ∈ b.getLast?, isBlank c = false) →
      scanner (b ++ '"' :: (t ++ '"' :: u)) = none := by
    intro b absent sharp
    rw [Option.eq_none_iff_forall_ne_some]
    rintro ⟨⟨before, chain, after⟩, rest⟩ found
    obtain ⟨request, same⟩ := scanner_eq_some.1 found
    obtain ⟨inside, ⟨opening, quiet, opened⟩, ending, -, ended⟩ := request.quotes
    dsimp only at inside opened ended
    subst opened ended
    simp only [Found.text, List.append_assoc, List.cons_append, List.nil_append] at same
    obtain ⟨rfl, tail⟩ := Text.append_cons_inj absent quiet same
    obtain ⟨rfl, rfl⟩ := Text.append_cons_inj closed inside tail
    obtain ⟨-, rfl⟩ := List.cons.inj (Shape.closing request sharp full)
    exact other rfl
  induction a with
  | nil => exact rewrite_cons (nothing [] List.not_mem_nil sharp)
  | cons c a ih =>
    have first := nothing (c :: a) plain sharp
    rw [List.mem_cons, not_or] at plain
    have later : ∀ x ∈ a.getLast?, isBlank x = false := by
      intro x last
      exact sharp x (by simp [List.getLast?_cons, Option.mem_def.1 last])
    rw [List.cons_append] at first ⊢
    rw [rewrite_cons first, ih plain.2 later, List.cons_append]

theorem isRequest_import {chain : Text} (closed : '"' ∉ chain) :
    Found.IsRequest ⟨"import a from ".toList ++ ['"'], chain, ['"']⟩ := by
  have blank : isBlank ' ' = true := by decide
  have gap : IsGap [' '] := ⟨by simp, by simpa using blank⟩
  have shape := Shape.defaultImport (σ := Char) gap gap gap (List.cons_ne_nil 'a' [])
    (by simp [Symbol.Binds, isBindingChar, isWordChar]) closed
  have opening : "import".toList ++ [' '] ++ ['a'] ++ [' '] ++ "from".toList ++ [' '] ++ ['"'] =
      "import a from ".toList ++ ['"'] := by simp
  repeat rw [written_char] at shape
  rw [opening] at shape
  exact shape

theorem rewrite_reopening (g : Text → Text) {chain bare : Text} (closed : '"' ∉ chain)
    (front : chain.head? ≠ some ')') (some_ : chain ≠ []) (plain : '"' ∉ bare) :
    Request.rewrite g (reopening chain bare) = reopening (g chain) bare := by
  have other : (chain ++ '"' :: (bare ++ ['"'])).head? ≠ some ')' := by
    rwa [List.head?_append_of_ne_nil _ some_]
  have request := isRequest_import closed
  have found := rewrite_append (g := g) request (bare ++ ['"'])
  rw [rewrite_of_one_quote g plain] at found
  simp only [Found.text, Found.rewrite, List.append_assoc, List.cons_append, List.nil_append]
    at found
  unfold reopening
  rw [rewrite_of_unclosed g (by decide) (by decide) (by simp; decide) (by simp) other, found]

theorem rewrite_call (g : Text → Text) {t : Text} (s : Text) (closed : '"' ∉ t) :
    Request.rewrite g ("require(".toList ++ '"' :: (t ++ '"' :: ')' :: s)) =
      "require(".toList ++ '"' :: (g t ++ '"' :: ')' :: Request.rewrite g s) := by
  have shape := Shape.requireCall (σ := Char) closed
  have opening : "require(\"".toList = "require(".toList ++ ['"'] := by simp
  have ending : "\")".toList = ['"', ')'] := by simp
  rw [written_char, written_char, opening, ending] at shape
  have found := rewrite_append (g := g) (r := ⟨_, t, _⟩) shape s
  simpa only [Found.text, Found.rewrite, List.append_assoc, List.cons_append, List.nil_append]
    using found

theorem rewrite_reopening_of_front {g : Text → Text} {chain bare : Text}
    (keeps : ∀ {t}, '"' ∉ t → '"' ∉ g t) (closed : '"' ∉ chain) (front : chain.head? = some ')')
    (plain : '"' ∉ bare)
    (same : Request.rewrite g (reopening chain ('!' :: '!' :: bare)) =
      reopening chain ('!' :: '!' :: bare)) : g ('!' :: '!' :: bare) = '!' :: '!' :: bare := by
  obtain ⟨e, rfl⟩ : ∃ e, chain = ')' :: e := by
    cases chain with
    | nil => cases front
    | cons c e =>
      cases front
      exact ⟨e, rfl⟩
  rw [List.mem_cons, not_or] at closed
  have inner : '"' ∉ "import a from ".toList := by decide
  have outer := rewrite_call g (e ++ '"' :: ('!' :: '!' :: bare ++ ['"'])) inner
  rw [rewrite_of_two_quotes g closed.2 plain (by simp), rewrite_nil] at outer
  unfold reopening at same
  generalize "import a from ".toList = t at same inner outer
  rw [List.cons_append, outer] at same
  have behind := (List.cons.inj (List.append_cancel_left same)).2
  have tail := (Text.append_cons_inj (keeps inner) inner behind).2
  have last := (List.cons.inj (List.append_cancel_left (List.cons.inj tail).2)).2
  exact List.append_cancel_right last

end Request

namespace Injection

theorem ThemeSpares.named {i : Injection} (spares : i.ThemeSpares) : i.Named := by
  intro block theme given filled empty
  refine spares block theme given filled ?_
  rw [empty]
  exact List.nil_infix

theorem ends_of_extend {i : Injection} (closed : i.Closed) {chain : Text}
    (last : (i.extend chain).getLast? = some '\\') : chain.getLast? = some '\\' := by
  rcases extend_ends (by decide) last with same | ⟨post, given, ends⟩
  · exact same
  · exact absurd (List.mem_of_getLast? ends) (closed.postCompile post given).backslash

theorem unescaped_extendRequests {i : Injection} (closed : i.Closed) {s : Text}
    (unescaped : Unescaped s) : Unescaped (i.extendRequests s) :=
  (Request.rewritten_rewrite i.extend s).unescaped (not_mem_extend closed) (ends_of_extend closed)
    unescaped

theorem inject_of_mayApply {i : Injection} {source : Text} (may : i.mayApply source = true) :
    i.inject source = showQuotes (i.extendRequests (hideQuotes source)) := by
  rw [inject, if_pos may]

theorem inject_of_not_mayApply {i : Injection} {source : Text} (may : i.mayApply source = false) :
    i.inject source = source := by
  rw [inject, may]
  rfl

-- Unless its stage ends a call, an injection finds the requests of the source in its result, and
-- their chains with the stage.
theorem inject_inject_of_front {i : Injection} (closed : i.Closed) (spares : i.ThemeSpares)
    (front : i.stage.head? ≠ some ')') (source : Text) :
    i.inject (i.inject source) = i.inject source := by
  cases may : i.mayApply source with
  | false => rw [inject_of_not_mayApply may, inject_of_not_mayApply may]
  | true =>
    cases again : i.mayApply (i.inject source) with
    | false => exact inject_of_not_mayApply again
    | true =>
      rw [inject_of_mayApply again, inject_of_mayApply may]
      have unescaped := unescaped_extendRequests closed (unescaped_hideQuotes source)
      have fits := extend_fits closed spares.named front
      rw [hideQuotes_showQuotes unescaped]
      have twice : i.extendRequests (i.extendRequests (hideQuotes source)) =
          i.extendRequests (hideQuotes source) := by
        have once : i.extend ∘ i.extend = i.extend :=
          funext (extend_extend closed.stage.separator spares)
        have both := Request.rewrite_rewrite (h := i.extend) fits (hideQuotes source)
        rwa [once] at both
      rw [twice]

def reference (b : Block) : Text := 'a' :: '?' :: b.marker

theorem reference_plain (b : Block) :
    '"' ∉ reference b ∧ '!' ∉ reference b ∧ '_' ∉ reference b := by
  cases b <;> decide

theorem segments_reference (b : Block) : (Chain.parse (reference b)).segments = [reference b] :=
  Text.splitOn_of_not_mem (reference_plain b).2.1

theorem selector?_reference (b : Block) : (Chain.parse (reference b)).selector? b = some 0 := by
  have marked : Segment.isMarked b (reference b) = true := by
    rw [Segment.isMarked, Text.contains_iff]
    exact (List.suffix_append ['a', '?'] _).isInfix
  rw [Chain.selector?, segments_reference, List.findIdx?_cons, if_pos marked]

theorem selector?_bare (b : Block) :
    (Chain.parse ('!' :: '!' :: reference b)).selector? b = some 2 := by
  have marked : Segment.isMarked b (reference b) = true := by
    rw [Segment.isMarked, Text.contains_iff]
    exact (List.suffix_append ['a', '?'] _).isInfix
  have segments : (Chain.parse ('!' :: '!' :: reference b)).segments = [[], [], reference b] := by
    simp [Chain.parse, Text.splitOn, Text.splitOn_of_not_mem (reference_plain b).2.1]
  simp [Chain.selector?, segments, List.findIdx?_cons, marked, isMarked_nil]

theorem head?_extend_reference {i : Injection} (front : i.stage.head? = some ')') :
    (i.extend (reference i.block)).head? = some ')' := by
  have found := selector?_reference i.block
  rw [extend_eq, Chain.render, Text.head?_join (by decide)]
  have absent : i.stage ∉ (Chain.parse (reference i.block)).segments := by
    rw [segments_reference, List.mem_singleton]
    intro same
    rw [same] at front
    cases front
  have first := Nat.le_zero.1 (i.index_le (c := Chain.parse (reference i.block)) (Nat.zero_le _))
  have put : i.extendChain (Chain.parse (reference i.block)) =
      i.finish ⟨[i.stage, reference i.block]⟩ := by
    rw [extendChain_of_found found absent, first, segments_reference]
    rfl
  rw [put]
  have some_ : (i.finish ⟨[i.stage, reference i.block]⟩).segments ≠ [] := by
    intro empty
    have longer := i.length_le_finish ⟨[i.stage, reference i.block]⟩
    simp [empty] at longer
  obtain ⟨s, rest, all⟩ := List.exists_cons_of_ne_nil some_
  have begins := congrArg List.head? all
  refine ⟨s, begins, ?_⟩
  rcases head?_finish begins with same | ⟨theme, t, same, rfl⟩
  · cases same
    exact front
  · cases same
    exact (Chain.head?_themedSegment (by decide)).2 front

theorem extend_bare_reference {i : Injection} (closed : i.Closed) (spares : i.ThemeSpares)
    (front : i.stage.head? = some ')') :
    i.extend ('!' :: '!' :: reference i.block) ≠ '!' :: '!' :: reference i.block := by
  intro same
  have member := stage_mem_extend closed.stage.separator spares (selector?_bare i.block)
  have segments : Text.splitOn '!' ('!' :: '!' :: reference i.block) =
      [[], [], reference i.block] := by
    simp [Text.splitOn, Text.splitOn_of_not_mem (reference_plain i.block).2.1]
  rw [same, segments] at member
  simp only [List.mem_cons, List.not_mem_nil, or_false, or_self_left] at member
  rcases member with empty | whole
  · simp [empty] at front
  · rw [whole] at front
    cases front

def reopened (b : Block) : Text :=
  Request.reopening (reference b) ('!' :: '!' :: reference b)

theorem reopened_plain (b : Block) : '\\' ∉ reopened b ∧ Unmarked (reopened b) := by
  have apart : '\\' ∉ reopened b ∧ '_' ∉ reopened b := by cases b <;> decide
  exact ⟨apart.1, unmarked_of_not_mem apart.2⟩

theorem reopening_ends (b : Block) (chain : Text) :
    ∃ front, Request.reopening chain ('!' :: '!' :: reference b) =
      front ++ '?' :: (b.marker ++ ['"']) := by
  unfold Request.reopening reference
  generalize "require(".toList = call
  generalize "import a from ".toList = opening
  exact ⟨call ++ '"' :: (opening ++ '"' :: (chain ++ ['"', '!', '!', 'a'])), by simp⟩

theorem mayApply_reopening (i : Injection) (chain : Text) :
    i.mayApply (Request.reopening chain ('!' :: '!' :: reference i.block)) = true := by
  obtain ⟨front, same⟩ := reopening_ends i.block chain
  rw [mayApply, Text.contains_iff, same]
  exact ⟨front ++ ['?'], ['"'], by simp⟩

theorem mayApply_showQuotes_reopening (i : Injection) (chain : Text) :
    i.mayApply (showQuotes (Request.reopening chain ('!' :: '!' :: reference i.block))) = true := by
  obtain ⟨front, same⟩ := reopening_ends i.block chain
  have marker : showQuotes (i.block.marker ++ ['"']) = i.block.marker ++ ['"'] := by
    refine showQuotes_of_absent fun found => ?_
    have plain : '_' ∉ i.block.marker ++ ['"'] := by cases i.block <;> decide
    exact plain (found.subset (by rw [quotePlaceholder_eq]; simp))
  have apart : '?' ∉ quotePlaceholder := by
    rw [quotePlaceholder_eq]
    decide
  rw [mayApply, Text.contains_iff, same, showQuotes_append_cons apart, marker]
  exact ⟨showQuotes front ++ ['?'], ['"'], by simp⟩

theorem inject_inject_reopened {i : Injection} (closed : i.Closed) (spares : i.ThemeSpares)
    (front : i.stage.head? = some ')') :
    i.inject (i.inject (reopened i.block)) ≠ i.inject (reopened i.block) := by
  obtain ⟨quote, separator, -⟩ := reference_plain i.block
  have bare : '"' ∉ '!' :: '!' :: reference i.block := by simpa using quote
  have once : i.extendRequests (reopened i.block) =
      Request.reopening (i.extend (reference i.block)) ('!' :: '!' :: reference i.block) :=
    Request.rewrite_reopening i.extend quote (by simp [reference]) (by simp [reference]) bare
  have plain := hideQuotes_of_not_mem (reopened_plain i.block).1
  have unescaped := unescaped_hideQuotes (reopened i.block)
  rw [plain] at unescaped
  have unescaped := unescaped_extendRequests closed unescaped
  rw [once] at unescaped
  have first : i.inject (reopened i.block) = showQuotes
      (Request.reopening (i.extend (reference i.block)) ('!' :: '!' :: reference i.block)) := by
    have may : i.mayApply (reopened i.block) = true := mayApply_reopening i _
    rw [inject_of_mayApply may, plain, once]
  rw [first, inject_of_mayApply (mayApply_showQuotes_reopening i _),
    hideQuotes_showQuotes unescaped]
  intro same
  have same := congrArg hideQuotes same
  rw [hideQuotes_showQuotes (unescaped_extendRequests closed unescaped),
    hideQuotes_showQuotes unescaped] at same
  refine extend_bare_reference closed spares front ?_
  exact Request.rewrite_reopening_of_front (not_mem_extend closed) (not_mem_extend closed quote)
    (head?_extend_reference front) quote same

-- Injection is idempotent on all sources for exactly the stages that do not begin with a
-- parenthesis.
theorem inject_inject_iff {i : Injection} (closed : i.Closed) (spares : i.ThemeSpares) :
    (∀ source, Unmarked source → i.inject (i.inject source) = i.inject source) ↔
      i.stage.head? ≠ some ')' := by
  constructor
  · intro idempotent front
    exact inject_inject_reopened closed spares front
      (idempotent (reopened i.block) (reopened_plain i.block).2)
  · intro front source _
    exact inject_inject_of_front closed spares front source

theorem inject_inject_iff_theme_on_style :
    let i : Injection := {
      block := .style
      stage := "vux-loader".toList
      theme := some (.ofList [("brand".toList, "red".toList)]) }
    (i.Closed ∧ i.ThemeSpares) ∧
      ((∀ source, Unmarked source → i.inject (i.inject source) = i.inject source) ↔
        i.stage.head? ≠ some ')') := by
  intro i
  have closed : i.Closed :=
    ⟨⟨by decide, by decide, by decide⟩, fun post given => absurd given (by simp [i])⟩
  have spares : i.ThemeSpares := by
    rintro - theme - -
    decide
  exact ⟨⟨closed, spares⟩, inject_inject_iff closed spares⟩

theorem parenthesis_reinjected :
    let i : Injection := { block := .script, stage := ")x".toList }
    let source := "require(\"import a from \"a?type=script\"!!a?type=script\"".toList
    i.Closed ∧ i.ThemeSpares ∧ Unmarked i.stage ∧ Unmarked i.preprocessor ∧ Unmarked source ∧
      i.inject (i.inject source) ≠ i.inject source := by
  intro i source
  have closed : i.Closed :=
    ⟨⟨by decide, by decide, by decide⟩, fun post given => absurd given (by simp [i])⟩
  have spares : i.ThemeSpares := by
    intro block
    cases block
  have same : source = reopened i.block := by
    decide
  refine ⟨closed, spares, unmarked_of_not_mem (by decide), unmarked_of_not_mem (by decide), ?_, ?_⟩
  · rw [same]
    exact (reopened_plain .script).2
  · rw [same]
    exact inject_inject_reopened closed spares rfl

end Injection
end ComponentLoader
