import ComponentLoader.Proofs.Chain.Alignment
import ComponentLoader.Proofs.Chain.Glyphs
import ComponentLoader.Proofs.Chain.Marks
import ComponentLoader.Proofs.Chain.Spelling

namespace ComponentLoader
namespace Request
open Glyph

-- A glyph that belongs to no request, or a request.
inductive Part where
  | symbol (g : Glyph)
  | request (before chain after : List Glyph)

namespace Part

def text : Part → Text
  | symbol g => g.text
  | request before chain after =>
    before.flatMap Glyph.text ++ chain.flatMap Glyph.text ++ after.flatMap Glyph.text

def injected (i : Injection) (f : Glyph → Text) : Part → Text
  | symbol g => f g
  | request before chain after =>
    before.flatMap f ++ i.extend (chain.flatMap f) ++ after.flatMap f

end Part

def BeginsRequest (s : List Glyph) : Prop :=
  ∃ before chain after rest, Shape before chain after ∧ s = before ++ chain ++ after ++ rest

-- Glyphs read from left to right: a request is taken where one begins, and else a glyph.
inductive Reading : List Glyph → List Part → Prop where
  | nil : Reading [] []
  | symbol (nothing : ¬BeginsRequest (g :: s)) (rest : Reading s parts) :
      Reading (g :: s) (.symbol g :: parts)
  | request (shape : Shape before chain after) (here : s = before ++ chain ++ after ++ t)
      (rest : Reading t parts) : Reading s (.request before chain after :: parts)

theorem Shape.ends {before chain after : List Glyph} (shape : Shape before chain after) :
    ∃ opening ending, before = opening ++ [.char '"'] ∧ after = .char '"' :: ending ∧
      (ending = [] ∨ ending = [.char ')']) := by
  cases shape with
  | requireCall =>
    have opening : "require(\"".toList = "require(".toList ++ ['"'] := by simp
    have ending : "\")".toList = ['"', ')'] := by simp
    rw [opening, ending]
    exact ⟨written "require(".toList, [.char ')'], List.map_append, rfl, .inr rfl⟩
  | defaultImport => exact ⟨_, [], rfl, rfl, .inl rfl⟩
  | bare => exact ⟨[], [], rfl, rfl, .inl rfl⟩

theorem reading_exists (s : List Glyph) : ∃ parts, Reading s parts := by
  induction size : s.length using Nat.strongRecOn generalizing s with
  | ind n ih =>
    subst size
    by_cases begins : BeginsRequest s
    · obtain ⟨before, chain, after, rest, shape, rfl⟩ := begins
      obtain ⟨opening, ending, rfl, rfl, -⟩ := shape.ends
      obtain ⟨parts, later⟩ := ih rest.length (by simp; omega) rest rfl
      exact ⟨_, .request shape rfl later⟩
    · cases s with
      | nil => exact ⟨[], .nil⟩
      | cons g s =>
        obtain ⟨parts, later⟩ := ih s.length (by simp) s rfl
        exact ⟨_, .symbol begins later⟩

theorem eq_of_masked {a b c d : List Glyph} (same : a ++ b = c ++ d)
    (masks : a.flatMap masked = c.flatMap masked) : a = c ∧ b = d := by
  rcases List.append_eq_append_iff.1 same with ⟨u, rfl, rfl⟩ | ⟨u, rfl, rfl⟩
  · rw [List.flatMap_append, List.self_eq_append_right] at masks
    rw [eq_nil_of_flatMap_masked masks]
    simp
  · rw [List.flatMap_append, List.append_right_eq_self] at masks
    rw [eq_nil_of_flatMap_masked masks]
    simp

theorem Shape.unique {b₁ c₁ a₁ r₁ b₂ c₂ a₂ r₂ : List Glyph} (first : Shape b₁ c₁ a₁)
    (second : Shape b₂ c₂ a₂) (same : b₁ ++ c₁ ++ a₁ ++ r₁ = b₂ ++ c₂ ++ a₂ ++ r₂) :
    b₁ = b₂ ∧ c₁ = c₂ ∧ a₁ = a₂ ∧ r₁ = r₂ := by
  have found : ∀ {b c a : List Glyph} (r : List Glyph), Shape b c a →
      scanner ((b ++ c ++ a ++ r).flatMap masked) =
        some (⟨b.flatMap masked, c.flatMap masked, a.flatMap masked⟩, r.flatMap masked) := by
    intro b c a r shape
    refine scanner_eq_some.2 ⟨shape_masked shape, ?_⟩
    simp only [Found.text, List.flatMap_append]
  have one := found r₁ first
  rw [same, found r₂ second] at one
  simp only [Option.some.injEq, Prod.mk.injEq, Found.mk.injEq] at one
  obtain ⟨⟨before, chain, after⟩, -⟩ := one
  simp only [List.append_assoc] at same
  obtain ⟨opening, same⟩ := eq_of_masked same before.symm
  obtain ⟨inside, same⟩ := eq_of_masked same chain.symm
  obtain ⟨ending, behind⟩ := eq_of_masked same after.symm
  exact ⟨opening, inside, ending, behind⟩

theorem Reading.unique {s : List Glyph} {parts other : List Part} (left : Reading s parts)
    (right : Reading s other) : other = parts := by
  induction left generalizing other with
  | nil =>
    cases right with
    | nil => rfl
    | request shape here rest =>
      obtain ⟨opening, ending, rfl, rfl, -⟩ := shape.ends
      simp at here
  | symbol nothing rest ih =>
    cases right with
    | symbol _ rest₂ => rw [ih rest₂]
    | request shape here rest₂ => exact absurd ⟨_, _, _, _, shape, here⟩ nothing
  | request shape here rest ih =>
    cases right with
    | nil =>
      obtain ⟨opening, ending, rfl, rfl, -⟩ := shape.ends
      simp at here
    | symbol nothing _ => exact absurd ⟨_, _, _, _, shape, here⟩ nothing
    | request shape₂ here₂ rest₂ =>
      obtain ⟨rfl, rfl, rfl, rfl⟩ := shape.unique shape₂ (here.symm.trans here₂)
      rw [ih rest₂]

theorem Reading.text {s : List Glyph} {parts : List Part} (reading : Reading s parts) :
    parts.flatMap Part.text = s.flatMap Glyph.text := by
  induction reading with
  | nil => rfl
  | symbol nothing rest ih => rw [List.flatMap_cons, List.flatMap_cons, ih, Part.text]
  | request shape here rest ih =>
    rw [List.flatMap_cons, ih, Part.text, here]
    simp only [List.flatMap_append]

theorem rewrite_append_of_apart (g : Text → Text) {a : Text}
    (apart : Text.Apart a ['r', 'i', '"']) (s : Text) :
    Request.rewrite g (a ++ s) = a ++ Request.rewrite g s := by
  induction a with
  | nil => rfl
  | cons c a ih =>
    have nothing : scanner (c :: (a ++ s)) = none := by
      rw [Option.eq_none_iff_forall_ne_some]
      rintro ⟨r, rest⟩ found
      obtain ⟨request, same⟩ := scanner_eq_some.1 found
      obtain ⟨d, kind, first⟩ := request.head?
      have heads := congrArg List.head? same
      simp only [List.head?_cons, Found.text, List.head?_append, first, Option.some_or,
        Option.some.injEq] at heads
      exact apart c (by simp) (heads ▸ kind)
    have later := ih fun d member => apart d (List.mem_cons_of_mem _ member)
    rw [List.cons_append, rewrite_cons nothing, later, List.cons_append]

theorem Reading.rewrite (i : Injection) {s : List Glyph} {parts : List Part}
    (reading : Reading s parts) :
    Request.rewrite i.extend (s.flatMap masked) = parts.flatMap (Part.injected i masked) := by
  induction reading with
  | nil => exact rewrite_nil _
  | @symbol g s parts nothing rest ih =>
    rw [List.flatMap_cons, List.flatMap_cons, Part.injected, ← ih]
    cases g with
    | char c =>
      refine rewrite_cons (Option.eq_none_iff_forall_ne_some.2 ?_)
      rintro ⟨r, behind⟩ found
      obtain ⟨request, same⟩ := scanner_eq_some.1 found
      exact nothing (shape_of_masked (s := .char c :: s) request same)
    | escapedQuote =>
      refine rewrite_append_of_apart _ ?_ _
      rw [masked, Injection.quotePlaceholder_eq]
      exact Text.apart_of_any (by decide)
  | @request before chain after s t parts shape here rest ih =>
    have request : Found.IsRequest ⟨before.flatMap masked, chain.flatMap masked,
      after.flatMap masked⟩ := shape_masked shape
    have found := rewrite_append (g := i.extend) request (t.flatMap masked)
    simp only [Found.text, Found.rewrite] at found
    rw [here, List.flatMap_append, List.flatMap_append, List.flatMap_append, found,
      List.flatMap_cons, Part.injected, ih]

-- The result is the same in all spellings.
theorem injected_spelled (i : Injection) (parts : List Part) : ∃ out : List Glyph,
    ∀ f, i.Spelling f → parts.flatMap (Part.injected i f) = out.flatMap f := by
  induction parts with
  | nil => exact ⟨[], fun f spelling => rfl⟩
  | cons part parts ih =>
    obtain ⟨out, later⟩ := ih
    cases part with
    | symbol g =>
      refine ⟨g :: out, fun f spelling => ?_⟩
      rw [List.flatMap_cons, List.flatMap_cons, Part.injected, later f spelling]
    | request before chain after =>
      obtain ⟨extended, same⟩ := i.extend_spelled chain
      refine ⟨before ++ extended ++ after ++ out, fun f spelling => ?_⟩
      rw [List.flatMap_cons, Part.injected, same f spelling, later f spelling]
      simp only [List.flatMap_append]

theorem prefix_append_of_mem {a b c q : Text} (quote : '"' ∈ a) (plain : '"' ∉ q)
    (found : q <+: a ++ b) : q <+: a ++ c := by
  rcases List.prefix_or_prefix_of_prefix found (List.prefix_append a b) with inside | beyond
  · exact inside.trans (List.prefix_append a c)
  · exact absurd (beyond.subset quote) plain

theorem Reading.prefix_injected {i : Injection} {s : List Glyph} {parts : List Part} {q : Text}
    (reading : Reading s parts) (plain : '"' ∉ q)
    (found : q <+: parts.flatMap (Part.injected i Glyph.text)) : q <+: s.flatMap Glyph.text := by
  induction reading generalizing q with
  | nil => exact found
  | @symbol g s parts nothing rest ih =>
    rw [List.flatMap_cons] at found ⊢
    cases g with
    | char c =>
      cases q with
      | nil => exact List.nil_prefix
      | cons d q =>
        obtain ⟨rfl, behind⟩ := List.cons_prefix_cons.1 found
        rw [List.mem_cons, not_or] at plain
        exact List.cons_prefix_cons.2 ⟨rfl, ih plain.2 behind⟩
    | escapedQuote => exact prefix_append_of_mem (by simp [Glyph.text]) plain found
  | @request before chain after s t parts shape here rest ih =>
    obtain ⟨opening, ending, opened, -, -⟩ := shape.ends
    have quote : '"' ∈ before.flatMap Glyph.text := by simp [opened, Glyph.text]
    rw [List.flatMap_cons, Part.injected, List.append_assoc, List.append_assoc] at found
    rw [here, List.flatMap_append, List.flatMap_append, List.flatMap_append, List.append_assoc,
      List.append_assoc]
    exact prefix_append_of_mem quote plain found

theorem Reading.unmarked {i : Injection} (clean : i.Clean) {s : List Glyph} {parts : List Part}
    (reading : Reading s parts) (unmarked : Injection.Unmarked (s.flatMap Glyph.text)) :
    Injection.Unmarked (parts.flatMap (Part.injected i Glyph.text)) := by
  induction reading with
  | nil => exact unmarked
  | @symbol g s parts nothing rest ih =>
    have later : Injection.Unmarked (s.flatMap Glyph.text) :=
      Injection.unmarked_of_part (List.suffix_append ..).isInfix unmarked
    cases g with
    | char c =>
      intro found
      rcases List.infix_cons_iff.1 found with front | behind
      · have whole := (Reading.symbol nothing rest).prefix_injected (by decide) front
        exact unmarked whole.isInfix
      · exact ih later behind
    | escapedQuote =>
      have apart : Text.Apart (Glyph.text escapedQuote) Injection.mark :=
        Text.apart_of_any (by decide)
      intro found
      exact ih later ((Text.infix_append_of_disjoint (by decide) apart).1 found)
  | @request before chain after s t parts shape here rest ih =>
    obtain ⟨opening, ending, rfl, rfl, kind⟩ := shape.ends
    have apart : '"' ∉ Injection.mark := by decide
    have quote : ∀ l : List Glyph, (Glyph.char '"' :: l).flatMap Glyph.text =
        '"' :: l.flatMap Glyph.text := fun l => rfl
    rw [here] at unmarked
    simp only [List.flatMap_append, quote, List.append_assoc, List.cons_append, List.nil_append,
      Injection.unmarked_append_cons apart] at unmarked
    obtain ⟨front, inside, behind⟩ := unmarked
    rw [List.flatMap_cons, Part.injected]
    simp only [List.flatMap_append, quote, List.flatMap_nil, List.append_assoc, List.cons_append,
      List.nil_append, Injection.unmarked_append_cons apart]
    refine ⟨front, Injection.unmarked_extend clean inside, ?_⟩
    rcases kind with rfl | rfl
    · exact ih behind
    · have parenthesis : ')' ∉ Injection.mark := by decide
      have later := (Injection.unmarked_cons parenthesis).1 behind
      exact (Injection.unmarked_cons parenthesis).2 (ih later)

end Request

namespace Injection
open Request

def LowerCased (name : Text) : Prop :=
  ∀ c ∈ name, c.isUpper = false ∧ c ≠ '_' ∧ c ≠ '"' ∧ c ≠ '\\'

theorem spelling_text {i : Injection} (closed : i.Closed) (lower : LowerCased i.preprocessor) :
    i.Spelling Glyph.text where
  char c := rfl
  some := by simp [Glyph.text]
  separators := Text.apart_of_any (by decide)
  marker := Text.apart_of_any (by cases i.block <;> decide)
  compiler := Text.apart_of_any (by decide)
  sourceMap := Text.apart_of_any (by decide)
  preprocessor c member named := by
    obtain ⟨-, -, quote, backslash⟩ := lower c named
    simp [Glyph.text, quote, backslash] at member
  stage found := closed.stage.quote (found.subset (by simp [Glyph.text]))
  postCompile post given found :=
    (closed.postCompile post given).quote (found.subset (by simp [Glyph.text]))

theorem spelling_masked {i : Injection} (clean : i.Clean) (lower : LowerCased i.preprocessor) :
    i.Spelling Glyph.masked where
  char c := rfl
  some := Glyph.masked_ne_nil _
  separators := by
    rw [Glyph.masked, quotePlaceholder_eq]
    exact Text.apart_of_any (by decide)
  marker := by
    rw [Glyph.masked, quotePlaceholder_eq]
    exact Text.apart_of_any (by cases i.block <;> decide)
  compiler := by
    rw [Glyph.masked, quotePlaceholder_eq]
    exact Text.apart_of_any (by decide)
  sourceMap := by
    rw [Glyph.masked, quotePlaceholder_eq]
    exact Text.apart_of_any (by decide)
  preprocessor c member named := by
    have capital : quotePlaceholder.all (fun c => c.isUpper || c == '_') = true := by
      rw [quotePlaceholder_eq]
      decide
    obtain ⟨small, plain, -⟩ := lower c named
    have kind := List.all_eq_true.1 capital c member
    rw [Bool.or_eq_true, beq_iff_eq] at kind
    rcases kind with upper | underscore
    · rw [small] at upper
      cases upper
    · exact plain underscore
  stage found := clean.stage (mark_begins.isInfix.trans found)
  postCompile post given found := clean.postCompile post given (mark_begins.isInfix.trans found)

theorem extend_of_other {i : Injection} {chain : Text} (absent : ¬i.block.marker <:+: chain) :
    i.extend chain = chain := by
  have none_ : (Chain.parse chain).selector? i.block = none := by
    rw [Chain.selector?, List.findIdx?_eq_none_iff]
    intro s member
    rw [Segment.isMarked, Bool.eq_false_iff, Ne, Text.contains_iff]
    exact fun found => absent (found.trans (Text.infix_of_mem_splitOn member))
  simp [extend, none_]

theorem injected_of_not_mayApply {i : Injection} {s : List Glyph} {parts : List Part}
    (reading : Reading s parts) (may : i.mayApply (s.flatMap Glyph.text) = false) :
    parts.flatMap (Part.injected i Glyph.text) = s.flatMap Glyph.text := by
  rw [mayApply, Bool.eq_false_iff, Ne, Text.contains_iff] at may
  induction reading with
  | nil => rfl
  | symbol nothing rest ih =>
    rw [List.flatMap_cons] at may
    rw [List.flatMap_cons, List.flatMap_cons, Part.injected,
      ih fun found => may (List.infix_append_of_infix_right found)]
  | request shape here rest ih =>
    rw [here] at may ⊢
    simp only [List.flatMap_append] at may ⊢
    rw [List.flatMap_cons, Part.injected,
      ih fun found => may (List.infix_append_of_infix_right found), extend_of_other]
    exact fun found =>
      may (List.infix_append_of_infix_left (found.trans (List.infix_append ..)))

-- An injection reads the source's requests, with an escaped quote as one character of a word, and
-- changes their chains and nothing else.
theorem inject_eq_reading {i : Injection} (closed : i.Closed) (clean : i.Clean)
    (lower : LowerCased i.preprocessor) {source : Text} (unmarked : Unmarked source) :
    ∃ parts, Reading (Glyph.read source) parts ∧
      (∀ other, Reading (Glyph.read source) other → other = parts) ∧
      source = parts.flatMap Part.text ∧
      i.inject source = parts.flatMap (Part.injected i Glyph.text) := by
  obtain ⟨parts, reading⟩ := reading_exists (Glyph.read source)
  have whole := Glyph.flatMap_text_read source
  refine ⟨parts, reading, fun other => reading.unique, by rw [reading.text, whole], ?_⟩
  cases may : i.mayApply source with
  | false =>
    rw [inject, may, injected_of_not_mayApply reading (by rwa [whole]), whole]
    rfl
  | true =>
    obtain ⟨out, same⟩ := injected_spelled i parts
    have plain := same _ (spelling_text closed lower)
    have hidden := same _ (spelling_masked clean lower)
    have shown : Unmarked (out.flatMap Glyph.text) := by
      rw [← plain]
      exact reading.unmarked clean (by rwa [whole])
    have rewritten : i.extendRequests (hideQuotes source) = out.flatMap Glyph.masked := by
      rw [hideQuotes_eq, ← hidden]
      exact reading.rewrite i
    rw [inject, if_pos may, rewritten, showQuotes_masked shown, plain]

theorem inject_eq_reading_template :
    let i : Injection := {
      block := .template
      stage := "template-loader".toList
      postCompile := some "before-compiler-loader".toList }
    let source := "a \\\" b; require(\"!!template-compiler!./a.vue?type=template\")".toList
    (i.Closed ∧ i.Clean ∧ LowerCased i.preprocessor ∧ Unmarked source) ∧
      ∃ parts, Reading (Glyph.read source) parts ∧
        (∀ other, Reading (Glyph.read source) other → other = parts) ∧
        source = parts.flatMap Part.text ∧
        i.inject source = parts.flatMap (Part.injected i Glyph.text) := by
  intro i source
  have given : ∀ post, i.postCompile = some post → post = "before-compiler-loader".toList :=
    fun post same => (Option.some.inj same).symm
  have closed : i.Closed := by
    refine ⟨⟨by decide, by decide, by decide⟩, fun post same => ?_⟩
    rw [given post same]
    exact ⟨by decide, by decide, by decide⟩
  have clean : i.Clean := by
    refine ⟨unmarked_of_not_mem (by decide), fun post same => ?_, fun theme same => nomatch same⟩
    rw [given post same]
    exact unmarked_of_not_mem (by decide)
  have lower : LowerCased i.preprocessor := by
    have all : i.preprocessor.all
        (fun c => !c.isUpper && c != '_' && c != '"' && c != '\\') = true := by decide
    intro c member
    simpa [and_assoc] using List.all_eq_true.1 all c member
  have unmarked : Unmarked source := unmarked_of_not_mem (by decide)
  exact ⟨⟨closed, clean, lower, unmarked⟩, inject_eq_reading closed clean lower unmarked⟩

end Injection
end ComponentLoader
