import ComponentLoader.Proofs.Chain.Idempotence
import ComponentLoader.Proofs.Chain.Reading
import ComponentLoader.Proofs.Chain.Selector
import ComponentLoader.Proofs.Chain.ThemeMarker

namespace ComponentLoader
namespace Request

theorem items_cons {c : Char} {s : Text} (nothing : scanner (c :: s) = none) :
    scanner.items (c :: s) = scanner.items s := by
  rw [Scanner.items, Scanner.pieces_of_none nothing]
  rfl

theorem items_append {r : Found} (request : r.IsRequest) (s : Text) :
    scanner.items (r.text ++ s) = r :: scanner.items s := by
  rw [Scanner.items, Scanner.pieces_of_some request.text_ne_nil (scanner_eq_some.2 ⟨request, rfl⟩)]
  rfl

theorem mem_items {s : Text} {r : Found} (member : r ∈ scanner.items s) :
    r.chain <:+: s ∧ '"' ∉ r.chain := by
  induction s using reading_induction with
  | nil =>
    rw [Scanner.items, Scanner.pieces_nil] at member
    cases member
  | char nothing ih =>
    rw [items_cons nothing] at member
    obtain ⟨part, closed⟩ := ih member
    exact ⟨List.infix_cons part, closed⟩
  | request request ih =>
    rw [items_append request] at member
    rcases List.mem_cons.1 member with rfl | later
    · exact ⟨List.infix_append_of_infix_left (List.infix_append ..), request.quotes.1⟩
    · obtain ⟨part, closed⟩ := ih later
      exact ⟨List.infix_append_of_infix_right part, closed⟩

theorem rewrite_congr {g h : Text → Text} {s : Text}
    (same : ∀ r ∈ scanner.items s, g r.chain = h r.chain) :
    Request.rewrite g s = Request.rewrite h s := by
  induction s using reading_induction with
  | nil => rw [rewrite_nil, rewrite_nil]
  | char nothing ih =>
    rw [items_cons nothing] at same
    rw [rewrite_cons nothing, rewrite_cons nothing, ih same]
  | request request ih =>
    rw [items_append request] at same
    obtain ⟨here, later⟩ := List.forall_mem_cons.1 same
    rw [rewrite_append request, rewrite_append request, ih later, Found.rewrite, here]
    rfl

theorem rewrite_id (s : Text) : Request.rewrite id s = s := by
  induction s using reading_induction with
  | nil => exact rewrite_nil id
  | char nothing ih => rw [rewrite_cons nothing, ih]
  | request request ih =>
    rw [rewrite_append request, ih]
    rfl

theorem rewrite_eq_self {g : Text → Text} {s : Text}
    (fixed : ∀ r ∈ scanner.items s, g r.chain = r.chain) : Request.rewrite g s = s :=
  (rewrite_congr (h := id) fixed).trans (rewrite_id s)

end Request

namespace Injection

structure Markless (i : Injection) : Prop where
  stage : ∀ b : Block, ¬b.marker <:+: i.stage
  post : ∀ post, i.postCompile = some post → ∀ b : Block, ¬b.marker <:+: post
  theme : ∀ theme, i.theme = some theme → ∀ b : Block, ∀ entry ∈ theme.entries,
    ¬b.marker <:+: entry.1 ∧ ¬b.marker <:+: entry.2

theorem marker_of_stageName {b : Block} {s : Segment} (found : b.marker <:+: s.stageName) :
    b.marker <:+: s := found.trans (List.takeWhile_prefix _).isInfix

-- A marker that a chain did not have is one that the theme spells, in a stage of the preprocessor.
theorem spells_of_extend {i : Injection} (markless : i.Markless) {b : Block} {chain : Text}
    (absent : ¬b.marker <:+: chain) (found : b.marker <:+: i.extend chain) :
    ∃ theme, i.theme = some theme ∧ theme.Spells b ∧
      ∃ t, (t ∈ Text.splitOn '!' chain ∨ t = i.stage) ∧ i.preprocessor <:+: Segment.stageName t := by
  have apart : '!' ∉ b.marker := by cases b <;> decide
  have some_ : b.marker ≠ [] := by cases b <;> decide
  have original : ∀ t ∈ Text.splitOn '!' chain, ¬b.marker <:+: t := fun t member inside =>
    absent (inside.trans (Text.infix_of_mem_splitOn member))
  by_contra none_
  rw [extend_eq, Chain.render] at found
  refine Text.not_infix_join apart some_ (fun s member => ?_) found
  rcases mem_extendChain member with here | rfl | post | ⟨theme, given, t, here, stage, rfl⟩
  · exact original s here
  · exact markless.stage b
  · exact markless.post s post b
  · rw [Chain.marker_themedSegment_iff (markless.theme theme given b)]
    rintro (name | spells)
    · rcases here with here | rfl
      · exact original t here (marker_of_stageName name)
      · exact markless.stage b (marker_of_stageName name)
    · exact none_ ⟨theme, given, spells, t, here, stage⟩

theorem showQuotes_append {q t : Text} (apart : ∀ c ∈ q, c ∉ quotePlaceholder) :
    showQuotes (q ++ t) = q ++ showQuotes t := by
  induction q with
  | nil => rfl
  | cons c q ih =>
    obtain ⟨first, later⟩ := List.forall_mem_cons.1 apart
    have here := showQuotes_append_cons (a := []) (b := q ++ t) first
    rw [List.nil_append, ih later] at here
    rw [List.cons_append, here, showQuotes, Text.replaceAll_nil]
    rfl

theorem marker_showQuotes {b : Block} {t : Text} (found : b.marker <:+: t) :
    b.marker <:+: showQuotes t := by
  have apart : ∀ c ∈ b.marker, c ∉ quotePlaceholder := by
    rw [quotePlaceholder_eq]
    exact Text.forall_of_all (by cases b <;> decide)
  obtain ⟨front, behind, rfl⟩ := found
  rw [b.marker_eq] at apart ⊢
  obtain ⟨first, -⟩ := List.forall_mem_cons.1 apart
  rw [List.append_assoc, List.cons_append, showQuotes_append_cons first,
    showQuotes_append fun c member => apart c (List.mem_cons_of_mem _ member)]
  exact ⟨showQuotes front, showQuotes behind, by simp⟩

theorem inject_showQuotes (i : Injection) {t : Text} (unescaped : Unescaped t) :
    i.inject (showQuotes t) = showQuotes (i.extendRequests t) := by
  cases may : i.mayApply (showQuotes t) with
  | true => rw [inject_of_mayApply may, hideQuotes_showQuotes unescaped]
  | false =>
    rw [mayApply, Bool.eq_false_iff, Ne, Text.contains_iff] at may
    have same : i.extendRequests t = t := by
      refine Request.rewrite_eq_self fun r member => extend_of_other fun found => may ?_
      exact marker_showQuotes (found.trans (Request.mem_items member).1)
    rw [inject, mayApply, Bool.eq_false_iff.2 (mt Text.contains_iff.1 may), same]
    rfl

theorem inject_eq {i : Injection} (closed : i.Closed) {t u : Text} (unescaped : Unescaped t)
    (rewritten : Request.rewrite i.extend t = u) :
    i.inject (showQuotes t) = showQuotes u ∧ Unescaped u := by
  have still := unescaped_extendRequests closed unescaped
  rw [inject_showQuotes i unescaped, ← rewritten]
  exact ⟨rfl, still⟩

theorem showQuotes_hideQuotes {source : Text} (unmarked : Unmarked source) :
    showQuotes (hideQuotes source) = source := by
  have whole := Glyph.flatMap_text_read source
  rw [hideQuotes_eq, showQuotes_masked (by rwa [whole]), whole]

theorem showQuotes_eq_self {t : Text} (unmarked : Unmarked t) : showQuotes t = t :=
  showQuotes_of_absent fun found => unmarked (mark_begins.isInfix.trans found)

theorem hideQuotes_eq_self {t : Text} (unmarked : Unmarked t) (unescaped : Unescaped t) :
    hideQuotes t = t := by
  have same := hideQuotes_showQuotes unescaped
  rwa [showQuotes_eq_self unmarked] at same

theorem showQuotes_injective {s t : Text} (left : Unescaped s) (right : Unescaped t)
    (same : showQuotes s = showQuotes t) : s = t := by
  rw [← hideQuotes_showQuotes left, same, hideQuotes_showQuotes right]

def injectAll (is : List Injection) (source : Text) : Text :=
  is.foldl (fun source i => i.inject source) source

def extendAll (is : List Injection) (chain : Text) : Text :=
  is.foldl (fun chain i => i.extend chain) chain

-- Passes whose stages end no call find the same requests one after the other.
theorem injectAll_showQuotes {is : List Injection} (closed : ∀ i ∈ is, i.Closed)
    (fits : ∀ i ∈ is, Request.Fits i.extend) {t : Text} (unescaped : Unescaped t) :
    injectAll is (showQuotes t) = showQuotes (Request.rewrite (extendAll is) t) := by
  induction is generalizing t with
  | nil => exact congrArg showQuotes (Request.rewrite_id t).symm
  | cons i is ih =>
    obtain ⟨here, later⟩ := List.forall_mem_cons.1 closed
    obtain ⟨first, others⟩ := List.forall_mem_cons.1 fits
    have both := Request.rewrite_rewrite (h := extendAll is) first t
    have rest := ih later others (unescaped_extendRequests here unescaped)
    rw [extendRequests] at rest
    rw [injectAll, List.foldl_cons, inject_showQuotes i unescaped]
    exact rest.trans (congrArg showQuotes both)

theorem extendAll_eq_self {is : List Injection} {chain : Text}
    (fixed : ∀ i ∈ is, i.extend chain = chain) : extendAll is chain = chain := by
  induction is with
  | nil => rfl
  | cons i is ih =>
    obtain ⟨here, later⟩ := List.forall_mem_cons.1 fixed
    rw [extendAll, List.foldl_cons, here]
    exact ih later

theorem extendAll_of_mem {is : List Injection} (distinct : (is.map (·.block)).Nodup) {i : Injection}
    (member : i ∈ is) {chain : Text}
    (others : ∀ j ∈ is, j.block ≠ i.block →
      j.extend chain = chain ∧ j.extend (i.extend chain) = i.extend chain) :
    extendAll is chain = i.extend chain := by
  obtain ⟨before, after, rfl⟩ := List.append_of_mem member
  rw [List.map_append, List.map_cons, List.nodup_append, List.nodup_cons] at distinct
  obtain ⟨-, ⟨late, -⟩, early⟩ := distinct
  have first : extendAll before chain = chain := by
    refine extendAll_eq_self fun j here => (others j (by simp [here]) ?_).1
    exact early _ (List.mem_map_of_mem here) _ List.mem_cons_self
  have last : extendAll after (i.extend chain) = i.extend chain := by
    refine extendAll_eq_self fun j here => (others j (by simp [here]) ?_).2
    exact fun same => late (same ▸ List.mem_map_of_mem here)
  rw [extendAll] at first last ⊢
  rw [List.foldl_append, first, List.foldl_cons, last]

end Injection
end ComponentLoader
