import ComponentLoader.Import.Expansion
import ComponentLoader.Proofs.Import.Compiles
import ComponentLoader.Proofs.Import.Statement

namespace ComponentLoader
namespace Expansion
open ImportStatement (isQuote isSpecifierChar)

def clauseText (gap₁ gap₂ : Text) (q : Char) (module : Text) (q' : Char) : Text :=
  '\x7d' :: gap₁ ++ "from".toList ++ gap₂ ++ q :: module ++ [q']

structure IsClause (gap₁ gap₂ : Text) (q : Char) (module : Text) (q' : Char) : Prop where
  gap₁ : ∀ c ∈ gap₁, isBlank c = true
  gap₂ : ∀ c ∈ gap₂, isBlank c = true
  opening : isQuote q = true
  closing : isQuote q' = true
  named : module ≠ []
  plain : ∀ c ∈ module, isSpecifierChar c = true

theorem isSpecifierChar_of_isQuote {q : Char} (quote : isQuote q = true) :
    isSpecifierChar q = false := by
  rw [isSpecifierChar, quote]
  rfl

theorem ne_newline_of_isSpecifierChar {c : Char} (plain : isSpecifierChar c = true) : c ≠ '\n' := by
  rintro rfl
  revert plain
  decide

theorem eq_of_fromClause {s rest module : Text} (read : fromClause s = some (module, rest)) :
    ∃ gap₁ gap₂ q q', IsClause gap₁ gap₂ q module q' ∧
      s = clauseText gap₁ gap₂ q module q' ++ rest := by
  unfold fromClause at read
  split at read
  · next t =>
    split at read
    · cases read
    · next r word =>
      rw [Text.dropPrefix?_eq_some] at word
      split at read
      · cases read
      · next q r' behind =>
        split at read
        · next close rest' stop =>
          dsimp only at read
          split at read
          · next checked =>
            cases read
            have first := List.takeWhile_append_dropWhile (p := isBlank) (l := t)
            have second := List.takeWhile_append_dropWhile (p := isBlank) (l := r)
            have third := List.takeWhile_append_dropWhile (p := isSpecifierChar) (l := r')
            rw [stop] at third
            rw [Text.trimStart] at word behind
            rw [word] at first
            rw [behind] at second
            refine ⟨t.takeWhile isBlank, r.takeWhile isBlank, q, close,
              ⟨?_, ?_, checked.1, checked.2.1, checked.2.2, ?_⟩, ?_⟩
            · exact fun c member => List.mem_takeWhile_imp member
            · exact fun c member => List.mem_takeWhile_imp member
            · exact fun c member => List.mem_takeWhile_imp member
            · unfold clauseText
              conv => lhs; rw [← first, ← second, ← third]
              generalize "from".toList = from_
              simp
          · cases read
        · cases read
  · cases read

theorem fromClause_exact : fromClause.Exact := by
  intro s module rest read
  obtain ⟨_, _, _, _, -, rfl⟩ := eq_of_fromClause read
  exact List.suffix_append _ _

theorem fromClause_append {gap₁ gap₂ module : Text} {q q' : Char}
    (clause : IsClause gap₁ gap₂ q module q') (rest : Text) :
    fromClause (clauseText gap₁ gap₂ q module q' ++ rest) = some (module, rest) := by
  have spelled : clauseText gap₁ gap₂ q module q' ++ rest =
      '\x7d' :: (gap₁ ++ ("from".toList ++ (gap₂ ++ q :: (module ++ q' :: rest)))) := by
    unfold clauseText
    generalize "from".toList = from_
    simp
  have letter : ("from".toList ++ (gap₂ ++ q :: (module ++ q' :: rest))).dropWhile isBlank =
      "from".toList ++ (gap₂ ++ q :: (module ++ q' :: rest)) := rfl
  rw [spelled, fromClause, Text.trimStart, List.dropWhile_append_of_pos clause.gap₁, letter,
    Text.dropPrefix?_append]
  dsimp only
  rw [Text.trimStart, Text.dropWhile_append_cons clause.gap₂
    (ImportStatement.isBlank_of_isQuote clause.opening)]
  dsimp only
  have stop := isSpecifierChar_of_isQuote clause.closing
  rw [Text.dropWhile_append_cons clause.plain stop, Text.takeWhile_append_cons clause.plain stop]
  dsimp only
  rw [if_pos ⟨clause.opening, clause.closing, clause.named⟩]

def Unquoted (u : Text) : Prop := ∀ a q m, u = a ++ q :: m → isQuote q = true → '\n' ∈ m

theorem unquoted_of_quoteFree {t : Text} (plain : ImportStatement.QuoteFree t) : Unquoted t := by
  rintro a q m rfl quote
  have free := plain q (by simp)
  rw [quote] at free
  cases free

theorem unquoted_newline {u line : Text} (plain : ImportStatement.QuoteFree line) :
    Unquoted (u ++ '\n' :: line) := by
  intro a q m same quote
  have later := ImportStatement.isQuote_ne_newline quote
  rcases List.append_eq_append_iff.1 same with ⟨d, -, inside⟩ | ⟨d, -, inside⟩
  · cases d with
    | nil => exact absurd (List.cons.inj inside).1.symm later
    | cons x d =>
      obtain ⟨-, rfl⟩ := List.cons.inj inside
      exact unquoted_of_quoteFree plain d q m rfl quote
  · have member : '\n' ∈ q :: m := by
      rw [inside]
      simp
    exact (List.mem_cons.1 member).resolve_left later.symm

theorem quoted_of_brace {gap₁ gap₂ module b d : Text} {q q' : Char}
    (clause : IsClause gap₁ gap₂ q module q') (some_ : b ≠ [])
    (whole : clauseText gap₁ gap₂ q module q' = b ++ '\x7d' :: d) :
    ∃ a m, b = a ++ q :: m ∧ '\n' ∉ m := by
  obtain ⟨x, b, rfl⟩ := List.exists_cons_of_ne_nil some_
  have spelled : clauseText gap₁ gap₂ q module q' =
      '\x7d' :: (gap₁ ++ "from".toList ++ gap₂ ++ [q] ++ (module ++ [q'])) := by
    unfold clauseText
    generalize "from".toList = from_
    simp
  have braceless : '\x7d' ∉ gap₁ ++ "from".toList ++ gap₂ ++ [q] := by
    have blank : isBlank '\x7d' ≠ true := by decide
    have quote : q ≠ '\x7d' := by
      rcases ImportStatement.isQuote_cases clause.opening with rfl | rfl <;> decide
    have word : '\x7d' ∉ "from".toList := by decide
    simp only [List.mem_append, List.mem_singleton, not_or]
    exact ⟨⟨⟨fun member => blank (clause.gap₁ _ member), word⟩,
      fun member => blank (clause.gap₂ _ member)⟩, fun same => quote same.symm⟩
  have single : '\n' ∉ module ++ [q'] := by
    have quote : q' ≠ '\n' := by
      rcases ImportStatement.isQuote_cases clause.closing with rfl | rfl <;> decide
    simp only [List.mem_append, List.mem_singleton, not_or]
    exact ⟨fun member => ne_newline_of_isSpecifierChar (clause.plain _ member) rfl,
      fun same => quote same.symm⟩
  rw [spelled, List.cons_append] at whole
  injection whole with _ later
  rcases List.append_eq_append_iff.1 later with ⟨m, rfl, inside⟩ | ⟨m, before, inside⟩
  · refine ⟨x :: (gap₁ ++ "from".toList ++ gap₂), m, ?_, fun member => single ?_⟩
    · generalize "from".toList = from_
      simp
    · rw [inside]
      exact List.mem_append_left _ member
  · cases m with
    | nil =>
      rw [List.append_nil] at before
      refine ⟨x :: (gap₁ ++ "from".toList ++ gap₂), [], ?_, by simp⟩
      rw [← before]
      generalize "from".toList = from_
      simp
    | cons y m =>
      injection inside with brace _
      subst brace
      exact absurd (by rw [before]; simp) braceless

theorem suffix_of_unquoted {u b w module rest : Text} (unquoted : Unquoted u) (part : b <:+ u)
    (some_ : b ≠ []) (read : fromClause (b ++ '\x7d' :: w) = some (module, rest)) :
    '\x7d' :: w <:+ rest := by
  obtain ⟨gap₁, gap₂, q, q', clause, same⟩ := eq_of_fromClause read
  rcases List.append_eq_append_iff.1 same with ⟨d, whole, behind⟩ | ⟨d, -, behind⟩
  · cases d with
    | nil => exact ⟨[], behind⟩
    | cons x d =>
      injection behind with brace _
      subst brace
      obtain ⟨front, rfl⟩ := part
      obtain ⟨a, m, rfl, single⟩ := quoted_of_brace clause some_ whole
      exact absurd (unquoted (front ++ a) q m (by simp) clause.opening) single
  · exact ⟨d, behind.symm⟩

theorem mem_items_of_clause {u gap₁ gap₂ module : Text} {q q' : Char} (unquoted : Unquoted u)
    (clause : IsClause gap₁ gap₂ q module q') (rest : Text) :
    module ∈ fromClause.items (u ++ (clauseText gap₁ gap₂ q module q' ++ rest)) := by
  have here := fromClause_append clause rest
  obtain ⟨ps, read⟩ := Scanner.pieces_append_of_uncovered fromClause_exact
    (u := u) (w := clauseText gap₁ gap₂ q module q' ++ rest)
    fun b v r part some_ read => suffix_of_unquoted unquoted part some_ read
  rw [Scanner.items, read, Scanner.pieces_of_some (by simp [clauseText]) here,
    List.filterMap_append, List.mem_append]
  right
  simp [Piece.value?]

theorem mayOccur_of_clause {u gap₁ gap₂ kit : Text} {q q' : Char} (unquoted : Unquoted u)
    (clause : IsClause gap₁ gap₂ q kit q') (rest : Text) :
    mayOccur kit (u ++ (clauseText gap₁ gap₂ q kit q' ++ rest)) = true := by
  refine List.any_eq_true.2 ⟨kit, mem_items_of_clause unquoted clause rest, ?_⟩
  simp

def expandAll (e : Expansion) (map : ComponentMap) (source : Text) : Except LoadError Text :=
  ImportStatement.replaceM (some e.kit) (fun _ statement => e.replacement map statement) source

-- The statements for the kit in a source, none where its pattern does not compile.
def located (kit source : Text) : List ImportStatement :=
  if ImportStatement.compiles (some kit) then (ImportStatement.scanner (some kit)).items source
  else []

theorem compiles_of_mem_located {kit source : Text} {statement : ImportStatement}
    (member : statement ∈ located kit source) : ImportStatement.compiles (some kit) = true := by
  rw [located] at member
  split at member
  · assumption
  · cases member

-- One of the statements for the kit has nothing but blanks between its brace and `from`, and no
-- quote in front of the brace on its line.
def Recognised (kit source : Text) : Prop :=
  ∃ (p : ImportStatement.Parts) (statement : ImportStatement)
    (ps qs : List (Piece ImportStatement)),
    (ImportStatement.scanner (some kit)).pieces source =
      ps ++ .item (p.text kit) statement :: qs ∧
    p.Valid ∧ (∀ c ∈ p.between, isBlank c = true) ∧ Unquoted (ps.flatMap Piece.raw ++ p.head)

theorem mayOccur_of_recognised {kit source : Text} (some_ : kit ≠ [])
    (plain : ∀ c ∈ kit, isSpecifierChar c = true) (recognised : Recognised kit source) :
    mayOccur kit source = true := by
  obtain ⟨p, statement, ps, qs, read, valid, blank, unquoted⟩ := recognised
  obtain ⟨-, -, whole⟩ := Scanner.split_of_pieces (ImportStatement.scanner_exact (some kit)) read
  have clause : IsClause p.between p.gap p.opening kit p.closing := by
    refine ⟨blank, fun c member => ?_, valid.opening, valid.closing, some_, plain⟩
    exact (Bool.and_eq_true_iff.1 (valid.gap c member)).1
  have spelled : ps.flatMap Piece.raw ++ (p.text kit ++ qs.flatMap Piece.raw) =
      ps.flatMap Piece.raw ++ p.head ++
        (clauseText p.between p.gap p.opening kit p.closing ++ qs.flatMap Piece.raw) := by
    unfold ImportStatement.Parts.text ImportStatement.Parts.tail clauseText
    generalize "from".toList = from_
    simp
  rw [whole, spelled]
  exact mayOccur_of_clause unquoted clause _

theorem eq_nil_of_replacement {e : Expansion} {statement : ImportStatement} {t : Text}
    (ok : e.replacement .empty statement = .ok t) : t = [] := by
  have lines : ∀ names l, e.statementLines .empty names = .ok l → l = [] := by
    intro names
    induction names with
    | nil =>
      intro l same
      cases same
      rfl
    | cons name names ih =>
      intro l same
      rw [statementLines] at same
      split at same
      · exact ih l same
      · cases same
  unfold replacement at ok
  cases read : e.statementLines .empty statement.names with
  | error cause =>
    rw [read] at ok
    cases ok
  | ok l =>
    rw [read, lines _ l read] at ok
    cases ok
    rfl

theorem located_eq_nil_of_kept {e : Expansion} {source : Text}
    (kept : e.expandAll .empty source = .ok source) : located e.kit source = [] := by
  unfold located
  split
  · next compiled =>
    rw [expandAll, ImportStatement.replaceM_eq, if_pos compiled] at kept
    have bound := Scanner.length_of_erased (ImportStatement.scanner_exact (some e.kit))
      (fun _ _ _ ok => eq_nil_of_replacement ok) kept
    rw [← List.length_eq_zero_iff]
    omega
  · rfl

theorem expandAll_of_none {e : Expansion} {source : Text} (none_ : located e.kit source = [])
    (map : ComponentMap) : e.expandAll map source = .ok source := by
  rw [expandAll, ImportStatement.replaceM_eq]
  split
  · next compiled =>
    rw [located, if_pos compiled] at none_
    exact Scanner.replaceM_of_no_items (ImportStatement.scanner_exact (some e.kit)) none_
  · rfl

-- The check for `from` clauses goes unnoticed in exactly the sources that hold no statement for the
-- kit or pass it, and those pass it in which a statement is recognised.
theorem expand_eq_expandAll_iff {e : Expansion} {source : Text} (some_ : e.kit ≠ [])
    (plain : ∀ c ∈ e.kit, isSpecifierChar c = true) :
    ((∀ map, e.expand map source = e.expandAll map source) ↔
      (located e.kit source = [] ∨ mayOccur e.kit source = true)) ∧
    (Recognised e.kit source → mayOccur e.kit source = true) := by
  refine ⟨⟨fun same => ?_, fun either map => ?_⟩, mayOccur_of_recognised some_ plain⟩
  · cases checked : mayOccur e.kit source with
    | true => exact .inr rfl
    | false =>
      have kept := same .empty
      rw [expand, checked] at kept
      exact .inl (located_eq_nil_of_kept kept.symm)
  · rw [expand]
    split
    · rfl
    · next failed =>
      rcases either with none_ | passed
      · exact (expandAll_of_none none_ map).symm
      · exact absurd passed failed

theorem expand_eq_expandAll_iff_two_statements :
    let e : Expansion := {
      kit := "vux".toList, kitPath := "vux".toList, paths := .packaged
      resource := "/p/App.vue".toList, rootEntry := "App.vue".toList
      overrideDir := none, sourceDir := "src".toList }
    let source := "import \x7b A \x7d ? from 'vux'\nimport \x7b\tB as b \x7d from \"vux\"".toList
    e.kit ≠ [] ∧ (∀ c ∈ e.kit, isSpecifierChar c = true) ∧
      ((∀ map, e.expand map source = e.expandAll map source) ↔
        (located e.kit source = [] ∨ mayOccur e.kit source = true)) ∧
      Recognised e.kit source ∧ mayOccur e.kit source = true := by
  intro e source
  have some_ : e.kit ≠ [] := by decide
  have plain : ∀ c ∈ e.kit, isSpecifierChar c = true := Text.forall_of_all (by decide)
  have recognised : Recognised e.kit source := by
    refine ⟨⟨[' '], "\tB as b ".toList, [' '], [' '], '"', '"'⟩, ⟨e.kit, [⟨['B'], ['b']⟩]⟩,
      [.item "import \x7b A \x7d ? from 'vux'".toList ⟨e.kit, [⟨['A'], ['A']⟩]⟩, .char '\n'], [],
      by decide +kernel, ⟨?_, ?_, ?_, ?_, rfl, rfl⟩, ?_, ?_⟩
    case refine_6 =>
      exact @unquoted_newline "import \x7b A \x7d ? from 'vux'".toList
        "import \x7b\tB as b ".toList (Text.forall_of_all (by decide))
    all_goals exact Text.forall_of_all (by decide)
  obtain ⟨same, checked⟩ := expand_eq_expandAll_iff some_ plain
  exact ⟨some_, plain, same, recognised, checked recognised⟩

-- A quote in a comment hides the statement behind it.
theorem statements_hidden :
    let e : Expansion := {
      kit := "vux".toList, kitPath := "vux".toList, paths := .packaged
      resource := "/p/App.vue".toList, rootEntry := "App.vue".toList
      overrideDir := none, sourceDir := "src".toList }
    let map : ComponentMap := .ofList [("A".toList, "components/a.vue".toList)]
    let source := "/* \x7d from 'a */ import \x7b A \x7d from 'vux'".toList
    e.expand map source = .ok source ∧
      e.expandAll map source =
        .ok "/* \x7d from 'a */ import A from 'vux/components/a.vue'".toList := by
  intro e map source
  have compiled : ImportStatement.compiles (some e.kit) = true :=
    ImportStatement.compiles_of_length_le (by decide)
  refine ⟨by decide +kernel, ?_⟩
  rw [expandAll, ImportStatement.replaceM_eq, if_pos compiled]
  decide +kernel

end Expansion
end ComponentLoader
