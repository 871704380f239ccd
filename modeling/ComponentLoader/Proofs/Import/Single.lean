import ComponentLoader.Proofs.Import.Statement
import ComponentLoader.Proofs.Text.Occurrences

namespace ComponentLoader
namespace ImportStatement

def isBrace (c : Char) : Bool := c == '\x7b' || c == '\x7d'

def commentOpeners : List Text := ["//".toList, "/*".toList]

namespace Parts

def front (p : Parts) : Text := p.head ++ '\x7d' :: p.between

structure Spares (p : Parts) : Prop where
  imports : ¬"import".toList <:+: p.between
  specifiers : Scanner.everywhere (fromClause none) p.before = []
  comments : ∀ opener ∈ commentOpeners, ¬opener <:+: p.front

structure Single (p : Parts) (module : Text) : Prop where
  keyword : Text.occurrences "import".toList ("import".toList ++ p.before) = 1
  group : p.front.filter isBrace = ['\x7b', '\x7d']
  clauses : Scanner.everywhere (fromClause none) (p.between ++ p.tail module) = [module]
  spares : p.Spares

end Parts

structure PlainLine (line : Text) : Prop where
  keyword : Text.occurrences "import".toList line ≤ 1
  clauses : Text.occurrences "from".toList line ≤ 1
  comments : ∀ opener ∈ commentOpeners, ¬opener <:+: line

theorem plainLine_iff {line : Text} : PlainLine line ↔ Text.occurrences "import".toList line ≤ 1 ∧
    Text.occurrences "from".toList line ≤ 1 ∧ ∀ opener ∈ commentOpeners, ¬opener <:+: line :=
  ⟨fun simple => ⟨simple.keyword, simple.clauses, simple.comments⟩,
    fun ⟨keyword, clauses, comments⟩ => ⟨keyword, clauses, comments⟩⟩

instance (line : Text) : Decidable (PlainLine line) := decidable_of_iff _ plainLine_iff.symm

theorem isInside_of_isOutside {c : Char} (outside : isOutside c = true) : isInside c = true := by
  simp only [isOutside, Bool.and_eq_true] at outside
  simp only [isInside, outside.1.1, outside.2, Bool.and_self]

theorem braceless {t : Text} (inside : ∀ c ∈ t, isInside c = true) : t.filter isBrace = [] := by
  refine List.filter_eq_nil_iff.2 fun c member brace => ?_
  have other := inside c member
  simp only [isBrace, Bool.or_eq_true, beq_iff_eq] at brace
  rcases brace with rfl | rfl <;> revert other <;> decide

theorem occurrences_keyword (s : Text) :
    Text.occurrences "import".toList ("import".toList ++ s) =
      Text.occurrences "import".toList s + 1 := by
  have word : "import".toList = 'i' :: "mport".toList := by decide
  rw [word]
  exact Text.occurrences_self_append (by decide) s

theorem fromClause_longer {module? : Option Text} (s t : Text)
    (begins : Scanner.Begins (fromClause module?) s) :
    Scanner.Begins (fromClause module?) (s ++ t) := by
  obtain ⟨⟨found, rest⟩, read⟩ := Option.isSome_iff_exists.1 begins
  obtain ⟨answers, gap, q, q', blank, opening, closing, rfl⟩ := eq_of_fromClause read
  have longer := fromClause_append answers blank opening closing (rest ++ t)
  rw [Scanner.Begins]
  simp only [List.append_assoc, List.cons_append]
  rw [longer]
  rfl

theorem head?_of_fromClause {module? : Option Text} (s : Text)
    (begins : Scanner.Begins (fromClause module?) s) : s.head? = some 'f' := by
  obtain ⟨⟨found, rest⟩, read⟩ := Option.isSome_iff_exists.1 begins
  obtain ⟨-, gap, q, q', -, -, -, rfl⟩ := eq_of_fromClause read
  rfl

theorem literal_of_fromClause {module? : Option Text} (s : Text)
    (begins : Scanner.Begins (fromClause module?) s) :
    (Text.literal "from".toList).Begins s := by
  obtain ⟨⟨found, rest⟩, read⟩ := Option.isSome_iff_exists.1 begins
  obtain ⟨-, gap, q, q', -, -, -, rfl⟩ := eq_of_fromClause read
  exact Text.begins_literal.2 (List.prefix_append _ _)

theorem not_begins_of_countP {module? : Option Text} {s : Text} (few : s.countP isQuote ≤ 1) :
    ¬Scanner.Begins (fromClause module?) s := by
  intro begins
  obtain ⟨⟨found, rest⟩, read⟩ := Option.isSome_iff_exists.1 begins
  obtain ⟨-, gap, q, q', -, opening, closing, rfl⟩ := eq_of_fromClause read
  simp only [List.countP_append, List.countP_cons, opening, closing, if_true] at few
  omega

theorem everywhere_tail {p : Parts} (valid : p.Valid) {module : Text}
    (plain : ∀ c ∈ module, isSpecifierChar c = true) :
    Scanner.everywhere (fromClause none) (p.tail module) = [module] := by
  have spelled : p.tail module =
      'f' :: ("rom".toList ++ p.gap ++ [p.opening] ++ (module ++ [p.closing])) := by
    have word : "from".toList = 'f' :: "rom".toList := by decide
    unfold Parts.tail
    rw [word]
    generalize "rom".toList = rom
    simp
  have here : fromClause none (p.tail module) = some (module, []) := by
    have answers : Answers none module := plain
    have read := fromClause_tail valid answers []
    rwa [List.append_nil] at read
  have middle : 'f' ∉ "rom".toList ++ p.gap ++ [p.opening] := by
    have word : 'f' ∉ "rom".toList := by decide
    have blank : 'f' ∉ p.gap := fun member => absurd (valid.gap _ member) (by decide)
    have opening : p.opening ≠ 'f' := by
      rcases isQuote_cases valid.opening with same | same <;> rw [same] <;> decide
    simp only [List.mem_append, List.mem_singleton, not_or]
    exact ⟨⟨word, blank⟩, opening.symm⟩
  have last : Scanner.everywhere (fromClause none) (module ++ [p.closing]) = [] := by
    refine Scanner.everywhere_eq_nil_iff.2 (Text.inert_of_suffix fun s part _ => ?_)
    refine not_begins_of_countP ?_
    have few : (module ++ [p.closing]).countP isQuote = 1 := by
      have none_ : module.countP isQuote = 0 := by
        refine List.countP_eq_zero.2 fun c member quote => ?_
        rw [quoteFree_of_specifier plain c member] at quote
        cases quote
      simp [none_, valid.closing]
    rw [List.append_nil, ← few]
    exact part.sublist.countP_le
  have behind := Scanner.everywhere_append_eq_iff.2
    (Text.inert_of_not_mem (r := module ++ [p.closing]) (@head?_of_fromClause none) middle)
  rw [spelled] at here ⊢
  rw [Scanner.everywhere, here, behind, last]
  rfl

namespace Parts

variable {p : Parts} {module : Text}

theorem group_front (valid : p.Valid) : p.front.filter isBrace = ['\x7b', '\x7d'] := by
  have word : "import".toList.filter isBrace = [] := by decide
  have before := braceless fun c member => isInside_of_isOutside (valid.before c member)
  have between := braceless fun c member => isInside_of_isOutside (valid.between c member)
  unfold front head
  simp only [List.filter_append, List.filter_cons, word, before, braceless valid.clause, between]
  rfl

theorem keyword_iff : Text.occurrences "import".toList ("import".toList ++ p.before) = 1 ↔
    ¬"import".toList <:+: p.before := by
  rw [← Text.occurrences_eq_zero_iff (by decide), occurrences_keyword]
  omega

-- A match is a single statement if its gaps hold nothing that can begin or end one.
theorem single_iff (valid : p.Valid) (plain : ∀ c ∈ module, isSpecifierChar c = true) :
    p.Single module ↔ p.Spares ∧ ¬"import".toList <:+: p.before ∧
      Text.Inert (Scanner.Begins (fromClause none)) (p.tail module) p.between := by
  have clauses : Scanner.everywhere (fromClause none) (p.between ++ p.tail module) = [module] ↔
      Text.Inert (Scanner.Begins (fromClause none)) (p.tail module) p.between := by
    rw [← Scanner.everywhere_append_eq_iff, everywhere_tail valid plain]
  constructor
  · intro single
    exact ⟨single.spares, keyword_iff.1 single.keyword, clauses.1 single.clauses⟩
  · rintro ⟨spares, before, between⟩
    exact ⟨keyword_iff.2 before, group_front valid, clauses.2 between, spares⟩

theorem text_eq (p : Parts) (module : Text) : p.text module = "import".toList ++
    (p.before ++ '\x7b' :: (p.clause ++ '\x7d' :: (p.between ++ p.tail module))) := by
  unfold text head
  generalize "import".toList = import_
  simp

theorem before_group (valid : p.Valid) (module : Text) :
    (p.text module).takeWhile (· ≠ '\x7b') = "import".toList ++ p.before := by
  have word : '\x7b' ∉ "import".toList := by decide
  have apart : ∀ c ∈ "import".toList ++ p.before, decide (c ≠ '\x7b') = true := by
    intro c member
    rcases List.mem_append.1 member with keyword | gap
    · exact decide_eq_true fun same => word (same ▸ keyword)
    · exact decide_eq_true fun same => absurd (same ▸ valid.before c gap) (by decide)
  rw [text_eq, ← List.append_assoc]
  exact Text.takeWhile_append_cons apart (by decide)

theorem behind_group (valid : p.Valid) (module : Text) :
    (p.text module).dropWhile (· ≠ '\x7d') = '\x7d' :: (p.between ++ p.tail module) := by
  have word : '\x7d' ∉ "import".toList := by decide
  have apart : ∀ c ∈ p.head, decide (c ≠ '\x7d') = true := by
    intro c member
    unfold head at member
    simp only [List.mem_append, List.mem_cons] at member
    rcases member with (keyword | gap) | rfl | names
    · exact decide_eq_true fun same => word (same ▸ keyword)
    · exact decide_eq_true fun same => absurd (same ▸ valid.before c gap) (by decide)
    · decide
    · exact decide_eq_true fun same => absurd (same ▸ valid.clause c names) (by decide)
  have spelled : p.text module = p.head ++ '\x7d' :: (p.between ++ p.tail module) := by
    simp [text]
  rw [spelled]
  exact Text.dropWhile_append_cons apart (by decide)

theorem before_infix_front : p.before <:+: p.front := by
  refine ⟨"import".toList, '\x7b' :: p.clause ++ '\x7d' :: p.between, ?_⟩
  unfold front head
  generalize "import".toList = import_
  simp

theorem keyword_of_line {line : Text} (simple : PlainLine line)
    (inside : p.text module <:+: line) :
    ¬"import".toList <:+: p.before ∧ ¬"import".toList <:+: p.between := by
  have few := (Text.occurrences_le_of_infix inside).trans simple.keyword
  have absent : ¬"import".toList <:+:
      p.before ++ '\x7b' :: (p.clause ++ '\x7d' :: (p.between ++ p.tail module)) := by
    rw [text_eq, occurrences_keyword] at few
    rw [← Text.occurrences_eq_zero_iff (by decide)]
    omega
  constructor
  · exact fun found => absent (found.trans (List.prefix_append _ _).isInfix)
  · refine fun found => absent (found.trans ⟨p.before ++ '\x7b' :: p.clause ++ ['\x7d'], ?_⟩)
    exact ⟨p.tail module, by simp⟩

theorem clauses_of_line (valid : p.Valid) (plain : ∀ c ∈ module, isSpecifierChar c = true)
    {line : Text} (simple : PlainLine line) (inside : p.text module <:+: line) :
    Scanner.everywhere (fromClause none) p.before = [] ∧
      Text.Inert (Scanner.Begins (fromClause none)) (p.tail module) p.between := by
  have few := (Text.occurrences_le_of_infix inside).trans simple.clauses
  have counted : ∀ t, (Scanner.everywhere (fromClause none) t).length ≤
      Text.occurrences "from".toList t :=
    Scanner.length_everywhere_le literal_of_fromClause
  constructor
  · -- The clause of the statement is the one of the line.
    have own : 1 ≤ Text.occurrences "from".toList (p.tail module) := by
      have last := counted (p.tail module)
      rwa [everywhere_tail valid plain] at last
    have both := Text.occurrences_append_le "from".toList p.front (p.tail module)
    have before := Text.occurrences_le_of_infix (p := "from".toList) p.before_infix_front
    have none_ := counted p.before
    change Text.occurrences _ (p.front ++ p.tail module) ≤ 1 at few
    exact List.length_eq_zero_iff.1 (by omega)
  · have part : p.between ++ p.tail module <:+: p.text module := by
      rw [text_eq]
      exact ⟨"import".toList ++ p.before ++ '\x7b' :: p.clause ++ ['\x7d'], [], by simp⟩
    have bound := (counted _).trans ((Text.occurrences_le_of_infix part).trans few)
    have rest : Scanner.everywhere (fromClause none) (p.tail module) <:+
        Scanner.everywhere (fromClause none) (p.between ++ p.tail module) :=
      Scanner.everywhere_suffix _ _
    refine Scanner.everywhere_append_eq_iff.1 (rest.eq_of_length_le ?_).symm
    rwa [everywhere_tail valid plain]

theorem single_of_line (valid : p.Valid) (plain : ∀ c ∈ module, isSpecifierChar c = true)
    {line : Text} (simple : PlainLine line) (inside : p.text module <:+: line) :
    p.Single module := by
  obtain ⟨before, between⟩ := keyword_of_line simple inside
  obtain ⟨specifiers, first⟩ := clauses_of_line valid plain simple inside
  have comments : ∀ opener ∈ commentOpeners, ¬opener <:+: p.front := by
    intro opener member found
    have whole : p.front <:+: p.text module := (List.prefix_append _ (p.tail module)).isInfix
    exact simple.comments opener member (found.trans (whole.trans inside))
  exact (single_iff valid plain).2 ⟨⟨between, specifiers, comments⟩, before, first⟩

end Parts

-- What a match is, and when it is one statement. It is on every line that has no second keyword, no
-- second clause and no comment.
theorem single_of_match {module? : Option Text}
    (plain : ∀ module ∈ module?, ∀ c ∈ module, isSpecifierChar c = true) {source raw : Text}
    {statement : ImportStatement}
    (found : .item raw statement ∈ (scanner module?).pieces source) :
    ∃ p : Parts, p.Valid ∧ raw = p.text statement.module ∧
      statement.names = ImportedName.parseAll p.clause ∧
      (∀ module ∈ module?, statement.module = module) ∧
      (p.Single statement.module ↔ p.Spares ∧ ¬"import".toList <:+: p.before ∧
        (module? ≠ none →
          Text.Inert (Scanner.Begins (fromClause none)) (p.tail statement.module) p.between)) ∧
      ∃ line ∈ Text.splitOn '\n' source, raw <:+: line ∧
        (PlainLine line → p.Single statement.module) := by
  obtain ⟨ps, qs, read⟩ := List.append_of_mem found
  obtain ⟨-, scanned, whole⟩ := Scanner.split_of_pieces (scanner_exact module?) read
  obtain ⟨p, valid, same, names, answers, first⟩ := eq_of_scanner scanned
  have text : raw = p.text statement.module := List.append_cancel_right same
  have solid := answers.plain plain
  refine ⟨p, valid, text, names, ?_, ?_, ?_⟩
  · rintro module rfl
    exact answers
  · rw [Parts.single_iff valid solid]
    refine and_congr_right fun _ => and_congr_right fun _ => ?_
    refine ⟨fun inert _ => inert, fun inert => ?_⟩
    cases module? with
    | some module => exact inert (Option.some_ne_none module)
    | none => exact first.of_append fromClause_longer
  · have single : '\n' ∉ p.text statement.module := by
      refine valid.newline_not_mem_text fun member => ?_
      exact absurd (solid _ member) (by decide)
    have some_ : p.text statement.module ≠ [] := by
      obtain ⟨rest, spelled⟩ := @Parts.keyword_prefix_text p statement.module
      rw [← spelled]
      exact List.cons_ne_nil _ _
    have inside : p.text statement.module <:+: source := by
      rw [whole, ← text]
      exact ⟨_, _, List.append_assoc ..⟩
    obtain ⟨line, member, here⟩ := Text.exists_line some_ single inside
    exact ⟨line, member, text ▸ here, fun simple =>
      Parts.single_of_line valid solid simple here⟩

theorem single_of_match_two_lines :
    let source :=
      "import \x7b A \x7d from 'vux'\nimport B, \x7b C as D \x7d from \"vux\";".toList
    let raw := "import B, \x7b C as D \x7d from \"vux\"".toList
    let statement : ImportStatement := ⟨"vux".toList, [⟨['C'], ['D']⟩]⟩
    (∀ module ∈ some "vux".toList, ∀ c ∈ module, isSpecifierChar c = true) ∧
      .item raw statement ∈ (scanner (some "vux".toList)).pieces source ∧
      (∀ line ∈ Text.splitOn '\n' source, PlainLine line) ∧
      ∃ p : Parts, raw = p.text statement.module ∧ p.Single statement.module := by
  intro source raw statement
  have plain : ∀ module ∈ some "vux".toList, ∀ c ∈ module, isSpecifierChar c = true := by
    intro module given
    rw [← Option.some.inj given]
    exact Text.forall_of_all (by decide)
  have found : .item raw statement ∈ (scanner (some "vux".toList)).pieces source := by
    decide +kernel
  have lines : ∀ line ∈ Text.splitOn '\n' source, PlainLine line := by decide
  obtain ⟨p, -, text, -, -, -, line, member, -, single⟩ := single_of_match plain found
  exact ⟨plain, found, lines, p, text, single (lines line member)⟩

-- A clause in a comment behind another import makes one match of both, and so does a keyword in a
-- comment before an import.
theorem comment_taken_along :
    let vux := "vux".toList
    let other := "import \x7b a \x7d from 'other' // from 'vux'".toList
    let keywords := "import */ import \x7b A \x7d from 'vux'".toList
    (scanner (some vux)).pieces other = [.item other ⟨vux, [⟨['a'], ['a']⟩]⟩] ∧
      (scanner (some vux)).pieces ("/* ".toList ++ keywords) =
        [.char '/', .char '*', .char ' ', .item keywords ⟨vux, [⟨['A'], ['A']⟩]⟩] ∧
      ∀ p : Parts, p.Valid → p.text vux = other ∨ p.text vux = keywords → ¬p.Single vux := by
  intro vux other keywords
  refine ⟨by decide +kernel, by decide +kernel, fun p valid same single => ?_⟩
  rcases same with same | same
  · have clauses := single.clauses
    have behind := Parts.behind_group valid vux
    rw [same] at behind
    have parts : p.between ++ p.tail vux = (other.dropWhile (· ≠ '\x7d')).tail := by
      rw [behind]
      rfl
    rw [parts] at clauses
    exact absurd clauses (by decide)
  · have keyword := single.keyword
    rw [← Parts.before_group valid vux, same] at keyword
    exact absurd keyword (by decide)

end ImportStatement
end ComponentLoader
