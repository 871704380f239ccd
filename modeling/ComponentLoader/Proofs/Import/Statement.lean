import ComponentLoader.Import.Statement
import ComponentLoader.Proofs.Text.Replacement

namespace ComponentLoader
namespace ImportStatement

structure Parts where
  before : Text
  clause : Text
  between : Text
  gap : Text
  opening : Char
  closing : Char

namespace Parts

def head (p : Parts) : Text := "import".toList ++ p.before ++ '\x7b' :: p.clause

def tail (p : Parts) (module : Text) : Text :=
  "from".toList ++ p.gap ++ p.opening :: module ++ [p.closing]

def text (p : Parts) (module : Text) : Text := p.head ++ '\x7d' :: p.between ++ p.tail module

structure Valid (p : Parts) : Prop where
  before : ∀ c ∈ p.before, isOutside c = true
  clause : ∀ c ∈ p.clause, isInside c = true
  between : ∀ c ∈ p.between, isOutside c = true
  gap : ∀ c ∈ p.gap, (isBlank c && c != '\n') = true
  opening : isQuote p.opening = true
  closing : isQuote p.closing = true

theorem keyword_prefix_text {p : Parts} {module : Text} : "import".toList <+: p.text module := by
  refine ⟨p.before ++ '\x7b' :: p.clause ++ '\x7d' :: p.between ++ p.tail module, ?_⟩
  unfold Parts.text Parts.head
  generalize "import".toList = import_
  simp

theorem quoted_infix_text {p : Parts} {module : Text} :
    p.opening :: module ++ [p.closing] <:+: p.text module := by
  refine ⟨p.head ++ '\x7d' :: p.between ++ "from".toList ++ p.gap, [], ?_⟩
  unfold Parts.text Parts.tail
  generalize "from".toList = from_
  simp

end Parts

theorem isOutside_ne_newline {c : Char} (outside : isOutside c = true) : c ≠ '\n' := by
  rintro rfl
  revert outside
  decide

theorem isInside_ne_newline {c : Char} (inside : isInside c = true) : c ≠ '\n' := by
  rintro rfl
  revert inside
  decide

theorem isQuote_ne_newline {c : Char} (quote : isQuote c = true) : c ≠ '\n' := by
  rintro rfl
  revert quote
  decide

theorem Parts.Valid.newline_not_mem_text {p : Parts} {module : Text} (valid : p.Valid)
    (single : '\n' ∉ module) : '\n' ∉ p.text module := by
  have gap : '\n' ∉ p.gap := fun member => by simpa using valid.gap _ member
  have words : '\n' ∉ "import".toList ∧ '\n' ∉ "from".toList := by decide
  have before : '\n' ∉ p.before := fun member => isOutside_ne_newline (valid.before _ member) rfl
  have clause : '\n' ∉ p.clause := fun member => isInside_ne_newline (valid.clause _ member) rfl
  have between : '\n' ∉ p.between := fun member => isOutside_ne_newline (valid.between _ member) rfl
  have opening := isQuote_ne_newline valid.opening
  have closing := isQuote_ne_newline valid.closing
  revert words
  unfold Parts.text Parts.head Parts.tail
  generalize "import".toList = import_
  generalize "from".toList = from_
  intro words
  simp [words.1, words.2, gap, before, clause, between, opening.symm, closing.symm, single]

theorem isQuote_cases {q : Char} (quote : isQuote q = true) : q = '\'' ∨ q = '"' := by
  simpa [isQuote] using quote

theorem isBlank_of_isQuote {q : Char} (quote : isQuote q = true) : isBlank q = false := by
  rcases isQuote_cases quote with rfl | rfl <;> decide

def QuoteFree (t : Text) : Prop := ∀ c ∈ t, isQuote c = false

theorem quoteFree_append {a b : Text} : QuoteFree (a ++ b) ↔ QuoteFree a ∧ QuoteFree b :=
  List.forall_mem_append

theorem quoteFree_cons {c : Char} {t : Text} :
    QuoteFree (c :: t) ↔ isQuote c = false ∧ QuoteFree t :=
  List.forall_mem_cons

theorem quoteFree_of_specifier {module : Text} (plain : ∀ c ∈ module, isSpecifierChar c = true) :
    QuoteFree module := by
  intro c member
  have checked := plain c member
  rw [isSpecifierChar, Bool.and_eq_true, Bool.not_eq_true'] at checked
  exact checked.1

def Answers (module? : Option Text) (found : Text) : Prop :=
  match module? with
  | some module => found = module
  | none => ∀ c ∈ found, isSpecifierChar c = true

theorem answers_some (module : Text) : Answers (some module) module := rfl

theorem Answers.plain {module? : Option Text} {found : Text}
    (plain : ∀ module ∈ module?, ∀ c ∈ module, isSpecifierChar c = true)
    (answers : Answers module? found) : ∀ c ∈ found, isSpecifierChar c = true := by
  cases module? with
  | some module =>
    cases answers
    exact plain found rfl
  | none => exact answers

variable {module? : Option Text}

theorem eq_of_specifier {found s rest : Text} (read : specifier module? s = some (found, rest)) :
    Answers module? found ∧ ∃ q, isQuote q = true ∧ s = found ++ q :: rest := by
  unfold specifier at read
  cases module? with
  | some module =>
    dsimp only at read
    split at read
    · next q r named =>
      split at read
      · next quote =>
        cases read
        exact ⟨rfl, q, quote, Text.dropPrefix?_eq_some.1 named⟩
      · cases read
    · cases read
  | none =>
    dsimp only at read
    split at read
    · next q r behind =>
      split at read
      · next quote =>
        cases read
        have whole := List.takeWhile_append_dropWhile (p := isSpecifierChar) (l := s)
        rw [behind] at whole
        exact ⟨fun c member => List.mem_takeWhile_imp member, q, quote, whole.symm⟩
      · cases read
    · cases read

theorem specifier_append {found : Text} (answers : Answers module? found) {q : Char}
    (quote : isQuote q = true) (rest : Text) :
    specifier module? (found ++ q :: rest) = some (found, rest) := by
  cases module? with
  | some module =>
    cases answers
    rw [specifier, Text.dropPrefix?_append]
    dsimp only
    rw [if_pos quote]
  | none =>
    have stop : isSpecifierChar q = false := by rw [isSpecifierChar, quote]; rfl
    rw [specifier, Text.dropWhile_append_cons answers stop, Text.takeWhile_append_cons answers stop]
    dsimp only
    rw [if_pos quote]

theorem eq_of_fromClause {found s rest : Text} (read : fromClause module? s = some (found, rest)) :
    Answers module? found ∧ ∃ gap q q', (∀ c ∈ gap, (isBlank c && c != '\n') = true) ∧
      isQuote q = true ∧ isQuote q' = true ∧
      s = "from".toList ++ (gap ++ q :: (found ++ q' :: rest)) := by
  unfold fromClause at read
  split at read
  · cases read
  · next r opened =>
    rw [Text.dropPrefix?_eq_some] at opened
    split at read
    · next q r' behind =>
      split at read
      · next quote =>
        obtain ⟨answers, q', closing, rfl⟩ := eq_of_specifier read
        refine ⟨answers, r.takeWhile fun c => isBlank c && c != '\n', q, q', ?_, quote, closing, ?_⟩
        · exact fun c member => List.mem_takeWhile_imp (p := fun c => isBlank c && c != '\n') member
        · have whole := List.takeWhile_append_dropWhile
            (p := fun c => isBlank c && c != '\n') (l := r)
          rw [behind] at whole
          rw [opened, whole]
      · cases read
    · cases read

theorem fromClause_append {found gap : Text} {q q' : Char} (answers : Answers module? found)
    (blank : ∀ c ∈ gap, (isBlank c && c != '\n') = true) (opening : isQuote q = true)
    (closing : isQuote q' = true) (rest : Text) :
    fromClause module? ("from".toList ++ (gap ++ q :: (found ++ q' :: rest))) =
      some (found, rest) := by
  have stop : (isBlank q && q != '\n') = false := by
    rw [isBlank_of_isQuote opening]
    rfl
  rw [fromClause, Text.dropPrefix?_append]
  dsimp only
  rw [Text.dropWhile_append_cons blank stop]
  dsimp only
  rw [if_pos opening]
  exact specifier_append answers closing rest

theorem Parts.tail_append (p : Parts) (module rest : Text) : p.tail module ++ rest =
    "from".toList ++ (p.gap ++ p.opening :: (module ++ p.closing :: rest)) := by
  unfold Parts.tail
  generalize "from".toList = from_
  simp

theorem fromClause_tail {p : Parts} (valid : p.Valid) {module : Text}
    (answers : Answers module? module) (rest : Text) :
    fromClause module? (p.tail module ++ rest) = some (module, rest) := by
  rw [Parts.tail_append]
  exact fromClause_append answers valid.gap valid.opening valid.closing rest

theorem eq_of_findFrom {found s rest : Text} (read : findFrom module? s = some (found, rest)) :
    ∃ between s', (∀ c ∈ between, isOutside c = true) ∧ s = between ++ s' ∧
      fromClause module? s' = some (found, rest) ∧
      Text.Inert (Scanner.Begins (fromClause module?)) s' between := by
  induction s with
  | nil => cases read
  | cons c s ih =>
    rw [findFrom] at read
    split at read
    · next here =>
      cases read
      exact ⟨[], c :: s, by simp, rfl, here, trivial⟩
    · next nothing =>
      split at read
      · next outside =>
        obtain ⟨between, s', all, rfl, here, first⟩ := ih read
        refine ⟨c :: between, s', List.forall_mem_cons.2 ⟨outside, all⟩, rfl, here, ?_, first⟩
        change ¬(fromClause module? (c :: (between ++ s'))).isSome = true
        rw [nothing]
        decide
      · cases read

theorem eq_of_scanner {s rest : Text} {statement : ImportStatement}
    (read : scanner module? s = some (statement, rest)) :
    ∃ p : Parts, p.Valid ∧ s = p.text statement.module ++ rest ∧
      statement.names = ImportedName.parseAll p.clause ∧ Answers module? statement.module ∧
      Text.Inert (Scanner.Begins (fromClause module?)) (p.tail statement.module ++ rest) p.between := by
  unfold scanner at read
  split at read
  · cases read
  · next r opened =>
    rw [Text.dropPrefix?_eq_some] at opened
    split at read
    · next r' brace =>
      split at read
      · next after closed =>
        obtain ⟨⟨found, rest'⟩, from_, same⟩ := Option.map_eq_some_iff.1 read
        cases same
        obtain ⟨between, s', outside, rfl, clause, first⟩ := eq_of_findFrom from_
        obtain ⟨answers, gap, q, q', blank, opening, closing, rfl⟩ := eq_of_fromClause clause
        let p : Parts :=
          ⟨r.takeWhile isOutside, r'.takeWhile isInside, between, gap, q, q'⟩
        refine ⟨p, ⟨?_, ?_, outside, blank, opening, closing⟩, ?_, rfl, answers, ?_⟩
        · exact fun c member => List.mem_takeWhile_imp member
        · exact fun c member => List.mem_takeWhile_imp member
        · have front := List.takeWhile_append_dropWhile (p := isOutside) (l := r)
          have group := List.takeWhile_append_dropWhile (p := isInside) (l := r')
          rw [brace] at front
          rw [closed] at group
          rw [opened]
          conv => lhs; rw [← front, ← group]
          unfold Parts.text Parts.head Parts.tail
          -- As literals the words would be taken apart.
          generalize "import".toList = import_
          generalize "from".toList = from_
          simp [p]
        · rw [Parts.tail_append]
          exact first
      · cases read
    · cases read

theorem scanner_exact (module? : Option Text) : (scanner module?).Exact := by
  intro s v rest read
  obtain ⟨p, -, rfl, -⟩ := eq_of_scanner read
  exact List.suffix_append _ _

theorem fromClause_eq_none {c : Char} (s : Text) (other : 'f' ≠ c) :
    fromClause module? (c :: s) = none := by
  have absent : ¬"from".toList <+: c :: s := by
    rintro ⟨t, same⟩
    have first : some 'f' = some c := congrArg List.head? same
    exact other (Option.some.inj first)
  rw [fromClause, Text.dropPrefix?_eq_none.2 absent]

theorem findFrom_append {module : Text} {p : Parts} (valid : p.Valid) (plain : 'f' ∉ p.between)
    (rest : Text) :
    findFrom (some module) (p.between ++ (p.tail module ++ rest)) = some (module, rest) := by
  have here : fromClause (some module) (p.tail module ++ rest) = some (module, rest) :=
    fromClause_tail valid (answers_some module) rest
  have outside := valid.between
  generalize p.between = between at plain outside
  induction between with
  | nil =>
    cases shape : p.tail module ++ rest with
    | nil =>
      rw [shape] at here
      cases here
    | cons c s =>
      rw [shape] at here
      rw [List.nil_append, findFrom, here]
  | cons c between ih =>
    rw [List.mem_cons, not_or] at plain
    rw [List.cons_append, findFrom, fromClause_eq_none _ plain.1]
    dsimp only
    rw [if_pos (outside c (by simp))]
    exact ih plain.2 fun x member => outside x (List.mem_cons_of_mem _ member)

-- A statement is read off the front of a text, if no `from` clause can begin before its own.
theorem scanner_append {module : Text} {p : Parts} (valid : p.Valid) (plain : 'f' ∉ p.between)
    (rest : Text) :
    scanner (some module) (p.text module ++ rest) =
      some (⟨module, ImportedName.parseAll p.clause⟩, rest) := by
  have spelled : p.text module ++ rest = "import".toList ++ (p.before ++ '\x7b' ::
      (p.clause ++ '\x7d' :: (p.between ++ (p.tail module ++ rest)))) := by
    unfold Parts.text Parts.head
    generalize "import".toList = import_
    simp
  rw [spelled, scanner, Text.dropPrefix?_append]
  dsimp only
  rw [Text.dropWhile_append_cons valid.before (by decide)]
  split
  · next r opened =>
    cases opened
    rw [Text.dropWhile_append_cons valid.clause (by decide),
      Text.takeWhile_append_cons valid.clause (by decide)]
    change (findFrom (some module) (p.between ++ (p.tail module ++ rest))).map _ = _
    rw [findFrom_append valid plain]
    rfl
  · next other => exact absurd rfl (other _)

theorem infix_of_begins {s : Text} (begins : (scanner module?).Begins s) :
    "import".toList <+: s ∧ ∀ module ∈ module?, module <:+: s := by
  obtain ⟨⟨statement, rest⟩, read⟩ := Option.isSome_iff_exists.1 begins
  obtain ⟨p, -, rfl, -, named, -⟩ := eq_of_scanner read
  have front := List.prefix_append (p.text statement.module) rest
  refine ⟨Parts.keyword_prefix_text.trans front, ?_⟩
  rintro module rfl
  have same : statement.module = module := named
  have quoted : module <:+: p.opening :: module ++ [p.closing] := ⟨[p.opening], [p.closing], rfl⟩
  rw [same] at front ⊢
  exact (quoted.trans Parts.quoted_infix_text).trans front.isInfix

theorem head?_of_begins {s : Text} (begins : (scanner module?).Begins s) : s.head? = some 'i' := by
  obtain ⟨t, rfl⟩ := (infix_of_begins begins).1
  rfl

theorem inert_of_not_mayOccur {source : Text} (absent : ¬mayOccur module? source = true) :
    Text.Inert (scanner module?).Begins [] source := by
  refine Text.inert_of_suffix fun s part _ begins => absent ?_
  rw [List.append_nil] at begins
  obtain ⟨keyword, named⟩ := infix_of_begins begins
  rw [mayOccur, Bool.and_eq_true, Option.all_eq_true]
  refine ⟨Text.contains_iff.2 (keyword.isInfix.trans part.isInfix), fun module given => ?_⟩
  exact Text.contains_iff.2 ((named module given).trans part.isInfix)

theorem replaceM_eq [Monad m] [LawfulMonad m] (module? : Option Text)
    (f : Text → ImportStatement → m Text) (source : Text) :
    replaceM module? f source =
      if compiles module? then (scanner module?).replaceM f source else pure source := by
  unfold replaceM
  cases compiles module? with
  | false => simp
  | true =>
    simp only [Bool.and_true, if_true]
    split
    · rfl
    · next absent => exact (Scanner.replaceM_eq_self (inert_of_not_mayOccur absent)).symm

theorem replaceM_eq_self [Monad m] {module? : Option Text} (large : compiles module? = false)
    (f : Text → ImportStatement → m Text) (source : Text) :
    replaceM module? f source = pure source := by
  simp [replaceM, large]

end ImportStatement
end ComponentLoader
