import ComponentLoader.Proofs.Import.Names
import ComponentLoader.Proofs.Import.QuickCheck

namespace ComponentLoader
open ImportStatement (isQuote isSpecifierChar)

abbrev ModuleName := { t : Text // t ≠ [] ∧ ∀ c ∈ t, isSpecifierChar c = true }

-- `import { … } from '…'`
structure WrittenImport where
  before : Spacing
  clause : WrittenClause
  between : Spacing
  gap : Spacing
  quote : { q : Char // isQuote q = true }
  module : ModuleName
  semicolon : Bool

inductive SourceLine where
  | other (t : { t : Text // ¬"import".toList <:+: t ∧ '\n' ∉ t })
  | statement (s : WrittenImport)

namespace WrittenImport

def parts (s : WrittenImport) : ImportStatement.Parts where
  before := s.before
  clause := s.clause.text
  between := s.between
  gap := s.gap
  opening := s.quote
  closing := s.quote

def raw (s : WrittenImport) : Text := s.parts.text s.module

def ending (s : WrittenImport) : Text := if s.semicolon then [';'] else []

def value (s : WrittenImport) : ImportStatement := ⟨s.module, s.clause.names⟩

end WrittenImport

namespace SourceLine

def text : SourceLine → Text
  | other t => t
  | statement s => s.raw ++ s.ending

def visit [Monad m] (kit : Text) (f : Text → ImportStatement → m Text) : SourceLine → m Text
  | other t => pure t
  | statement s =>
    if s.module.val = kit then (· ++ s.ending) <$> f s.raw s.value else pure (s.raw ++ s.ending)

end SourceLine

def source (lines : List SourceLine) : Text := Text.join ['\n'] (lines.map SourceLine.text)

namespace ImportStatement

-- On none of its lines the text has both the keyword and the kit between quotes.
def Idle (kit t : Text) : Prop :=
  ∀ raw, raw <:+: t → '\n' ∉ raw → "import".toList <:+: raw →
    ∀ q q', isQuote q = true → isQuote q' = true → ¬q :: kit ++ [q'] <:+: raw

theorem idle_append {kit a b : Text} (left : Idle kit a) (right : Idle kit b) :
    Idle kit (a ++ '\n' :: b) := by
  intro raw part single keyword
  rcases (Text.infix_append_cons single).1 part with inside | inside
  · exact left raw inside single keyword
  · exact right raw inside single keyword

theorem idle_join {kit : Text} {ts : List Text} (idle : ∀ t ∈ ts, Idle kit t) :
    Idle kit (Text.join ['\n'] ts) := by
  induction ts with
  | nil =>
    intro raw part _ keyword
    exact absurd (keyword.trans part) (by decide)
  | cons t ts ih =>
    have later := ih fun u member => idle u (List.mem_cons_of_mem t member)
    cases ts with
    | nil => exact idle t (by simp)
    | cons u ts =>
      rw [Text.join_cons (by simp), List.append_assoc]
      exact idle_append (idle t (by simp)) later

theorem idle_of_no_keyword {kit t : Text} (absent : ¬"import".toList <:+: t) : Idle kit t :=
  fun _ part _ keyword => absurd (keyword.trans part) absent

theorem idle_of_quoteFree {kit t : Text} (free : QuoteFree t) : Idle kit t := by
  intro raw part _ _ q q' quote _ found
  have absent := free q ((found.trans part).subset (by simp))
  rw [quote] at absent
  cases absent

theorem idle_of_quoted {kit a m b : Text} {x y : Char} (opening : isQuote x = true)
    (closing : isQuote y = true) (named : QuoteFree kit) (before : QuoteFree a)
    (between : QuoteFree m) (behind : QuoteFree b) (other : kit ≠ m) :
    Idle kit (a ++ x :: m ++ y :: b) := by
  intro raw part _ _ q q' quote quote' found
  have none_ : ∀ {t : Text}, t.countP isQuote = 0 ↔ QuoteFree t := by
    simp [QuoteFree, List.countP_eq_zero]
  obtain ⟨front, back, same⟩ := found.trans part
  have counts := congrArg (List.countP isQuote) same
  simp only [List.countP_append, List.countP_cons, List.countP_nil, quote, quote', opening, closing,
    none_.2 named, none_.2 before, none_.2 between, none_.2 behind, if_true] at counts
  have free : QuoteFree front := none_.1 (by omega)
  have spelled : front ++ q :: (kit ++ q' :: back) = a ++ x :: (m ++ y :: b) := by
    simpa using same
  obtain ⟨-, -, later⟩ := Text.split_unique free before quote opening spelled
  exact other (Text.split_unique named between quote' closing later).1

theorem inert_of_idle {kit t r : Text} (single : '\n' ∉ kit) (follows : ∀ c ∈ r.head?, c = '\n')
    (idle : Idle kit t) : Text.Inert (scanner (some kit)).Begins r t := by
  refine Text.inert_of_suffix fun s part some_ begins => ?_
  obtain ⟨⟨statement, rest⟩, read⟩ := Option.isSome_iff_exists.1 begins
  obtain ⟨p, valid, whole, -, named, -⟩ := eq_of_scanner read
  rw [show statement.module = kit from named] at whole
  have line := valid.newline_not_mem_text single
  have inside : p.text kit <+: s := by
    rcases List.append_eq_append_iff.1 whole with ⟨d, same, behind⟩ | ⟨d, same, -⟩
    · cases d with
      | nil => exact ⟨[], by rw [same]; simp⟩
      | cons c d =>
        have newline := follows c (by rw [behind]; rfl)
        rw [same, newline] at line
        exact absurd (by simp) line
    · exact ⟨d, same.symm⟩
  exact idle (p.text kit) (inside.isInfix.trans part.isInfix) line p.keyword_prefix_text.isInfix _ _
    valid.opening valid.closing p.quoted_infix_text

end ImportStatement

open ImportStatement (QuoteFree quoteFree_append quoteFree_cons quoteFree_of_specifier Idle)

theorem newline_not_mem {module : Text} (plain : ∀ c ∈ module, isSpecifierChar c = true) :
    '\n' ∉ module := fun member =>
  Expansion.ne_newline_of_isSpecifierChar (plain _ member) rfl

theorem IsNameChar.not_isQuote {c : Char} (name : IsNameChar c) : isQuote c = false := by
  cases quote : isQuote c with
  | false => rfl
  | true =>
    revert name
    unfold IsNameChar
    rcases ImportStatement.isQuote_cases quote with rfl | rfl <;> decide

theorem IsNameChar.isInside {c : Char} (name : IsNameChar c) :
    ImportStatement.isInside c = true := by
  simp only [ImportStatement.isInside, Bool.and_eq_true, bne_iff_ne]
  refine ⟨⟨?_, ?_⟩, ?_⟩
  all_goals
    rintro rfl
    revert name
    unfold IsNameChar
    decide

theorem Spacing.quoteFree {s : Spacing} : QuoteFree s.val := fun c member =>
  (Spacing.isNameChar c member).not_isQuote

theorem WrittenClause.quoteFree {clause : WrittenClause} : QuoteFree clause.text := by
  intro c member
  rcases isNameChar_of_mem_text c member with rfl | name
  · decide
  · exact name.not_isQuote

theorem WrittenClause.quoteFree_of_mem_names {clause : WrittenClause} :
    ∀ name ∈ clause.names, QuoteFree name.binding := by
  intro name member
  obtain ⟨entry, -, rfl⟩ := List.mem_map.1 member
  have free (n : Identifier) : QuoteFree n.val := fun c inside =>
    (n.isNameChar c inside).not_isQuote
  cases entry.name with
  | plain n => exact free n
  | aliased n gap₁ gap₂ m => exact free m
  | dropped n gap => exact fun c inside => absurd inside (by simp [WrittenName.value])

namespace WrittenImport

theorem valid {s : WrittenImport} : s.parts.Valid where
  before c member := by
    rcases s.before.property c member with rfl | rfl <;> decide
  clause c member := by
    rcases WrittenClause.isNameChar_of_mem_text c member with rfl | name
    · decide
    · exact name.isInside
  between c member := by
    rcases s.between.property c member with rfl | rfl <;> decide
  gap c member := by
    rcases s.gap.property c member with rfl | rfl <;> decide
  opening := s.quote.property
  closing := s.quote.property

theorem scanner_raw (s : WrittenImport) (rest : Text) :
    ImportStatement.scanner (some s.module.val) (s.raw ++ rest) = some (s.value, rest) := by
  have plain : 'f' ∉ s.between.val := fun member => by simpa using s.between.property _ member
  have read := @ImportStatement.scanner_append s.module s.parts s.valid plain rest
  have clause : s.parts.clause = s.clause.text := rfl
  rwa [clause, s.clause.parseAll_text] at read

theorem ending_quoteFree {s : WrittenImport} : QuoteFree s.ending := by
  unfold ending
  cases s.semicolon <;> exact Text.forall_of_all (by decide)

theorem head_quoteFree {s : WrittenImport} : QuoteFree s.parts.head := by
  have keyword : QuoteFree "import".toList := Text.forall_of_all (by decide)
  exact quoteFree_append.2 ⟨quoteFree_append.2 ⟨keyword, Spacing.quoteFree⟩,
    quoteFree_cons.2 ⟨rfl, WrittenClause.quoteFree⟩⟩

theorem front_quoteFree {s : WrittenImport} :
    QuoteFree (s.parts.head ++ '\x7d' :: s.between ++ "from".toList ++ s.gap) := by
  have word : QuoteFree "from".toList := Text.forall_of_all (by decide)
  have brace : QuoteFree ('\x7d' :: s.between.val) := quoteFree_cons.2 ⟨rfl, Spacing.quoteFree⟩
  exact quoteFree_append.2 ⟨quoteFree_append.2 ⟨quoteFree_append.2 ⟨s.head_quoteFree, brace⟩, word⟩,
    Spacing.quoteFree⟩

theorem idle_of_ne {s : WrittenImport} {kit : Text} (plain : ∀ c ∈ kit, isSpecifierChar c = true)
    (other : s.module.val ≠ kit) : Idle kit (s.raw ++ s.ending) := by
  have spelled : s.raw ++ s.ending =
      (s.parts.head ++ '\x7d' :: s.between ++ "from".toList ++ s.gap) ++ s.quote.val :: s.module ++
        s.quote.val :: s.ending := by
    unfold raw ImportStatement.Parts.text ImportStatement.Parts.tail
    generalize "from".toList = from_
    simp [parts]
  rw [spelled]
  exact ImportStatement.idle_of_quoted s.quote.property s.quote.property
    (quoteFree_of_specifier plain) s.front_quoteFree (quoteFree_of_specifier s.module.property.2)
    s.ending_quoteFree other.symm

end WrittenImport

namespace SourceLine

-- The statements for the kit, and no other lines, are where something is read.
theorem idle_text {line : SourceLine} {kit : Text} (plain : ∀ c ∈ kit, isSpecifierChar c = true)
    (other : ∀ s, line = statement s → s.module.val ≠ kit) : Idle kit line.text := by
  cases line with
  | other t => exact ImportStatement.idle_of_no_keyword t.property.1
  | statement s => exact s.idle_of_ne plain (other s rfl)

end SourceLine

namespace ImportStatement

variable {m : Type → Type v} [Monad m] [LawfulMonad m] {kit : Text}

theorem replaceM_line (plain : ∀ c ∈ kit, isSpecifierChar c = true)
    (f : Text → ImportStatement → m Text) (line : SourceLine) {r : Text}
    (follows : ∀ c ∈ r.head?, c = '\n') :
    (scanner (some kit)).replaceM f (line.text ++ r) = do
      return (← line.visit kit f) ++ (← (scanner (some kit)).replaceM f r) := by
  have idle (unread : ∀ s, line = .statement s → s.module.val ≠ kit) :
      (scanner (some kit)).replaceM f (line.text ++ r) =
        (line.text ++ ·) <$> (scanner (some kit)).replaceM f r :=
    Scanner.replaceM_append_of_inert
      (inert_of_idle (newline_not_mem plain) follows (line.idle_text plain unread))
  cases line with
  | other t =>
    rw [idle (by rintro s ⟨⟩), SourceLine.visit]
    simp only [pure_bind, bind_pure_comp, SourceLine.text]
  | statement s =>
    by_cases named : s.module.val = kit
    · subst named
      have some_ : s.raw ≠ [] := by
        simp [WrittenImport.raw, Parts.text]
      have behind : Text.Inert (scanner (some s.module.val)).Begins r s.ending := by
        refine Text.inert_of_not_mem (fun _ => head?_of_begins) ?_
        unfold WrittenImport.ending
        cases s.semicolon <;> decide
      rw [SourceLine.text, List.append_assoc, Scanner.replaceM_of_some some_ (s.scanner_raw _),
        Scanner.replaceM_append_of_inert behind, SourceLine.visit, if_pos rfl]
      simp only [← bind_pure_comp, bind_assoc, pure_bind, List.append_assoc]
    · rw [idle (by rintro s' ⟨⟩; exact named), SourceLine.visit, if_neg named]
      simp only [pure_bind, bind_pure_comp, SourceLine.text]

theorem replaceM_source (compiled : compiles (some kit) = true)
    (plain : ∀ c ∈ kit, isSpecifierChar c = true)
    (f : Text → ImportStatement → m Text) (lines : List SourceLine) :
    replaceM (some kit) f (source lines) =
      Text.join ['\n'] <$> lines.mapM (SourceLine.visit kit f) := by
  rw [replaceM_eq, if_pos compiled]
  induction lines with
  | nil =>
    rw [source, List.map_nil, Text.join, Scanner.replaceM_nil]
    simp [Text.join]
  | cons line lines ih =>
    cases lines with
    | nil =>
      have single := replaceM_line plain f line (r := []) (by simp)
      rw [List.append_nil, Scanner.replaceM_nil] at single
      rw [source, List.map_cons, List.map_nil, Text.join, single]
      simp [Text.join]
    | cons next lines =>
      have newline : Text.Inert (scanner (some kit)).Begins (source (next :: lines)) ['\n'] :=
        Text.inert_of_not_mem (fun _ => head?_of_begins) (by decide)
      have spelled : source (line :: next :: lines) =
          line.text ++ (['\n'] ++ source (next :: lines)) := by
        simp [source, Text.join]
      rw [spelled, replaceM_line plain f line (by simp), Scanner.replaceM_append_of_inert newline,
        ih]
      simp [Text.join]

end ImportStatement
end ComponentLoader
