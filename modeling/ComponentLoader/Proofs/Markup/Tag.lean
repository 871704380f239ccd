import ComponentLoader.Markup.Tag
import ComponentLoader.Proofs.Text.Replacement

namespace ComponentLoader
namespace Attributes

def written (name value : Text) : Text := name ++ '=' :: '"' :: value ++ ['"']

theorem scanner_eq_none {c : Char} (s : Text) (plain : isBlank c = false) :
    scanner (c :: s) = none := by
  simp [scanner, plain]

theorem scanner_append {blank : Char} {name value : Text} (rest : Text)
    (gap : isBlank blank = true) (named : name ≠ [])
    (plain : ∀ c ∈ name, isAttributeNameChar c = true) (closed : '"' ∉ value) :
    scanner (blank :: written name value ++ rest) = some ((name, value), rest) := by
  have stop : isAttributeNameChar '=' = false := by decide
  have inside : ∀ c ∈ value, decide (c ≠ '"') = true := by
    intro c member
    simpa using fun same : c = '"' => closed (same ▸ member)
  have spelled : written name value ++ rest = name ++ '=' :: ('"' :: (value ++ '"' :: rest)) := by
    simp [written]
  rw [List.cons_append, spelled, scanner, Text.takeWhile_append_cons plain stop,
    Text.dropWhile_append_cons plain stop, if_pos ⟨gap, named⟩]
  split
  · next r opened =>
    cases opened
    rw [Text.takeWhile_append_cons inside (by simp), Text.dropWhile_append_cons inside (by simp)]
  · next other => exact absurd rfl (other _)

theorem inert_of_no_blank {t r : Text} (plain : ∀ c ∈ t, isBlank c = false) :
    Text.Inert scanner.Begins r t := by
  induction t with
  | nil => trivial
  | cons c t ih =>
    obtain ⟨first, later⟩ := List.forall_mem_cons.1 plain
    refine ⟨?_, ih later⟩
    rw [Scanner.Begins, scanner_eq_none _ first]
    simp

theorem scanner_eq_none_of_head {c : Char} {s : Text}
    (stop : ∀ x ∈ s.head?, isAttributeNameChar x = false) : scanner (c :: s) = none := by
  have nameless : s.takeWhile isAttributeNameChar = [] := by
    cases s with
    | nil => rfl
    | cons x s => rw [List.takeWhile_cons_of_neg (by simp [stop x rfl])]
  rw [scanner, nameless]
  simp

theorem not_isAttributeNameChar_of_isBlank {c : Char} (blank : isBlank c = true) :
    isAttributeNameChar c = false := by
  simp [isAttributeNameChar, blank]

structure Written where
  gap : Text
  name : Text
  value : Text

namespace Written

def text (a : Written) : Text := a.gap ++ written a.name a.value

structure Valid (a : Written) : Prop where
  apart : a.gap ≠ []
  blank : ∀ c ∈ a.gap, isBlank c = true
  named : a.name ≠ []
  plain : ∀ c ∈ a.name, isAttributeNameChar c = true
  closed : '"' ∉ a.value

end Written

theorem items_append_written {a : Written} (valid : a.Valid) (rest : Text) :
    scanner.items (a.text ++ rest) = (a.name, a.value) :: scanner.items rest := by
  obtain ⟨gap, name, value⟩ := a
  obtain ⟨apart, blank, named, plain, closed⟩ := valid
  dsimp only at apart blank named plain closed
  rw [Written.text]
  dsimp only
  induction gap with
  | nil => exact absurd rfl apart
  | cons b gap ih =>
    obtain ⟨first, later⟩ := List.forall_mem_cons.1 blank
    cases gap with
    | nil =>
      have found := scanner_append rest first named plain closed
      rw [List.singleton_append, Scanner.items, Scanner.pieces_of_some (by simp) found]
      rfl
    | cons b' gap =>
      have nothing : scanner (b :: (b' :: gap ++ written name value ++ rest)) = none := by
        refine scanner_eq_none_of_head fun x front => ?_
        cases front
        exact not_isAttributeNameChar_of_isBlank (later b' (by simp))
      have behind := ih (by simp) later
      rw [Scanner.items] at behind
      rw [List.cons_append, List.cons_append, Scanner.items, Scanner.pieces_of_none nothing,
        List.filterMap_cons_none rfl, behind]

theorem items_ending {gap mark : Text} (blank : ∀ c ∈ gap, isBlank c = true)
    (ends : mark = [] ∨ mark = ['/']) : scanner.items (gap ++ mark) = [] := by
  have slash : scanner.items mark = [] := by
    rcases ends with rfl | rfl
    · rw [Scanner.items, Scanner.pieces_nil]
      rfl
    · rw [Scanner.items, Scanner.pieces_of_none (scanner_eq_none _ (by decide)),
        Scanner.pieces_nil]
      rfl
  induction gap with
  | nil => exact slash
  | cons b gap ih =>
    obtain ⟨-, later⟩ := List.forall_mem_cons.1 blank
    have nothing : scanner (b :: (gap ++ mark)) = none := by
      refine scanner_eq_none_of_head fun x front => ?_
      cases gap with
      | nil =>
        rcases ends with rfl | rfl
        · cases front
        · cases front
          decide
      | cons y gap =>
        cases front
        exact not_isAttributeNameChar_of_isBlank (later x (by simp))
    have behind := ih later
    rw [Scanner.items] at behind
    rw [List.cons_append, Scanner.items, Scanner.pieces_of_none nothing,
      List.filterMap_cons_none rfl, behind]

theorem items_opening {front gap mark : Text} {as : List Written}
    (bare : ∀ c ∈ front, isBlank c = false) (valid : ∀ a ∈ as, a.Valid)
    (blank : ∀ c ∈ gap, isBlank c = true) (ends : mark = [] ∨ mark = ['/']) :
    scanner.items (front ++ (as.flatMap Written.text ++ (gap ++ mark))) =
      as.map fun a => (a.name, a.value) := by
  have inside : scanner.items (as.flatMap Written.text ++ (gap ++ mark)) =
      as.map fun a => (a.name, a.value) := by
    induction as with
    | nil =>
      rw [List.flatMap_nil, List.nil_append, items_ending blank ends]
      rfl
    | cons a as ih =>
      obtain ⟨here, later⟩ := List.forall_mem_cons.1 valid
      rw [List.flatMap_cons, List.append_assoc, items_append_written here, ih later]
      rfl
  rw [Scanner.items_append_of_inert (inert_of_no_blank bare), inside]

def shownName (name : Text) : Text := Text.replaceAll ".native".toList [] name

theorem parse_opening {front gap mark rest : Text} {as : List Written}
    (bare : ∀ c ∈ front, isBlank c = false) (valid : ∀ a ∈ as, a.Valid)
    (blank : ∀ c ∈ gap, isBlank c = true) (ends : mark = [] ∨ mark = ['/'])
    (inside : '>' ∉ front ++ (as.flatMap Written.text ++ (gap ++ mark))) :
    parse (front ++ (as.flatMap Written.text ++ (gap ++ mark)) ++ '>' :: rest) =
      .ofList (as.map fun a => (shownName a.name, a.value)) := by
  have before : ∀ c ∈ front ++ (as.flatMap Written.text ++ (gap ++ mark)),
      decide (c ≠ '>') = true := by
    intro c member
    simpa using fun same : c = '>' => inside (same ▸ member)
  rw [parse, Text.takeWhile_append_cons before (by simp), items_opening bare valid blank ends,
    List.map_map]
  rfl

theorem parse_single {front name value rest : Text} (bare : ∀ c ∈ front, isBlank c = false)
    (named : name ≠ []) (plain : ∀ c ∈ name, isAttributeNameChar c = true) (closed : '"' ∉ value)
    (undotted : '.' ∉ name) (inside : '>' ∉ front ++ ' ' :: written name value) :
    parse (front ++ ' ' :: written name value ++ '>' :: rest) = .ofList [(name, value)] := by
  have kept : shownName name = name := by
    refine Text.replaceAll_of_absent fun found => undotted (found.subset ?_)
    simp
  have valid : ∀ a ∈ [(⟨[' '], name, value⟩ : Written)], a.Valid := by
    simpa using Written.Valid.mk (by simp) (by simp; decide) named plain closed
  have spelled : [(⟨[' '], name, value⟩ : Written)].flatMap Written.text ++ ([] ++ []) =
      ' ' :: written name value := by
    simp [Written.text]
  have read := @parse_opening front [] [] rest _ bare valid (by simp) (.inl rfl)
  rw [spelled] at read
  rw [read inside, List.map_singleton, kept]

end Attributes

namespace Tag

def EndsName (c : Char) : Prop := isBlank c = true ∨ c = '/' ∨ c = '>'

-- No tag of the name begins in the text, whatever follows it.
structure Unopened (name t : Text) : Prop where
  absent : ∀ c, EndsName c → ¬ '<' :: name ++ [c] <:+: t
  apart : ∀ p, p ≠ [] → p <+: '<' :: name → ¬p <:+ t

structure Unclosed (name t : Text) : Prop where
  absent : ¬closing name <:+: t
  apart : ∀ p, p ≠ [] → p <+: closing name → ¬p <:+ t

theorem begins_iff_isSome {name s : Text} :
    (scanner name).Begins s ↔ ∃ tag rest, scanner name s = some (tag, rest) := by
  rw [Scanner.Begins, Option.isSome_iff_exists]
  exact Prod.exists

theorem prefix_of_begins {name s : Text} (begins : (scanner name).Begins s) :
    ∃ c, EndsName c ∧ '<' :: name ++ [c] <+: s := by
  obtain ⟨tag, rest, found⟩ := begins_iff_isSome.1 begins
  unfold scanner at found
  split at found
  · cases found
  · next r opened =>
    rw [Text.dropPrefix?_eq_some.1 opened]
    dsimp only at found
    split at found
    · cases found
    · next behind =>
      cases r with
      | nil => cases behind
      | cons c r =>
        refine ⟨c, ?_, by simp⟩
        by_cases last : c = '>'
        · exact .inr (.inr last)
        · rw [List.takeWhile_cons_of_pos (by simpa using last)] at found
          split at found
          · cases found
          · next opening =>
            simp only [isOpeningArea, Bool.not_eq_true, Bool.not_eq_false', Bool.or_eq_true,
              Bool.and_eq_true, beq_iff_eq] at opening
            rcases opening with blank | ⟨slash, -⟩
            · exact .inl blank
            · exact .inr (.inl slash)

theorem head?_of_begins {name s : Text} (begins : (scanner name).Begins s) :
    s.head? = some '<' := by
  obtain ⟨c, -, t, rfl⟩ := prefix_of_begins begins
  rfl

theorem inert_of_unopened {name t r : Text} (unopened : Unopened name t) :
    Text.Inert (scanner name).Begins r t := by
  refine Text.inert_of_suffix fun s part some_ begins => ?_
  obtain ⟨c, ends, front⟩ := prefix_of_begins begins
  rcases List.prefix_or_prefix_of_prefix front (List.prefix_append s r) with inside | short
  · exact unopened.absent c ends (inside.isInfix.trans part.isInfix)
  · rcases List.prefix_concat_iff.1 short with whole | short
    · exact unopened.absent c ends (whole ▸ part.isInfix)
    · exact unopened.apart s some_ short part

theorem inert_of_unclosed {name t r : Text} (unclosed : Unclosed name t) :
    Text.Inert (closing name <+: ·) r t := by
  refine Text.inert_of_suffix fun s part some_ begins => ?_
  rcases List.prefix_or_prefix_of_prefix begins (List.prefix_append s r) with inside | short
  · exact unclosed.absent (inside.isInfix.trans part.isInfix)
  · exact unclosed.apart s some_ short part

theorem scanner_selfClosing {name area : Text} (rest : Text)
    (opening : isOpeningArea (area ++ ['/']) = true) (closed : '>' ∉ area) :
    scanner name ('<' :: name ++ area ++ "/>".toList ++ rest) =
      some (⟨.parse ('<' :: name ++ area ++ "/>".toList ++ rest), none⟩, rest) := by
  have inside : ∀ c ∈ area ++ ['/'], decide (c ≠ '>') = true := by
    intro c member
    rcases List.mem_append.1 member with here | last
    · simpa using fun same : c = '>' => closed (same ▸ here)
    · rw [List.mem_singleton.1 last]
      decide
  have spelled : '<' :: name ++ area ++ "/>".toList ++ rest =
      '<' :: name ++ (area ++ ['/'] ++ '>' :: rest) := by
    simp
  rw [spelled, scanner, Text.dropPrefix?_append]
  dsimp only
  rw [Text.takeWhile_append_cons inside (by simp), Text.dropWhile_append_cons inside (by simp),
    opening]
  simp

theorem scanner_paired {name area inner : Text} (rest : Text)
    (opening : isOpeningArea area = true) (closed : '>' ∉ area) (paired : area.getLast? ≠ some '/')
    (inert : Text.Inert (closing name <+: ·) (closing name ++ rest) inner) :
    scanner name ('<' :: name ++ area ++ '>' :: inner ++ closing name ++ rest) =
      some (⟨.parse ('<' :: name ++ area ++ '>' :: inner ++ closing name ++ rest), some inner⟩,
        rest) := by
  have inside : ∀ c ∈ area, decide (c ≠ '>') = true := by
    intro c member
    simpa using fun same : c = '>' => closed (same ▸ member)
  have spelled : '<' :: name ++ area ++ '>' :: inner ++ closing name ++ rest =
      '<' :: name ++ (area ++ '>' :: (inner ++ (closing name ++ rest))) := by
    simp
  rw [spelled, scanner, Text.dropPrefix?_append]
  dsimp only
  rw [Text.takeWhile_append_cons inside (by simp), Text.dropWhile_append_cons inside (by simp),
    opening]
  dsimp only
  rw [Bool.not_true, if_neg (by decide), if_neg paired, Text.cut?_of_inert inert]
  rfl

theorem inert_of_not_mayOccur {name source : Text} (absent : ¬mayOccur name source = true) :
    Text.Inert (scanner name).Begins [] source := by
  refine Text.inert_of_suffix fun s part _ begins => absent (Text.contains_iff.2 ?_)
  obtain ⟨c, -, front⟩ := prefix_of_begins begins
  rw [List.append_nil] at front
  exact ((List.prefix_append _ _).trans front).isInfix.trans part.isInfix

-- A text without `<` and the name has no tag to replace.
theorem replace_eq (source name : Text) (f : Text → Tag → Text) :
    replace source name f = if compiles name then (scanner name).replace f source else source := by
  unfold replace
  cases compiles name with
  | false => simp
  | true =>
    simp only [Bool.and_true, if_true]
    split
    · rfl
    · next absent => exact (Scanner.replace_eq_self (inert_of_not_mayOccur absent)).symm

theorem replaceM_eq [Monad m] [LawfulMonad m] (source name : Text) (f : Text → Tag → m Text) :
    replaceM source name f =
      if compiles name then (scanner name).replaceM f source else pure source := by
  unfold replaceM
  cases compiles name with
  | false => simp
  | true =>
    simp only [Bool.and_true, if_true]
    split
    · rfl
    · next absent => exact (Scanner.replaceM_eq_self (inert_of_not_mayOccur absent)).symm

end Tag
end ComponentLoader
