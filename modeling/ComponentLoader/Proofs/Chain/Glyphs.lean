import ComponentLoader.Proofs.Chain.Masking
import ComponentLoader.Proofs.Chain.Request

namespace ComponentLoader
namespace Glyph
open Request

-- An escaped quote counts as one character of a word.
instance : Symbol Glyph where
  ofChar := char
  Binds
    | char c => isBindingChar c = true
    | escapedQuote => True

theorem flatMap_written {f : Glyph → Text} (single : ∀ c, f (char c) = [c]) (t : Text) :
    (written t : List Glyph).flatMap f = t := by
  induction t with
  | nil => rfl
  | cons c t ih =>
    change f (char c) ++ (written t).flatMap f = c :: t
    rw [single, ih]
    rfl

theorem masked_ne_nil (g : Glyph) : g.masked ≠ [] := by
  cases g with
  | char c => simp [masked]
  | escapedQuote =>
    rw [masked, Injection.quotePlaceholder_eq]
    simp

theorem eq_nil_of_flatMap_masked {s : List Glyph} (empty : s.flatMap masked = []) : s = [] := by
  cases s with
  | nil => rfl
  | cons g s => exact absurd (List.append_eq_nil_iff.1 empty).1 (masked_ne_nil g)

theorem split_masked {s : List Glyph} {a b : Text} {c : Char}
    (apart : c ∉ Injection.quotePlaceholder) (cut : s.flatMap masked = a ++ c :: b) :
    ∃ l r, s = l ++ char c :: r ∧ l.flatMap masked = a ∧ r.flatMap masked = b := by
  induction s generalizing a with
  | nil => simp at cut
  | cons g s ih =>
    rw [List.flatMap_cons] at cut
    cases g with
    | char d =>
      cases a with
      | nil =>
        obtain ⟨rfl, rfl⟩ := List.cons.inj cut
        exact ⟨[], s, rfl, rfl, rfl⟩
      | cons x a =>
        obtain ⟨rfl, later⟩ := List.cons.inj cut
        obtain ⟨l, r, rfl, rfl, rfl⟩ := ih later
        exact ⟨char d :: l, r, rfl, rfl, rfl⟩
    | escapedQuote =>
      rcases List.append_eq_append_iff.1 cut with ⟨u, rfl, later⟩ | ⟨u, inside, behind⟩
      · obtain ⟨l, r, rfl, rfl, rfl⟩ := ih later
        exact ⟨escapedQuote :: l, r, rfl, rfl, rfl⟩
      · cases u with
        | nil =>
          obtain ⟨l, r, rfl, empty, rfl⟩ := ih (a := []) behind.symm
          rw [List.append_nil] at inside
          refine ⟨escapedQuote :: l, r, rfl, ?_, rfl⟩
          rw [List.flatMap_cons, empty, List.append_nil]
          exact inside
        | cons y u =>
          obtain ⟨rfl, -⟩ := List.cons.inj behind
          exact absurd (by rw [← masked, inside]; simp) apart

theorem split_written {s : List Glyph} {t b : Text}
    (apart : Text.Apart t Injection.quotePlaceholder) (cut : s.flatMap masked = t ++ b) :
    ∃ r, s = written t ++ r ∧ r.flatMap masked = b := by
  induction t generalizing s with
  | nil => exact ⟨s, rfl, cut⟩
  | cons c t ih =>
    obtain ⟨l, r, rfl, empty, later⟩ := split_masked (a := []) (apart c (by simp)) cut
    obtain rfl := eq_nil_of_flatMap_masked empty
    obtain ⟨u, rfl, same⟩ := ih (fun d member => apart d (List.mem_cons_of_mem _ member)) later
    exact ⟨u, rfl, same⟩

theorem apart_of_isBlank {c : Char} (blank : isBlank c = true) :
    c ∉ Injection.quotePlaceholder := by
  have sharp : Injection.quotePlaceholder.any isBlank = false := by
    rw [Injection.quotePlaceholder_eq]
    decide
  exact fun member => List.any_eq_false.1 sharp c member blank

theorem binds_placeholder : ∀ c ∈ Injection.quotePlaceholder, isBindingChar c = true := by
  rw [Injection.quotePlaceholder_eq, ← List.all_eq_true]
  decide

theorem char_mem_masked {s : List Glyph} {c : Char} (member : char c ∈ s) :
    c ∈ s.flatMap masked :=
  List.mem_flatMap.2 ⟨char c, member, by simp [masked]⟩

theorem not_mem_masked {s : List Glyph} {c : Char} (apart : c ∉ Injection.quotePlaceholder)
    (absent : char c ∉ s) : c ∉ s.flatMap masked := by
  intro member
  obtain ⟨g, here, inside⟩ := List.mem_flatMap.1 member
  cases g with
  | char d =>
    obtain rfl := List.mem_singleton.1 inside
    exact absent here
  | escapedQuote => exact apart inside

theorem quote_apart : '"' ∉ Injection.quotePlaceholder := by
  rw [Injection.quotePlaceholder_eq]
  decide

theorem shape_masked {before chain after : List Glyph} (shape : Shape before chain after) :
    Shape (before.flatMap masked) (chain.flatMap masked) (after.flatMap masked) := by
  have single : ∀ c, masked (char c) = [c] := fun c => rfl
  cases shape with
  | requireCall closed =>
    rw [flatMap_written single, flatMap_written single]
    have request := Shape.requireCall (σ := Char) (not_mem_masked quote_apart closed)
    repeat rw [written_char] at request
    exact request
  | @defaultImport g₁ g₂ g₃ binding _ gap₁ gap₂ gap₃ named binds closed =>
    simp only [List.flatMap_append, flatMap_written single]
    have some_ : binding.flatMap masked ≠ [] := fun empty => named (eq_nil_of_flatMap_masked empty)
    have letters : ∀ c ∈ binding.flatMap masked, isBindingChar c = true := by
      intro c member
      obtain ⟨g, here, inside⟩ := List.mem_flatMap.1 member
      cases g with
      | char d =>
        obtain rfl := List.mem_singleton.1 inside
        exact binds _ here
      | escapedQuote => exact binds_placeholder c inside
    have request := Shape.defaultImport (σ := Char) gap₁ gap₂ gap₃ some_ letters
      (not_mem_masked quote_apart closed)
    repeat rw [written_char] at request
    exact request
  | bare closed =>
    rw [List.flatMap_append, flatMap_written single, flatMap_written single]
    have request := Shape.bare (σ := Char) (not_mem_masked quote_apart closed)
    repeat rw [written_char] at request
    exact request

theorem closed_of_masked {s : List Glyph} (closed : '"' ∉ s.flatMap masked) :
    Symbol.ofChar '"' ∉ s := fun member => closed (char_mem_masked member)

theorem parenthesis_apart : Text.Apart [')'] Injection.quotePlaceholder := by
  rw [Injection.quotePlaceholder_eq]
  exact Text.apart_of_any (by decide)

theorem exclamation_apart : Text.Apart ['!', '!'] Injection.quotePlaceholder := by
  rw [Injection.quotePlaceholder_eq]
  exact Text.apart_of_any (by decide)

theorem letter_apart : ∀ t ∈ ["require(\"".toList, "\")".toList, "import".toList, "from".toList],
    Text.Apart t Injection.quotePlaceholder := by
  have nothing : ["require(\"".toList, "\")".toList, "import".toList, "from".toList].all
      (fun t => !t.any (List.contains Injection.quotePlaceholder)) = true := by
    rw [Injection.quotePlaceholder_eq]
    decide
  intro t member
  refine Text.apart_of_any ?_
  simpa using List.all_eq_true.1 nothing t member

theorem shape_of_masked {before chain after rest : Text} (shape : Shape before chain after)
    {s : List Glyph} (cut : s.flatMap masked = before ++ chain ++ after ++ rest) :
    ∃ b c a r, Shape b c a ∧ s = b ++ c ++ a ++ r := by
  cases shape with
  | requireCall closed =>
    rw [written_char, written_char, List.append_assoc, List.append_assoc] at cut
    obtain ⟨s₁, rfl, cut₁⟩ := split_written (letter_apart _ (by simp)) cut
    have ending : "\")".toList = '"' :: [')'] := by simp
    rw [ending, List.cons_append] at cut₁
    obtain ⟨c, s₂, rfl, rfl, cut₂⟩ := split_masked quote_apart cut₁
    obtain ⟨r, rfl, -⟩ := split_written parenthesis_apart cut₂
    refine ⟨_, c, _, r, .requireCall (closed_of_masked closed), ?_⟩
    rw [ending]
    simp [written]
    rfl
  | @defaultImport g₁ g₂ g₃ binding _ gap₁ gap₂ gap₃ named binds closed =>
    repeat rw [written_char] at cut
    simp only [List.append_assoc] at cut
    have blank : ∀ {g : Text}, IsGap g → Text.Apart g Injection.quotePlaceholder :=
      fun gap c member => apart_of_isBlank (gap.2 c member)
    obtain ⟨s₁, rfl, cut₁⟩ := split_written (letter_apart _ (by simp)) cut
    obtain ⟨s₂, rfl, cut₂⟩ := split_written (blank gap₁) cut₁
    obtain ⟨w, ws, rfl⟩ := List.exists_cons_of_ne_nil gap₂.1
    rw [List.cons_append] at cut₂
    obtain ⟨name, s₃, rfl, rfl, cut₃⟩ := split_masked (blank gap₂ w (by simp)) cut₂
    obtain ⟨s₄, rfl, cut₄⟩ := split_written (fun c member => blank gap₂ c (by simp [member])) cut₃
    obtain ⟨s₅, rfl, cut₅⟩ := split_written (letter_apart _ (by simp)) cut₄
    obtain ⟨s₆, rfl, cut₆⟩ := split_written (blank gap₃) cut₅
    obtain ⟨s₇, rfl, cut₇⟩ := split_written (t := ['"']) (by simp [quote_apart]) cut₆
    obtain ⟨c, s₈, rfl, rfl, cut₈⟩ := split_masked quote_apart cut₇
    have some_ : name ≠ [] := by
      rintro rfl
      exact named rfl
    have letters : ∀ g ∈ name, Symbol.Binds g := by
      intro g member
      cases g with
      | char d => exact binds d (char_mem_masked member)
      | escapedQuote => trivial
    refine ⟨_, c, _, s₈, .defaultImport gap₁ gap₂ gap₃ some_ letters (closed_of_masked closed), ?_⟩
    simp [written, Symbol.ofChar]
  | bare closed =>
    repeat rw [written_char] at cut
    simp only [List.append_assoc] at cut
    obtain ⟨s₁, rfl, cut₁⟩ := split_written (t := ['"']) (by simp [quote_apart]) cut
    obtain ⟨s₂, rfl, cut₂⟩ := split_written exclamation_apart cut₁
    obtain ⟨c, s₃, rfl, rfl, cut₃⟩ := split_masked quote_apart cut₂
    refine ⟨_, _, _, s₃, .bare (closed_of_masked closed), ?_⟩
    simp [written, Symbol.ofChar]

end Glyph
end ComponentLoader
