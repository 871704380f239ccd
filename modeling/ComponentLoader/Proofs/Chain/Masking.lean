import ComponentLoader.Chain.Request
import ComponentLoader.Proofs.Text.Search
import ComponentLoader.Proofs.Text.Replacement
import Mathlib.Data.List.Chain

namespace ComponentLoader

-- A character, or an escaped quote.
inductive Glyph where
  | char (c : Char)
  | escapedQuote
  deriving DecidableEq

namespace Glyph

def text : Glyph → Text
  | char c => [c]
  | escapedQuote => ['\\', '"']

def masked : Glyph → Text
  | char c => [c]
  | escapedQuote => Injection.quotePlaceholder

def read : Text → List Glyph
  | '\\' :: '"' :: s => escapedQuote :: read s
  | c :: s => char c :: read s
  | [] => []

theorem read_cons {c : Char} {s : Text} (plain : c = '\\' → s.head? ≠ some '"') :
    read (c :: s) = char c :: read s := by
  rw [read]
  rintro t rfl rfl
  exact plain rfl rfl

theorem flatMap_text_read (s : Text) : (read s).flatMap text = s := by
  fun_induction read s with
  | case1 s ih => simp [text, ih]
  | case2 c s plain ih => simp [text, ih]
  | case3 => rfl

end Glyph

namespace Injection

theorem quotePlaceholder_eq : quotePlaceholder =
    ['_', '_', 'V', 'U', 'X', '_', 'L', 'O', 'A', 'D', 'E', 'R', '_', 'E', 'S', 'C', 'A', 'P',
      'E', 'D', '_', 'Q', 'U', 'O', 'T', 'E', '_', '_'] :=
  String.toList_ofList

theorem hideQuotes_escaped (s : Text) :
    hideQuotes ('\\' :: '"' :: s) = quotePlaceholder ++ hideQuotes s :=
  Text.replaceAll_append (by simp) _ s

theorem hideQuotes_cons {c : Char} {s : Text} (plain : c = '\\' → s.head? ≠ some '"') :
    hideQuotes (c :: s) = c :: hideQuotes s := by
  refine Text.replaceAll_cons _ (Text.dropPrefix?_eq_none.2 ?_)
  rintro ⟨rest, same⟩
  cases same
  exact plain rfl rfl

theorem showQuotes_placeholder (s : Text) :
    showQuotes (quotePlaceholder ++ s) = '\\' :: '"' :: showQuotes s :=
  Text.replaceAll_append (by rw [quotePlaceholder_eq]; simp) _ s

theorem showQuotes_cons {c : Char} {s : Text} (plain : ¬quotePlaceholder <+: c :: s) :
    showQuotes (c :: s) = c :: showQuotes s :=
  Text.replaceAll_cons _ (Text.dropPrefix?_eq_none.2 plain)

theorem hideQuotes_eq (s : Text) : hideQuotes s = (Glyph.read s).flatMap Glyph.masked := by
  fun_induction Glyph.read s with
  | case1 s ih =>
    rw [hideQuotes_escaped, ih]
    rfl
  | case2 c s plain ih =>
    rw [hideQuotes_cons, ih]
    · rfl
    · rintro rfl first
      cases s with
      | nil => cases first
      | cons d s =>
        cases first
        exact plain s rfl rfl
  | case3 => exact Text.replaceAll_nil ..

def Unescaped (t : Text) : Prop := t.IsChain fun a b => a = '\\' → b ≠ '"'

theorem unescaped_of_not_mem {t : Text} (plain : '"' ∉ t) : Unescaped t := by
  induction t with
  | nil => exact .nil
  | cons c t ih =>
    rw [List.mem_cons, not_or] at plain
    refine List.isChain_cons.2 ⟨?_, ih plain.2⟩
    rintro d first - rfl
    exact plain.2 (List.mem_of_mem_head? first)

theorem head?_hideQuotes {s : Text} (first : (hideQuotes s).head? = some '"') :
    s.head? = some '"' := by
  rw [hideQuotes_eq] at first
  cases s with
  | nil => simp [Glyph.read] at first
  | cons c s =>
    by_cases escaped : c = '\\' ∧ s.head? = some '"'
    · obtain ⟨rfl, second⟩ := escaped
      cases s with
      | nil => cases second
      | cons d s =>
        cases second
        simp [Glyph.read, Glyph.masked, quotePlaceholder_eq] at first
    · rw [Glyph.read_cons fun here next => escaped ⟨here, next⟩] at first
      simpa [Glyph.masked] using first

theorem unescaped_hideQuotes (s : Text) : Unescaped (hideQuotes s) := by
  induction size : s.length using Nat.strongRecOn generalizing s with
  | ind n ih =>
    subst size
    cases s with
    | nil =>
      rw [hideQuotes_eq]
      exact .nil
    | cons c s =>
      by_cases escaped : c = '\\' ∧ s.head? = some '"'
      · obtain ⟨rfl, second⟩ := escaped
        cases s with
        | nil => cases second
        | cons d s =>
          cases second
          rw [hideQuotes_escaped]
          have shorter : s.length < ('\\' :: '"' :: s).length := by
            simp only [List.length_cons]
            omega
          refine List.isChain_append.2 ⟨?_, ih s.length shorter s rfl, ?_⟩
          · exact unescaped_of_not_mem (by rw [quotePlaceholder_eq]; decide)
          · rintro x last y - rfl
            simp [quotePlaceholder_eq] at last
      · have plain : c = '\\' → s.head? ≠ some '"' := fun here next => escaped ⟨here, next⟩
        rw [hideQuotes_cons plain]
        refine List.isChain_cons.2 ⟨?_, ih s.length (by simp) s rfl⟩
        rintro d first here rfl
        exact plain here (head?_hideQuotes first)

theorem head?_showQuotes {t : Text} (first : (showQuotes t).head? = some '"') :
    t.head? = some '"' := by
  cases t with
  | nil => rwa [showQuotes, Text.replaceAll_nil] at first
  | cons c t =>
    by_cases present : quotePlaceholder <+: c :: t
    · obtain ⟨rest, same⟩ := present
      rw [← same, showQuotes_placeholder] at first
      cases first
    · rwa [showQuotes_cons present] at first

theorem hideQuotes_showQuotes {t : Text} (unescaped : Unescaped t) :
    hideQuotes (showQuotes t) = t := by
  induction size : t.length using Nat.strongRecOn generalizing t with
  | ind n ih =>
    subst size
    cases t with
    | nil => rw [showQuotes, Text.replaceAll_nil, hideQuotes, Text.replaceAll_nil]
    | cons c t =>
      by_cases present : quotePlaceholder <+: c :: t
      · obtain ⟨rest, same⟩ := present
        have shorter : rest.length < (c :: t).length := by
          rw [← same, quotePlaceholder_eq, List.length_append]
          simp
        rw [← same] at unescaped ⊢
        rw [showQuotes_placeholder, hideQuotes_escaped,
          ih rest.length shorter (List.isChain_append.1 unescaped).2.1 rfl]
      · obtain ⟨apart, later⟩ := List.isChain_cons.1 unescaped
        rw [showQuotes_cons present, hideQuotes_cons, ih t.length (by simp) later rfl]
        intro here first
        exact apart _ (head?_showQuotes first) here rfl

theorem hideQuotes_of_not_mem {s : Text} (plain : '\\' ∉ s) : hideQuotes s = s :=
  Text.replaceAll_of_absent fun found => plain (found.subset (by simp))

theorem showQuotes_of_absent {t : Text} (absent : ¬quotePlaceholder <:+: t) :
    showQuotes t = t := Text.replaceAll_of_absent absent

theorem showQuotes_append_cons {a b : Text} {x : Char} (apart : x ∉ quotePlaceholder) :
    showQuotes (a ++ x :: b) = showQuotes a ++ x :: showQuotes b := by
  induction size : a.length using Nat.strongRecOn generalizing a with
  | ind n ih =>
    subst size
    cases a with
    | nil =>
      rw [List.nil_append, showQuotes_cons, showQuotes, Text.replaceAll_nil]
      · rfl
      · intro present
        rw [quotePlaceholder_eq] at present apart
        obtain ⟨rfl, -⟩ := List.cons_prefix_cons.1 present
        exact apart (by simp)
    | cons c a =>
      by_cases present : quotePlaceholder <+: c :: a
      · obtain ⟨rest, same⟩ := present
        have shorter : rest.length < (c :: a).length := by
          rw [← same, quotePlaceholder_eq, List.length_append]
          simp
        rw [← same, List.append_assoc, showQuotes_placeholder, showQuotes_placeholder,
          ih rest.length shorter rfl]
        rfl
      · have still : ¬quotePlaceholder <+: c :: (a ++ x :: b) := by
          rintro ⟨rest, same⟩
          rcases List.append_eq_append_iff.1 (same.trans (List.cons_append ..).symm) with
            ⟨u, inside, -⟩ | ⟨u, beyond, tail⟩
          · exact present ⟨u, inside.symm⟩
          · cases u with
            | nil => exact present ⟨[], by simpa using beyond⟩
            | cons y u =>
              injection tail with first
              exact apart (by simp [beyond, first])
        rw [List.cons_append, showQuotes_cons still, showQuotes_cons present,
          ih a.length (by simp) rfl]
        rfl

-- The placeholder's text without its last underscores, with which another placeholder could begin.
def mark : Text :=
  ['_', '_', 'V', 'U', 'X', '_', 'L', 'O', 'A', 'D', 'E', 'R', '_', 'E', 'S', 'C', 'A', 'P', 'E',
    'D', '_', 'Q', 'U', 'O', 'T', 'E']

def Unmarked (t : Text) : Prop := ¬mark <:+: t

theorem unmarked_of_not_mem {t : Text} (plain : '_' ∉ t) : Unmarked t :=
  fun found => plain (found.subset (by simp [mark]))

theorem mark_begins : mark <+: quotePlaceholder := by
  rw [quotePlaceholder_eq]
  exact ⟨['_', '_'], rfl⟩

-- A placeholder that begins outside of all hidden quotes would show its beginning in the text.
theorem prefix_text_of_prefix_masked {q : Text} {s : List Glyph} (part : q <:+ mark)
    (proper : q ≠ mark) (found : q <+: s.flatMap Glyph.masked) : q <+: s.flatMap Glyph.text := by
  have borderless : ∀ q ∈ mark.tails, q ≠ mark → q <+: quotePlaceholder → q = [] := by
    rw [quotePlaceholder_eq]
    decide
  induction s generalizing q with
  | nil => simpa using found
  | cons g s ih =>
    cases g with
    | char c =>
      cases q with
      | nil => exact List.nil_prefix
      | cons d q =>
        obtain ⟨rfl, later⟩ := List.cons_prefix_cons.1 found
        have shorter : q.length < mark.length := by
          have := part.length_le
          simp only [List.length_cons] at this
          omega
        refine List.cons_prefix_cons.2 ⟨rfl, ih ((List.suffix_cons d q).trans part) ?_ later⟩
        rintro rfl
        omega
    | escapedQuote =>
      have inside : q <+: quotePlaceholder := by
        refine List.prefix_of_prefix_length_le found (List.prefix_append ..) ?_
        exact part.length_le.trans mark_begins.length_le
      rw [borderless q ((List.mem_tails q mark).2 part) proper inside]
      exact List.nil_prefix

theorem showQuotes_masked {s : List Glyph} (unmarked : Unmarked (s.flatMap Glyph.text)) :
    showQuotes (s.flatMap Glyph.masked) = s.flatMap Glyph.text := by
  induction s with
  | nil => exact Text.replaceAll_nil ..
  | cons g s ih =>
    have later : Unmarked (s.flatMap Glyph.text) := by
      intro found
      rw [Unmarked, List.flatMap_cons] at unmarked
      exact unmarked (List.infix_append_of_infix_right found)
    cases g with
    | char c =>
      have here : ¬quotePlaceholder <+: c :: s.flatMap Glyph.masked := by
        intro present
        obtain ⟨rfl, behind⟩ := List.cons_prefix_cons.1 (mark_begins.trans present)
        have front :=
          prefix_text_of_prefix_masked (List.suffix_cons '_' mark.tail) (by decide) behind
        exact unmarked (List.cons_prefix_cons.2 ⟨rfl, front⟩).isInfix
      change showQuotes (c :: s.flatMap Glyph.masked) = c :: s.flatMap Glyph.text
      rw [showQuotes_cons here, ih later]
    | escapedQuote =>
      change showQuotes (quotePlaceholder ++ s.flatMap Glyph.masked) =
        '\\' :: '"' :: s.flatMap Glyph.text
      rw [showQuotes_placeholder, ih later]

end Injection
end ComponentLoader
