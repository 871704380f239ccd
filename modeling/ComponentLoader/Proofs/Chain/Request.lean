import ComponentLoader.Chain.Request
import ComponentLoader.Proofs.Text.Classes
import ComponentLoader.Proofs.Text.Search

namespace ComponentLoader

-- What a source is read by. Characters are one choice of symbols; a reading that takes escaped
-- quotes for single symbols is another.
class Symbol (σ : Type) where
  ofChar : Char → σ
  Binds : σ → Prop

namespace Request
open ComponentLoader.Symbol

instance : Symbol Char where
  ofChar := id
  Binds c := isBindingChar c = true

def written [Symbol σ] (t : Text) : List σ := t.map ofChar

@[simp] theorem written_char (t : Text) : (written t : List Char) = t := List.map_id t

def IsGap (gap : Text) : Prop := gap ≠ [] ∧ ∀ c ∈ gap, isBlank c = true

inductive Shape [Symbol σ] : List σ → List σ → List σ → Prop where
  | requireCall (closed : ofChar '"' ∉ chain) :
      Shape (written "require(\"".toList) chain (written "\")".toList)
  | defaultImport (gap₁ : IsGap g₁) (gap₂ : IsGap g₂) (gap₃ : IsGap g₃) (named : binding ≠ [])
      (binds : ∀ x ∈ binding, Binds x) (closed : ofChar '"' ∉ chain) :
      Shape (written "import".toList ++ written g₁ ++ binding ++ written g₂ ++
        written "from".toList ++ written g₃ ++ written ['"']) chain (written ['"'])
  | bare (closed : ofChar '"' ∉ chain) :
      Shape (written ['"']) (written ['!', '!'] ++ chain) (written ['"'])

def Found.text (r : Found) : Text := r.before ++ r.chain ++ r.after

def Found.IsRequest (r : Found) : Prop := Shape r.before r.chain r.after

theorem eq_of_quoted {before after s rest : Text} {r : Found}
    (found : quoted before after s = some (r, rest)) :
    ∃ chain, '"' ∉ chain ∧ r = ⟨before, chain, after⟩ ∧ s = chain ++ after ++ rest := by
  unfold quoted at found
  obtain ⟨u, behind, same⟩ := Option.map_eq_some_iff.1 found
  cases same
  refine ⟨s.takeWhile (· ≠ '"'), ?_, rfl, ?_⟩
  · intro member
    simpa using List.mem_takeWhile_imp member
  · rw [List.append_assoc, ← Text.dropPrefix?_eq_some.1 behind, List.takeWhile_append_dropWhile]

theorem quoted_append (before after : Text) {chain : Text} (rest : Text) (closed : '"' ∉ chain) :
    quoted before ('"' :: after) (chain ++ '"' :: (after ++ rest)) =
      some (⟨before, chain, '"' :: after⟩, rest) := by
  have plain : ∀ c ∈ chain, decide (c ≠ '"') = true := by
    intro c member
    simpa using fun same : c = '"' => closed (same ▸ member)
  unfold quoted
  rw [Text.dropWhile_append_cons plain (by simp), Text.takeWhile_append_cons plain (by simp),
    ← List.cons_append, Text.dropPrefix?_append]
  rfl

theorem run_eq_some {p : Char → Bool} {s g rest : Text} (found : run p s = some (g, rest)) :
    s = g ++ rest ∧ g ≠ [] ∧ ∀ c ∈ g, p c = true := by
  unfold run at found
  split at found
  · cases found
  · next some =>
    cases found
    exact ⟨List.takeWhile_append_dropWhile.symm, some,
      fun c member => List.mem_takeWhile_imp member⟩

theorem run_append {p : Char → Bool} {g rest : Text} (ne : g ≠ []) (all : ∀ c ∈ g, p c = true)
    (stop : ∀ x ∈ rest.head?, p x = false) : run p (g ++ rest) = some (g, rest) := by
  cases rest with
  | nil =>
    have taken := List.takeWhile_eq_self_iff.2 all
    have dropped := List.dropWhile_eq_nil_iff.2 all
    simp [run, taken, dropped, ne]
  | cons x rest =>
    have stop := stop x rfl
    unfold run
    rw [Text.takeWhile_append_cons all stop, Text.dropWhile_append_cons all stop, if_neg ne]

theorem isBindingChar_of_isBlank {c : Char} (blank : isBlank c = true) :
    isBindingChar c = false := by
  have dollar : c ≠ '$' := by
    rintro rfl
    revert blank
    decide
  simp [isBindingChar, isWordChar_of_isBlank blank, dollar]

theorem not_isBlank_of_isBindingChar {c : Char} (binds : isBindingChar c = true) :
    isBlank c = false := by
  cases blank : isBlank c with
  | false => rfl
  | true =>
    rw [isBindingChar_of_isBlank blank] at binds
    cases binds

theorem eq_of_requireCall {s rest : Text} {r : Found} (found : requireCall s = some (r, rest)) :
    r.IsRequest ∧ s = r.text ++ rest := by
  unfold requireCall at found
  split at found
  · next u opened =>
    obtain ⟨chain, closed, rfl, rfl⟩ := eq_of_quoted found
    refine ⟨.requireCall closed, ?_⟩
    rw [Text.dropPrefix?_eq_some.1 opened]
    simp only [Found.text, List.append_assoc]
  · cases found

theorem requireCall_append {chain : Text} (rest : Text) (closed : '"' ∉ chain) :
    requireCall ("require(\"".toList ++ chain ++ "\")".toList ++ rest) =
      some (⟨"require(\"".toList, chain, "\")".toList⟩, rest) := by
  have ending : "\")".toList = '"' :: [')'] := by simp
  rw [List.append_assoc, List.append_assoc, requireCall, Text.dropPrefix?_append, ending]
  exact quoted_append _ [')'] rest closed

theorem eq_of_bare {s rest : Text} {r : Found} (found : bare s = some (r, rest)) :
    r.IsRequest ∧ s = r.text ++ rest := by
  unfold bare at found
  split at found
  · next u =>
    obtain ⟨chain, closed, rfl, same⟩ := eq_of_quoted found
    match chain, same with
    | a :: b :: chain, same =>
      injection same with first same
      injection same with second same
      subst first second
      have inner : '"' ∉ chain := fun member => closed (by simp [member])
      refine ⟨.bare inner, ?_⟩
      simp [Found.text, same]
    | [a], same => simp at same
    | [], same => simp at same
  · cases found

theorem bare_append {chain : Text} (rest : Text) (closed : '"' ∉ chain) :
    bare (['"'] ++ (['!', '!'] ++ chain) ++ ['"'] ++ rest) =
      some (⟨['"'], ['!', '!'] ++ chain, ['"']⟩, rest) := by
  have closed : '"' ∉ '!' :: '!' :: chain := by simpa using closed
  have found := quoted_append ['"'] [] rest closed
  simpa [bare] using found

theorem eq_of_defaultImport {s rest : Text} {r : Found}
    (found : defaultImport s = some (r, rest)) : r.IsRequest ∧ s = r.text ++ rest := by
  simp only [defaultImport, Option.bind_eq_bind, Option.bind_eq_some_iff] at found
  obtain ⟨u₁, import_, ⟨g₁, u₂⟩, gap₁, ⟨binding, u₃⟩, name, ⟨g₂, u₄⟩, gap₂, u₅, from_, ⟨g₃, u₆⟩,
    gap₃, u₇, open_, found⟩ := found
  obtain ⟨chain, closed, rfl, rfl⟩ := eq_of_quoted found
  obtain ⟨rfl, some₁, blank₁⟩ := run_eq_some gap₁
  obtain ⟨rfl, named, binds⟩ := run_eq_some name
  obtain ⟨rfl, some₂, blank₂⟩ := run_eq_some gap₂
  obtain ⟨rfl, some₃, blank₃⟩ := run_eq_some gap₃
  rw [Text.dropPrefix?_eq_some] at import_ from_ open_
  subst import_ from_ open_
  have shape := Shape.defaultImport (σ := Char) ⟨some₁, blank₁⟩ ⟨some₂, blank₂⟩ ⟨some₃, blank₃⟩
    named binds closed
  simp only [written_char] at shape
  exact ⟨shape, by simp only [Found.text, List.append_assoc]⟩

theorem defaultImport_append {g₁ g₂ g₃ binding chain : Text} (rest : Text) (gap₁ : IsGap g₁)
    (gap₂ : IsGap g₂) (gap₃ : IsGap g₃) (named : binding ≠ [])
    (binds : ∀ c ∈ binding, isBindingChar c = true) (closed : '"' ∉ chain) :
    defaultImport ("import".toList ++ g₁ ++ binding ++ g₂ ++ "from".toList ++ g₃ ++ ['"'] ++ chain ++
        ['"'] ++ rest) =
      some (⟨"import".toList ++ g₁ ++ binding ++ g₂ ++ "from".toList ++ g₃ ++ ['"'], chain, ['"']⟩,
        rest) := by
  obtain ⟨some₁, blank₁⟩ := gap₁
  obtain ⟨some₂, blank₂⟩ := gap₂
  obtain ⟨some₃, blank₃⟩ := gap₃
  have step₁ : ∀ u, run isBlank (g₁ ++ (binding ++ u)) = some (g₁, binding ++ u) := by
    intro u
    apply run_append some₁ blank₁
    intro x first
    apply not_isBlank_of_isBindingChar
    cases binding with
    | nil => exact absurd rfl named
    | cons b bs =>
      cases first
      exact binds _ (by simp)
  have step₂ : ∀ u, run isBindingChar (binding ++ (g₂ ++ u)) = some (binding, g₂ ++ u) := by
    intro u
    apply run_append named binds
    intro x first
    apply isBindingChar_of_isBlank
    cases g₂ with
    | nil => exact absurd rfl some₂
    | cons w ws =>
      cases first
      exact blank₂ _ (by simp)
  have step₃ : ∀ u, run isBlank (g₂ ++ ("from".toList ++ u)) = some (g₂, "from".toList ++ u) := by
    intro u
    apply run_append some₂ blank₂
    have plain : isBlank 'f' = false := by decide
    simpa using plain
  have step₄ : ∀ u, run isBlank (g₃ ++ (['"'] ++ u)) = some (g₃, ['"'] ++ u) := by
    intro u
    apply run_append some₃ blank₃
    intro x first
    cases first
    decide
  simp only [defaultImport, List.append_assoc, Text.dropPrefix?_append, Option.bind_eq_bind,
    Option.bind_some, step₁, step₂, step₃, step₄]
  exact quoted_append _ [] rest closed

theorem requireCall_eq_none {s : Text} (other : s.head? ≠ some 'r') : requireCall s = none := by
  cases s with
  | nil => simp [requireCall, Text.dropPrefix?]
  | cons c s =>
    have differs : 'r' ≠ c := fun same => other (by rw [← same, List.head?_cons])
    simp [requireCall, Text.dropPrefix?, differs]

theorem defaultImport_eq_none {s : Text} (other : s.head? ≠ some 'i') : defaultImport s = none := by
  cases s with
  | nil => simp [defaultImport, Text.dropPrefix?]
  | cons c s =>
    have differs : 'i' ≠ c := fun same => other (by rw [← same, List.head?_cons])
    simp [defaultImport, Text.dropPrefix?, differs]

-- The scanner finds the requests and nothing else, and what stands behind one has no say in it.
theorem scanner_eq_some {s rest : Text} {r : Found} :
    scanner s = some (r, rest) ↔ r.IsRequest ∧ s = r.text ++ rest := by
  unfold scanner
  constructor
  · intro found
    rw [Option.or_eq_some_iff, Option.or_eq_some_iff] at found
    rcases found with found | ⟨-, found | ⟨-, found⟩⟩
    · exact eq_of_requireCall found
    · exact eq_of_defaultImport found
    · exact eq_of_bare found
  · rintro ⟨request, rfl⟩
    obtain ⟨before, chain, after⟩ := r
    change Shape before chain after at request
    unfold Found.text
    cases request with
    | requireCall closed =>
      rw [written_char, written_char, requireCall_append rest closed, Option.some_or]
    | defaultImport gap₁ gap₂ gap₃ named binds closed =>
      repeat rw [written_char]
      rw [requireCall_eq_none, Option.none_or,
        defaultImport_append rest gap₁ gap₂ gap₃ named binds closed, Option.some_or]
      simp
    | bare closed =>
      rw [written_char, written_char, requireCall_eq_none, Option.none_or, defaultImport_eq_none,
        Option.none_or, bare_append rest closed]
      · simp
      · simp

end Request
end ComponentLoader
