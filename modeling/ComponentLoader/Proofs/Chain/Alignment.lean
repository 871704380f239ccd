import ComponentLoader.Proofs.Chain.Request
import ComponentLoader.Proofs.Text.Replacement
import Mathlib.Data.List.Basic

namespace ComponentLoader
namespace Request

def rewrite (g : Text → Text) : Text → Text :=
  scanner.replace fun _ r => r.before ++ g r.chain ++ r.after

def Found.rewrite (g : Text → Text) (r : Found) : Found := { r with chain := g r.chain }

structure Fits (g : Text → Text) : Prop where
  closed : ∀ {chain}, '"' ∉ chain → '"' ∉ g chain
  bare : ∀ chain, ∃ rest, g ('!' :: '!' :: chain) = '!' :: '!' :: rest
  front : ∀ {chain}, (g chain).head? = some ')' → chain.head? = some ')'

theorem Found.IsRequest.rewrite {g : Text → Text} (fits : Fits g) {r : Found}
    (request : r.IsRequest) : (r.rewrite g).IsRequest := by
  obtain ⟨before, chain, after⟩ := r
  change Shape before chain after at request
  change Shape before (g chain) after
  cases request with
  | requireCall closed => exact .requireCall (fits.closed closed)
  | defaultImport gap₁ gap₂ gap₃ named binds closed =>
    exact .defaultImport gap₁ gap₂ gap₃ named binds (fits.closed closed)
  | bare closed =>
    rename_i chain
    obtain ⟨rest, same⟩ := fits.bare chain
    have plain : '"' ∉ '!' :: '!' :: chain := by
      simp only [List.mem_cons, not_or]
      exact ⟨by decide, by decide, closed⟩
    have closed := fits.closed plain
    change Shape _ (g ('!' :: '!' :: chain)) _
    rw [same] at closed ⊢
    refine .bare fun member => closed ?_
    exact List.mem_cons_of_mem _ (List.mem_cons_of_mem _ member)

-- Of a request only the last character of what opens it is a quote, and a quote ends its chain.
theorem Found.IsRequest.quotes {r : Found} (request : r.IsRequest) :
    '"' ∉ r.chain ∧ (∃ opening, '"' ∉ opening ∧ r.before = opening ++ ['"']) ∧
      ∃ ending, (ending = [] ∨ ending = [')']) ∧ r.after = '"' :: ending := by
  obtain ⟨before, chain, after⟩ := r
  change Shape before chain after at request
  dsimp only
  cases request with
  | requireCall closed =>
    rw [written_char, written_char]
    refine ⟨closed, ⟨"require(".toList, by decide, by simp⟩, [')'], .inr rfl, by simp⟩
  | defaultImport gap₁ gap₂ gap₃ named binds closed =>
    have quiet : ∀ {g : Text}, IsGap g → '"' ∉ g := by
      intro g gap member
      have blank := gap.2 _ member
      revert blank
      decide
    have name : ¬isBindingChar '"' = true := by decide
    repeat rw [written_char]
    refine ⟨closed, ⟨_, ?_, rfl⟩, [], .inl rfl, rfl⟩
    simp only [List.mem_append, not_or]
    refine ⟨⟨⟨⟨⟨?_, quiet gap₁⟩, fun member => name (binds _ member)⟩, quiet gap₂⟩, ?_⟩, quiet gap₃⟩
    · decide
    · decide
  | bare closed =>
    rw [written_char, written_char]
    refine ⟨?_, ⟨[], by simp, rfl⟩, [], .inl rfl, rfl⟩
    simp only [List.cons_append, List.nil_append, List.mem_cons, not_or]
    exact ⟨by decide, by decide, closed⟩

theorem Found.IsRequest.text_ne_nil {r : Found} (request : r.IsRequest) : r.text ≠ [] := by
  obtain ⟨-, ⟨opening, -, before⟩, -⟩ := request.quotes
  simp [Found.text, before]

theorem Found.IsRequest.head? {r : Found} (request : r.IsRequest) :
    ∃ c ∈ ['r', 'i', '"'], r.before.head? = some c := by
  obtain ⟨before, chain, after⟩ := r
  change Shape before chain after at request
  dsimp only
  cases request with
  | requireCall closed => exact ⟨'r', by simp, by simp⟩
  | defaultImport gap₁ gap₂ gap₃ named binds closed => exact ⟨'i', by simp, by simp⟩
  | bare closed => exact ⟨'"', by simp, by simp⟩

-- A source beside the same source with its chains rewritten.
inductive Rewritten (g : Text → Text) : Text → Text → Prop where
  | nil : Rewritten g [] []
  | char (nothing : scanner (c :: s) = none) (rest : Rewritten g s t) :
      Rewritten g (c :: s) (c :: t)
  | request {r : Found} (request : r.IsRequest) (rest : Rewritten g s t) :
      Rewritten g (r.text ++ s) ((r.rewrite g).text ++ t)

theorem rewrite_nil (g : Text → Text) : Request.rewrite g [] = [] := Scanner.replace_nil

theorem rewrite_cons {g : Text → Text} {c : Char} {s : Text} (nothing : scanner (c :: s) = none) :
    Request.rewrite g (c :: s) = c :: Request.rewrite g s :=
  Scanner.replace_of_none nothing

theorem rewrite_append {g : Text → Text} {r : Found} (request : r.IsRequest) (s : Text) :
    Request.rewrite g (r.text ++ s) = (r.rewrite g).text ++ Request.rewrite g s :=
  Scanner.replace_of_some request.text_ne_nil (scanner_eq_some.2 ⟨request, rfl⟩)

@[elab_as_elim]
theorem reading_induction {motive : Text → Prop} (nil : motive [])
    (char : ∀ {c s}, scanner (c :: s) = none → motive s → motive (c :: s))
    (request : ∀ {r : Found} {s}, r.IsRequest → motive s → motive (r.text ++ s)) (s : Text) :
    motive s := by
  induction size : s.length using Nat.strongRecOn generalizing s with
  | ind n ih =>
    subst size
    cases s with
    | nil => exact nil
    | cons c s =>
      cases found : scanner (c :: s) with
      | none => exact char found (ih s.length (by simp) s rfl)
      | some item =>
        obtain ⟨r, rest⟩ := item
        obtain ⟨whole, same⟩ := scanner_eq_some.1 found
        have shorter : rest.length < (c :: s).length := by
          have := List.length_pos_iff.2 whole.text_ne_nil
          rw [same, List.length_append]
          omega
        rw [same]
        exact request whole (ih rest.length shorter rest rfl)

theorem rewritten_rewrite (g : Text → Text) (s : Text) : Rewritten g s (Request.rewrite g s) := by
  induction s using reading_induction with
  | nil =>
    rw [rewrite_nil]
    exact .nil
  | char nothing ih =>
    rw [rewrite_cons nothing]
    exact .char nothing ih
  | request request ih =>
    rw [rewrite_append request]
    exact .request request ih

theorem Rewritten.head? {g : Text → Text} {s t : Text} (path : Rewritten g s t) :
    t.head? = s.head? := by
  cases path with
  | nil => rfl
  | char nothing rest => rfl
  | request request rest =>
    obtain ⟨c, -, first⟩ := request.head?
    simp [Found.text, Found.rewrite, first]

-- What follows a quote of a rewritten source: the rest of it, or the inside of a request.
def Behind (g : Text → Text) (s t : Text) : Prop :=
  Rewritten g s t ∨ ∃ chain ending s₀ t₀, '"' ∉ chain ∧ (ending = [] ∨ ending = [')']) ∧
    s = chain ++ '"' :: (ending ++ s₀) ∧ t = g chain ++ '"' :: (ending ++ t₀) ∧ Rewritten g s₀ t₀

theorem Rewritten.quote {g : Text → Text} {s t a t₁ : Text} (path : Rewritten g s t)
    (first : '"' ∉ a) (cut : t = a ++ '"' :: t₁) : ∃ s₁, s = a ++ '"' :: s₁ ∧ Behind g s₁ t₁ := by
  induction path generalizing a with
  | nil => simp at cut
  | @char c s t nothing rest ih =>
    cases a with
    | nil =>
      injection cut with here later
      subst here later
      exact ⟨s, rfl, .inl rest⟩
    | cons x a =>
      injection cut with here later
      subst here
      rw [List.mem_cons, not_or] at first
      obtain ⟨s₁, rfl, behind⟩ := ih first.2 later
      exact ⟨s₁, rfl, behind⟩
  | @request s t r request rest ih =>
    obtain ⟨closed, ⟨opening, quiet, before⟩, ending, kind, after⟩ := request.quotes
    simp only [Found.text, Found.rewrite, before, after, List.append_assoc, List.cons_append,
      List.nil_append] at cut ⊢
    obtain ⟨rfl, rfl⟩ := Text.append_cons_inj quiet first cut
    exact ⟨_, rfl, .inr ⟨r.chain, ending, s, t, closed, kind, rfl, rfl, rest⟩⟩

theorem Behind.head? {g : Text → Text} {s t : Text} (fits : Fits g) (behind : Behind g s t)
    (ends : t.head? = some ')') : s.head? = some ')' := by
  rcases behind with path | ⟨chain, ending, s₀, t₀, -, -, rfl, rfl, -⟩
  · rwa [← path.head?]
  · cases made : g chain with
    | nil => simp [made] at ends
    | cons c rest =>
      rw [made] at ends
      have front : chain.head? = some ')' := fits.front (by rw [made]; exact ends)
      rw [List.head?_append, front]
      rfl

theorem Behind.quote {g : Text → Text} {s t a t₁ : Text} (fits : Fits g) (behind : Behind g s t)
    (first : '"' ∉ a) (cut : t = a ++ '"' :: t₁) :
    ∃ b s₁, '"' ∉ b ∧ s = b ++ '"' :: s₁ ∧ (t₁.head? = some ')' → s₁.head? = some ')') := by
  rcases behind with path | ⟨chain, ending, s₀, t₀, closed, kind, rfl, same, path⟩
  · obtain ⟨s₁, same, behind⟩ := path.quote first cut
    exact ⟨a, s₁, first, same, behind.head? fits⟩
  · rw [same] at cut
    obtain ⟨rfl, rfl⟩ := Text.append_cons_inj (fits.closed closed) first cut
    refine ⟨chain, _, closed, rfl, ?_⟩
    rcases kind with rfl | rfl
    · intro ends
      simpa [path.head?] using ends
    · exact fun _ => rfl

theorem Rewritten.exclamation {g : Text → Text} {s t : Text} (path : Rewritten g s ('!' :: t)) :
    ∃ s₁, s = '!' :: s₁ ∧ Rewritten g s₁ t := by
  generalize cut : '!' :: t = u at path
  cases path with
  | nil => cases cut
  | @char c s₁ t₁ nothing rest =>
    injection cut with here later
    subst here later
    exact ⟨s₁, rfl, rest⟩
  | @request s₁ t₁ r request rest =>
    obtain ⟨c, kind, first⟩ := request.head?
    have front : (some '!' : Option Char) = some c := by
      have heads := congrArg List.head? cut
      simpa [Found.text, Found.rewrite, first] using heads
    cases front
    simp at kind

theorem Shape.exchange {before chain after other : Text} (shape : Shape before chain after)
    (full : before ≠ ['"']) (closed : '"' ∉ other) : Shape before other after := by
  cases shape with
  | requireCall => exact .requireCall closed
  | defaultImport gap₁ gap₂ gap₃ named binds =>
    exact .defaultImport gap₁ gap₂ gap₃ named binds closed
  | bare => exact absurd rfl full

theorem Shape.of_bare {chain after : Text} (shape : Shape ['"'] chain after) :
    ∃ rest, '"' ∉ rest ∧ chain = '!' :: '!' :: rest ∧ after = ['"'] := by
  generalize opened : ['"'] = before at shape
  cases shape with
  | requireCall =>
    rw [written_char] at opened
    simp at opened
  | defaultImport =>
    repeat rw [written_char] at opened
    simp at opened
  | bare closed => exact ⟨_, closed, rfl, rfl⟩

-- Where no request began, none begins after the rewriting.
theorem scanner_rewritten {g : Text → Text} {c : Char} {s t : Text} (fits : Fits g)
    (nothing : scanner (c :: s) = none) (path : Rewritten g s t) : scanner (c :: t) = none := by
  have impossible : ∀ {r : Found} {u : Text}, r.IsRequest → c :: s ≠ r.text ++ u := by
    intro r u request same
    rw [scanner_eq_some.2 ⟨request, same⟩] at nothing
    cases nothing
  rw [Option.eq_none_iff_forall_ne_some]
  rintro ⟨⟨before, chain, after⟩, rest⟩ found
  obtain ⟨request, same⟩ := scanner_eq_some.1 found
  obtain ⟨closed, ⟨opening, quiet, opened⟩, ending, kind, ended⟩ := request.quotes
  dsimp only at closed opened ended
  subst opened ended
  cases opening with
  | nil =>
    obtain ⟨u, plain, rfl, -⟩ := Shape.of_bare request
    simp only [Found.text, List.append_assoc, List.cons_append, List.nil_append,
      List.cons.injEq] at same
    obtain ⟨rfl, rfl⟩ := same
    obtain ⟨s₁, first, path₁⟩ := path.exclamation
    obtain ⟨s₂, second, path₂⟩ := path₁.exclamation
    obtain ⟨s₃, third, -⟩ := path₂.quote plain rfl
    refine impossible (r := ⟨['"'], '!' :: '!' :: u, ['"']⟩) (u := s₃) (.bare plain) ?_
    simp [Found.text, first, second, third]
  | cons x b =>
    simp only [Found.text, List.append_assoc, List.cons_append, List.nil_append,
      List.cons.injEq] at same
    obtain ⟨rfl, rfl⟩ := same
    rw [List.mem_cons, not_or] at quiet
    obtain ⟨s₁, rfl, behind⟩ := path.quote quiet.2 rfl
    obtain ⟨other, s₂, plain, rfl, ends⟩ := behind.quote fits closed rfl
    have first : ∃ s₃, s₂ = ending ++ s₃ := by
      rcases kind with rfl | rfl
      · exact ⟨s₂, rfl⟩
      · have front := ends rfl
        cases s₂ with
        | nil => cases front
        | cons y s₃ =>
          cases front
          exact ⟨s₃, rfl⟩
    obtain ⟨s₃, rfl⟩ := first
    refine impossible (r := ⟨c :: b ++ ['"'], other, '"' :: ending⟩) (u := s₃)
      (Shape.exchange request (by simp) plain) ?_
    simp [Found.text]

-- Two rewritings in a row come to one, since the second finds the requests of the source.
theorem rewrite_rewrite {g h : Text → Text} (fits : Fits g) (s : Text) :
    Request.rewrite h (Request.rewrite g s) = Request.rewrite (h ∘ g) s := by
  have run : ∀ {s t : Text}, Rewritten g s t →
      Request.rewrite h t = Request.rewrite (h ∘ g) s := by
    intro s t path
    induction path with
    | nil => rw [rewrite_nil, rewrite_nil]
    | char nothing rest ih =>
      rw [rewrite_cons nothing, rewrite_cons (scanner_rewritten fits nothing rest), ih]
    | request request rest ih =>
      rw [rewrite_append request, rewrite_append (request.rewrite fits), ih]
      rfl
  exact run (rewritten_rewrite g s)

end Request
end ComponentLoader
