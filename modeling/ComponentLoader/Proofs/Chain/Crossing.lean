import ComponentLoader.Proofs.Chain.Order

namespace ComponentLoader

namespace Request

-- Two imports behind a call that is not closed. Once the first chain begins with a parenthesis the
-- call is, and what stands before the second chain becomes a chain in its place.
def crossed (first second : Text) : Text :=
  "require(".toList ++ '"' :: ("import a from ".toList ++ '"' :: (first ++ '"' ::
    ('!' :: '!' :: "import a from ".toList ++ '"' :: (second ++ ['"']))))

theorem rewrite_import (g : Text → Text) {chain : Text} (closed : '"' ∉ chain) (s : Text) :
    Request.rewrite g ("import a from ".toList ++ '"' :: (chain ++ '"' :: s)) =
      "import a from ".toList ++ '"' :: (g chain ++ '"' :: Request.rewrite g s) := by
  have found := rewrite_append (g := g) (isRequest_import closed) s
  simpa only [Found.text, Found.rewrite, List.append_assoc, List.cons_append, List.nil_append]
    using found

theorem rewrite_crossed (g : Text → Text) {first second : Text} (closed : '"' ∉ first)
    (closed' : '"' ∉ second) (some_ : first ≠ []) (front : first.head? ≠ some ')') :
    Request.rewrite g (crossed first second) = crossed (g first) (g second) := by
  have other : (first ++ '"' :: ('!' :: '!' :: "import a from ".toList ++
      '"' :: (second ++ ['"']))).head? ≠ some ')' := by
    rwa [List.head?_append_of_ne_nil _ some_]
  have marks : Text.Apart ['!', '!'] ['r', 'i', '"'] := Text.apart_of_any (by decide)
  have behind := rewrite_append_of_apart g marks
    ("import a from ".toList ++ '"' :: (second ++ '"' :: []))
  rw [rewrite_import g closed', rewrite_nil] at behind
  unfold crossed
  rw [rewrite_of_unclosed g (by decide) (by decide) (by simp; decide) (by simp) other,
    rewrite_import g closed]
  exact congrArg (fun t => _ ++ '"' :: (_ ++ '"' :: (_ ++ '"' :: t))) behind

theorem rewrite_crossed_of_front {g : Text → Text} {first second : Text} (closed : '"' ∉ first)
    (closed' : '"' ∉ second) (front : first.head? = some ')') (other : second.head? ≠ some ')')
    (some_ : second ≠ [])
    (inner : g "import a from ".toList = "import a from ".toList)
    (bare : g ('!' :: '!' :: "import a from ".toList) = '!' :: '!' :: "import a from ".toList) :
    Request.rewrite g (crossed first second) = crossed first second := by
  obtain ⟨rest, rfl⟩ : ∃ rest, first = ')' :: rest := by
    cases first with
    | nil => cases front
    | cons c rest =>
      cases front
      exact ⟨rest, rfl⟩
  rw [List.mem_cons, not_or] at closed
  have open_ : '"' ∉ "import a from ".toList := by decide
  have next : (second ++ ['"']).head? ≠ some ')' := by rwa [List.head?_append_of_ne_nil _ some_]
  have call := rewrite_call g (rest ++ '"' :: ('!' :: '!' :: "import a from ".toList ++
    '"' :: (second ++ ['"']))) open_
  rw [rewrite_of_two_quotes g closed.2 open_ next, rewrite_of_one_quote g closed', inner, bare]
    at call
  exact call

theorem crossed_right_injective {first a b : Text} (same : crossed first a = crossed first b) :
    a = b := by
  unfold crossed at same
  generalize "import a from ".toList = t at same
  simpa using same

end Request

namespace Settings
open Injection

variable {s : Settings} {theme : ThemeVariables} {i : Injection}

theorem theme_eq_none (member : i ∈ s.injections theme) (plain : i.block ≠ .style) :
    i.theme = none := by
  obtain ⟨-, -, -, style⟩ := parts_of_mem member
  cases given : i.theme with
  | none => rfl
  | some handed => exact absurd (style handed given).2.1 plain

theorem marker_reference_iff (a b : Block) : a.marker <:+: reference b ↔ a = b := by
  cases a <;> cases b <;> decide

def crossing (a b : Block) : Text := Request.crossed (reference a) (reference b)

theorem crossing_plain (a b : Block) : Unmarked (crossing a b) ∧ Unescaped (crossing a b) ∧
    ∀ c, c ≠ a → c ≠ b → ¬c.marker <:+: crossing a b := by
  have apart : '\\' ∉ crossing a b ∧ '_' ∉ crossing a b := by cases a <;> cases b <;> decide
  have unescaped := unescaped_hideQuotes (crossing a b)
  rw [hideQuotes_of_not_mem apart.1] at unescaped
  refine ⟨unmarked_of_not_mem apart.2, unescaped, ?_⟩
  intro c
  cases a <;> cases b <;> cases c <;> decide +kernel

theorem singleBlock_of_crossing {a b : Block} {chain : Text}
    (member : chain ∈ chains (crossing a b)) : SingleBlock chain := by
  obtain ⟨unmarked, unescaped, -⟩ := crossing_plain a b
  obtain ⟨r, found, rfl⟩ := List.mem_map.1 member
  rw [hideQuotes_eq_self unmarked unescaped] at found
  obtain ⟨part, closed⟩ := Request.mem_items found
  have asked : ∀ c, SingleBlock (reference c) := fun c =>
    singleBlock_of_only fun d differs marked => differs ((marker_reference_iff d c).1 marked)
  unfold crossing Request.crossed at part
  rw [Text.infix_append_cons closed, Text.infix_append_cons closed, Text.infix_append_cons closed,
    Text.infix_append_cons closed, Text.infix_append_cons closed] at part
  rcases part with part | part | part | part | part | part
  · exact (singleBlock_of_none (by decide)).of_part part
  · exact (singleBlock_of_none (by decide)).of_part part
  · exact (asked a).of_part part
  · exact (singleBlock_of_none (by decide)).of_part part
  · exact (asked b).of_part part
  · exact (singleBlock_of_none (by decide)).of_part part

theorem extend_reference_of_ne {b : Block} (differs : i.block ≠ b) :
    i.extend (reference b) = reference b :=
  extend_of_other fun found => differs ((marker_reference_iff _ _).1 found)

theorem rewrite_crossing (i : Injection) {a b : Block} :
    Request.rewrite i.extend (crossing a b) =
      Request.crossed (i.extend (reference a)) (i.extend (reference b)) :=
  Request.rewrite_crossed i.extend (reference_plain a).1 (reference_plain b).1
    (by simp [reference]) (by simp [reference])

theorem rewrite_crossed_reference (i : Injection) {first : Text} (closed : '"' ∉ first)
    (front : first.head? = some ')') (b : Block) :
    Request.rewrite i.extend (Request.crossed first (reference b)) =
      Request.crossed first (reference b) := by
  refine Request.rewrite_crossed_of_front closed (reference_plain b).1 front (by simp [reference])
    (by simp [reference]) (extend_of_other ?_) (extend_of_other ?_)
  all_goals cases i.block <;> decide

-- A stage that begins with a parenthesis takes the request behind it out of the other pass's sight.
theorem inject_crossing_ne (separate : s.Separate theme) (member : i ∈ s.injections theme)
    {j : Injection} (other : j ∈ s.injections theme) (differs : i.block ≠ j.block)
    (plain : j.block ≠ .style) (front : i.stage.head? = some ')') :
    j.inject (i.inject (crossing i.block j.block)) ≠
      i.inject (j.inject (crossing i.block j.block)) := by
  have closed := separate.closed member
  have closed' := separate.closed other
  obtain ⟨unmarked, unescaped, -⟩ := crossing_plain i.block j.block
  have shown := (showQuotes_eq_self unmarked).symm
  have stage : j.stage ∈ Text.splitOn '!' (j.extend (reference j.block)) :=
    stage_mem_extend closed'.stage.separator (fun style => absurd style plain)
      (selector?_reference j.block)
  have kept : i.extend (j.extend (reference j.block)) = j.extend (reference j.block) := by
    refine extend_of_other fun found => ?_
    have absent : ¬i.block.marker <:+: reference j.block :=
      fun found => differs ((marker_reference_iff _ _).1 found)
    obtain ⟨handed, given, -⟩ := spells_of_extend (separate.markless other) absent found
    rw [theme_eq_none other plain] at given
    cases given
  obtain ⟨early, unescaped₁⟩ := inject_eq closed unescaped (rewrite_crossing i)
  rw [extend_reference_of_ne differs] at early unescaped₁
  obtain ⟨lost, unescaped₂⟩ := inject_eq closed' unescaped₁ (rewrite_crossed_reference j
    (not_mem_extend closed (reference_plain i.block).1) (head?_extend_reference front) j.block)
  obtain ⟨found, unescaped₃⟩ := inject_eq closed' unescaped (rewrite_crossing j)
  rw [extend_reference_of_ne differs.symm] at found unescaped₃
  obtain ⟨late, unescaped₄⟩ := inject_eq closed unescaped₃ (Request.rewrite_crossed i.extend
    (reference_plain i.block).1 (not_mem_extend closed' (reference_plain j.block).1)
    (by simp [reference]) (by simp [reference]))
  rw [kept] at late unescaped₄
  intro same
  rw [shown, early, lost, found, late] at same
  have whole := Request.crossed_right_injective (showQuotes_injective unescaped₂ unescaped₄ same)
  rw [← whole, Text.splitOn_of_not_mem (reference_plain j.block).2.1, List.mem_singleton] at stage
  refine (separate.markless other).stage j.block ?_
  rw [stage, marker_reference_iff]

end Settings
end ComponentLoader
