import ComponentLoader.Proofs.Text.Replacement

namespace ComponentLoader
namespace Scanner

-- The items that begin anywhere in the text, also inside of one another.
def everywhere (scan : Scanner α) : Text → List α
  | [] => []
  | c :: s => ((scan (c :: s)).map Prod.fst).toList ++ everywhere scan s

variable {scan : Scanner α}

theorem everywhere_suffix (a r : Text) : scan.everywhere r <:+ scan.everywhere (a ++ r) := by
  induction a with
  | nil => exact List.suffix_refl _
  | cons c a ih =>
    rw [List.cons_append, everywhere]
    exact ih.trans (List.suffix_append _ _)

theorem everywhere_append_eq_iff {a r : Text} :
    scan.everywhere (a ++ r) = scan.everywhere r ↔ Text.Inert scan.Begins r a := by
  induction a with
  | nil => exact iff_of_true rfl trivial
  | cons c a ih =>
    rw [Text.Inert, ← ih, List.cons_append, everywhere, Begins, Bool.not_eq_true]
    have rest := scan.everywhere_suffix a r
    cases scan (c :: (a ++ r)) with
    | none => simp
    | some item =>
      refine iff_of_false (fun same => ?_) fun both => Bool.noConfusion both.1
      have short := rest.length_le
      rw [← same] at short
      exact absurd short (Nat.not_succ_le_self _)

theorem everywhere_eq_nil_iff {t : Text} : scan.everywhere t = [] ↔ Text.Inert scan.Begins [] t := by
  rw [← everywhere_append_eq_iff, List.append_nil]
  rfl

theorem length_first_le {x : Option (α × Text)} {y : Option (β × Text)}
    (also : x.isSome = true → y.isSome = true) :
    ((x.map Prod.fst).toList).length ≤ ((y.map Prod.fst).toList).length := by
  cases x with
  | none => exact Nat.zero_le _
  | some item =>
    obtain ⟨other, same⟩ := Option.isSome_iff_exists.1 (also rfl)
    rw [same]
    exact Nat.le_refl _

theorem length_everywhere_le {other : Scanner β} (also : ∀ s, scan.Begins s → other.Begins s)
    (t : Text) : (scan.everywhere t).length ≤ (other.everywhere t).length := by
  induction t with
  | nil => exact Nat.le_refl _
  | cons c t ih =>
    rw [everywhere, everywhere, List.length_append, List.length_append]
    exact Nat.add_le_add (length_first_le (also (c :: t))) ih

end Scanner

namespace Text

theorem Inert.of_append {begins : Text → Prop} (longer : ∀ s t, begins s → begins (s ++ t))
    {a r t : Text} (inert : Inert begins (r ++ t) a) : Inert begins r a := by
  induction a with
  | nil => trivial
  | cons c a ih =>
    obtain ⟨here, later⟩ := inert
    refine ⟨fun begun => here ?_, ih later⟩
    have more := longer _ t begun
    rwa [List.cons_append, List.append_assoc] at more

def literal (p : Text) : Scanner Unit := fun s => (dropPrefix? p s).map ((), ·)

def occurrences (p t : Text) : Nat := ((literal p).everywhere t).length

theorem begins_literal {p s : Text} : (literal p).Begins s ↔ p <+: s := by
  rw [Scanner.Begins, literal, Option.isSome_map, dropPrefix?_isSome]

theorem occurrences_append_le (p a b : Text) :
    occurrences p a + occurrences p b ≤ occurrences p (a ++ b) := by
  unfold occurrences
  induction a with
  | nil => simp [Scanner.everywhere]
  | cons c a ih =>
    have here : ((literal p (c :: a)).map Prod.fst).toList.length ≤
        ((literal p (c :: (a ++ b))).map Prod.fst).toList.length := by
      refine Scanner.length_first_le fun begins => ?_
      have front := (begins_literal.1 begins).trans (List.prefix_append (c :: a) b)
      exact begins_literal.2 front
    rw [List.cons_append, Scanner.everywhere, Scanner.everywhere, List.length_append,
      List.length_append]
    omega

theorem occurrences_le_of_infix {p u t : Text} (inside : u <:+: t) :
    occurrences p u ≤ occurrences p t := by
  obtain ⟨a, b, rfl⟩ := inside
  have left := occurrences_append_le p (a ++ u) b
  have right := occurrences_append_le p a u
  omega

theorem occurrences_self_append {c : Char} {p : Text} (apart : c ∉ p) (s : Text) :
    occurrences (c :: p) (c :: p ++ s) = occurrences (c :: p) s + 1 := by
  have front : ∀ t, (literal (c :: p)).Begins t → t.head? = some c := by
    intro t begins
    obtain ⟨rest, rfl⟩ := begins_literal.1 begins
    rfl
  have rest := Scanner.everywhere_append_eq_iff.2 (inert_of_not_mem (r := s) front apart)
  have here : literal (c :: p) (c :: p ++ s) = some ((), s) := by
    rw [literal, dropPrefix?_append]
    rfl
  rw [List.cons_append] at here ⊢
  rw [occurrences, Scanner.everywhere, here, rest, List.length_append, Nat.add_comm]
  rfl

theorem occurrences_eq_zero_iff {p t : Text} (some_ : p ≠ []) :
    occurrences p t = 0 ↔ ¬p <:+: t := by
  rw [occurrences, List.length_eq_zero_iff, Scanner.everywhere_eq_nil_iff]
  induction t with
  | nil => simp [Inert, some_]
  | cons c t ih => rw [Inert, ih, List.append_nil, begins_literal, List.infix_cons_iff, not_or]

theorem exists_line {u s : Text} (some_ : u ≠ []) (single : '\n' ∉ u) (inside : u <:+: s) :
    ∃ line ∈ splitOn '\n' s, u <:+: line := by
  by_contra none_
  rw [← join_splitOn '\n' s] at inside
  refine not_infix_join single some_ (fun line member here => ?_) inside
  exact none_ ⟨line, member, here⟩

end Text
end ComponentLoader
