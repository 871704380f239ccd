import ComponentLoader.Proofs.Text.Replacement

namespace ComponentLoader
namespace Scanner

-- A text read from left to right: where an item is written it is taken, and else a character.
inductive Reading (written : Text → α → Prop) : Text → List (Piece α) → Prop where
  | nil : Reading written [] []
  | char (nothing : ∀ raw v, written raw v → ¬raw <+: c :: s) (rest : Reading written s ps) :
      Reading written (c :: s) (.char c :: ps)
  | item (here : written raw v) (rest : Reading written s ps) :
      Reading written (raw ++ s) (.item raw v :: ps)

-- The scanner answers where an item is written, and takes as much as is written.
structure Takes (scan : Scanner α) (written : Text → α → Prop) : Prop where
  ne_nil : ∀ {raw v}, written raw v → raw ≠ []
  sound : ∀ {s v rest}, scan s = some (v, rest) → ∃ raw, written raw v ∧ s = raw ++ rest
  complete : ∀ {raw v}, written raw v → ∀ rest, scan (raw ++ rest) = some (v, rest)

variable {scan : Scanner α} {written : Text → α → Prop}

theorem Takes.eq_none_iff (takes : scan.Takes written) {s : Text} :
    scan s = none ↔ ∀ raw v, written raw v → ¬raw <+: s := by
  constructor
  · rintro nothing raw v here ⟨rest, rfl⟩
    rw [takes.complete here rest] at nothing
    cases nothing
  · intro nothing
    rw [Option.eq_none_iff_forall_ne_some]
    rintro ⟨v, rest⟩ found
    obtain ⟨raw, here, rfl⟩ := takes.sound found
    exact nothing raw v here (List.prefix_append raw rest)

theorem Takes.exact (takes : scan.Takes written) : scan.Exact := by
  intro s v rest found
  obtain ⟨raw, -, rfl⟩ := takes.sound found
  exact List.suffix_append raw rest

theorem Takes.reading (takes : scan.Takes written) (s : Text) : Reading written s (scan.pieces s) := by
  induction size : s.length using Nat.strongRecOn generalizing s with
  | ind n ih =>
    subst size
    cases s with
    | nil =>
      rw [pieces_nil]
      exact .nil
    | cons c s =>
      cases found : scan (c :: s) with
      | none =>
        rw [pieces_of_none found]
        exact .char (takes.eq_none_iff.1 found) (ih s.length (Nat.lt_succ_self _) s rfl)
      | some item =>
        obtain ⟨v, rest⟩ := item
        obtain ⟨raw, here, whole⟩ := takes.sound found
        have some_ := List.length_pos_of_ne_nil (takes.ne_nil here)
        rw [whole] at found ⊢
        rw [pieces_of_some (takes.ne_nil here) found]
        refine .item here (ih rest.length ?_ rest rfl)
        rw [whole, List.length_append]
        omega

theorem Takes.eq_pieces (takes : scan.Takes written) {s : Text} {ps : List (Piece α)}
    (reading : Reading written s ps) : ps = scan.pieces s := by
  induction reading with
  | nil => exact (pieces_nil scan).symm
  | char nothing rest ih => rw [pieces_of_none (takes.eq_none_iff.2 nothing), ih]
  | item here rest ih => rw [pieces_of_some (takes.ne_nil here) (takes.complete here _), ih]

end Scanner
end ComponentLoader
