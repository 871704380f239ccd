import ComponentLoader.Text.Basic

namespace ComponentLoader

abbrev Scanner (α : Type) := Text → Option (α × Text)

inductive Piece (α : Type) where
  | char (c : Char)
  | item (raw : Text) (value : α)
  deriving DecidableEq

namespace Piece

def raw : Piece α → Text
  | char c => [c]
  | item raw _ => raw

def value? : Piece α → Option α
  | char _ => none
  | item _ v => some v

end Piece

namespace Scanner

-- An item that consumes nothing is not one.
def pieces (scan : Scanner α) : Text → List (Piece α)
  | [] => []
  | c :: s =>
    match scan (c :: s) with
    | some (v, rest) =>
      if rest.length < (c :: s).length then
        .item ((c :: s).take ((c :: s).length - rest.length)) v :: pieces scan rest
      else .char c :: pieces scan s
    | none => .char c :: pieces scan s
termination_by s => s.length
decreasing_by
  · assumption
  · exact Nat.lt_succ_self _
  · exact Nat.lt_succ_self _

def items (scan : Scanner α) (s : Text) : List α := (scan.pieces s).filterMap Piece.value?

def first? (scan : Scanner α) : Text → Option α
  | [] => (scan []).map Prod.fst
  | c :: s =>
    match scan (c :: s) with
    | some (v, _) => some v
    | none => first? scan s

def replace (scan : Scanner α) (f : (raw : Text) → α → Text) (s : Text) : Text :=
  (scan.pieces s).flatMap fun
    | .char c => [c]
    | .item raw v => f raw v

def replaceM [Monad m] (scan : Scanner α) (f : (raw : Text) → α → m Text) (s : Text) : m Text := do
  let parts ← (scan.pieces s).mapM fun
    | .char c => pure [c]
    | .item raw v => f raw v
  return parts.flatten

def Exact (scan : Scanner α) : Prop := ∀ s v rest, scan s = some (v, rest) → rest <:+ s

theorem pieces_nil (scan : Scanner α) : scan.pieces [] = [] := by
  rw [pieces]

theorem pieces_of_none {scan : Scanner α} {c : Char} {s : Text} (h : scan (c :: s) = none) :
    scan.pieces (c :: s) = .char c :: scan.pieces s := by
  rw [pieces, h]

theorem pieces_of_some {scan : Scanner α} {raw rest : Text} {v : α} (ne : raw ≠ [])
    (h : scan (raw ++ rest) = some (v, rest)) :
    scan.pieces (raw ++ rest) = .item raw v :: scan.pieces rest := by
  cases raw with
  | nil => exact absurd rfl ne
  | cons c r =>
    have lt : rest.length < (c :: (r ++ rest)).length := by
      simp only [List.length_cons, List.length_append]
      omega
    have cut : (c :: (r ++ rest)).take ((c :: (r ++ rest)).length - rest.length) = c :: r := by
      have : (c :: (r ++ rest)).length - rest.length = (c :: r).length := by
        simp only [List.length_cons, List.length_append]
        omega
      rw [this, ← List.cons_append, List.take_left']
      rfl
    rw [List.cons_append] at h ⊢
    rw [pieces, h]
    simp only [lt, if_true, cut]

theorem flatMap_raw_pieces {scan : Scanner α} (exact : scan.Exact) (s : Text) :
    (scan.pieces s).flatMap Piece.raw = s := by
  fun_induction pieces scan s with
  | case1 => rfl
  | case2 c s v rest h lt ih =>
    obtain ⟨raw, eq⟩ := exact _ _ _ h
    simp only [List.flatMap_cons, Piece.raw, ih]
    rw [← eq]
    simp
  | case3 c s v rest h lt ih => simp [Piece.raw, ih]
  | case4 c s h ih => simp [Piece.raw, ih]

end Scanner

namespace Text

def replaceAll (old new : Text) : Text → Text :=
  Scanner.replace (fun s => (dropPrefix? old s).map ((), ·)) fun _ _ => new

end Text
end ComponentLoader
