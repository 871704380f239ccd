import ComponentLoader.Text.Piece
import ComponentLoader.Proofs.Text.Search

namespace ComponentLoader

theorem ok_of_bind {x : Except ε α} {f : α → Except ε β} {b : β} (ok : x >>= f = .ok b) :
    ∃ a, x = .ok a ∧ f a = .ok b := by
  cases x with
  | error e => cases ok
  | ok a => exact ⟨a, rfl, ok⟩

theorem mapM_ok {f : α → Except ε β} {g : α → β} {l : List α} (ok : ∀ a ∈ l, f a = .ok (g a)) :
    l.mapM f = .ok (l.map g) := by
  induction l with
  | nil => rfl
  | cons a l ih =>
    rw [List.mapM_cons, ok a (by simp), ih fun b member => ok b (List.mem_cons_of_mem a member)]
    rfl

theorem mapM_of_pure [Monad m] [LawfulMonad m] {f : α → m β} {g : α → β}
    (answers : ∀ a, f a = pure (g a)) (l : List α) : l.mapM f = pure (l.map g) := by
  rw [funext answers, List.mapM_pure]

theorem mapM_eq_findSome? {f : α → Except ε β} {g : α → β} (bad : α → Option ε)
    (step : ∀ a, f a = (bad a).elim (.ok (g a)) .error) (l : List α) :
    l.mapM f = (l.findSome? bad).elim (.ok (l.map g)) .error := by
  induction l with
  | nil => rfl
  | cons a l ih =>
    rw [List.mapM_cons, step a, ih, List.findSome?_cons]
    cases bad a with
    | some e => rfl
    | none =>
      cases l.findSome? bad with
      | some e => rfl
      | none => rfl

namespace Text

-- Nothing of the kind begins in the text when `r` follows it.
def Inert (begins : Text → Prop) (r : Text) : Text → Prop
  | [] => True
  | c :: t => ¬begins (c :: (t ++ r)) ∧ Inert begins r t

variable {begins : Text → Prop}

theorem inert_append {r t u : Text} :
    Inert begins r (t ++ u) ↔ Inert begins (u ++ r) t ∧ Inert begins r u := by
  induction t with
  | nil => simp [Inert]
  | cons c t ih => rw [List.cons_append, Inert, Inert, ih, List.append_assoc, and_assoc]

theorem inert_of_suffix {r t : Text} (none_ : ∀ s, s <:+ t → s ≠ [] → ¬begins (s ++ r)) :
    Inert begins r t := by
  induction t with
  | nil => trivial
  | cons c t ih =>
    refine ⟨none_ (c :: t) (List.suffix_refl _) (by simp), ih fun s part => ?_⟩
    exact none_ s (part.trans (List.suffix_cons c t))

theorem inert_of_not_mem {r t : Text} {x : Char} (front : ∀ s, begins s → s.head? = some x)
    (absent : x ∉ t) : Inert begins r t := by
  induction t with
  | nil => trivial
  | cons c t ih =>
    rw [List.mem_cons, not_or] at absent
    refine ⟨fun here => absent.1 ?_, ih absent.2⟩
    exact (Option.some.inj (front _ here)).symm

theorem cut?_append_of_inert {p a r : Text} (inert : Inert (p <+: ·) r a) :
    cut? p (a ++ r) = (cut? p r).map fun found => (a ++ found.1, found.2) := by
  induction a with
  | nil => simp
  | cons c a ih =>
    obtain ⟨here, later⟩ := inert
    have absent : dropPrefix? p (c :: (a ++ r)) = none := dropPrefix?_eq_none.2 here
    rw [List.cons_append, cut?, absent, ih later]
    simp [Function.comp_def]

theorem cut?_self_append (p r : Text) : cut? p (p ++ r) = some ([], r) := by
  cases whole : p ++ r with
  | nil =>
    obtain ⟨rfl, rfl⟩ := List.append_eq_nil_iff.1 whole
    rfl
  | cons c s =>
    have found : dropPrefix? p (c :: s) = some r := dropPrefix?_eq_some.2 whole.symm
    rw [cut?, found]

theorem cut?_of_inert {p a r : Text} (inert : Inert (p <+: ·) (p ++ r) a) :
    cut? p (a ++ (p ++ r)) = some (a, r) := by
  rw [cut?_append_of_inert inert, cut?_self_append, Option.map_some, List.append_nil]

theorem inert_of_pair {x y : Char} {a r : Text} (absent : ¬[x, y] <:+: a)
    (last : x ∉ a.getLast?) : Inert ([x, y] <+: ·) r a := by
  refine inert_of_suffix fun s part some_ begins => ?_
  cases s with
  | nil => exact some_ rfl
  | cons c s =>
    obtain ⟨rfl, rest⟩ := List.cons_prefix_cons.1 begins
    cases s with
    | nil =>
      obtain ⟨front, rfl⟩ := part
      exact last (by simp)
    | cons d s =>
      obtain ⟨rfl, -⟩ := List.cons_prefix_cons.1 rest
      exact absent ((List.prefix_append [x, y] s).isInfix.trans part.isInfix)

end Text

def Piece.rewritten (f : Text → α → Text) : Piece α → Text
  | char c => [c]
  | item raw v => f raw v

namespace Scanner

variable {scan : Scanner α} {f : Text → α → Text}

theorem replace_nil : scan.replace f [] = [] := by
  rw [replace, pieces_nil]
  rfl

theorem replace_of_none {c : Char} {s : Text} (nothing : scan (c :: s) = none) :
    scan.replace f (c :: s) = c :: scan.replace f s := by
  rw [replace, pieces_of_none nothing]
  rfl

theorem replace_of_some {raw rest : Text} {v : α} (some_ : raw ≠ [])
    (found : scan (raw ++ rest) = some (v, rest)) :
    scan.replace f (raw ++ rest) = f raw v ++ scan.replace f rest := by
  rw [replace, pieces_of_some some_ found]
  rfl

def Begins (scan : Scanner α) (s : Text) : Prop := (scan s).isSome

theorem pieces_append_of_inert {t r : Text} (inert : Text.Inert scan.Begins r t) :
    scan.pieces (t ++ r) = t.map .char ++ scan.pieces r := by
  induction t with
  | nil => rfl
  | cons c t ih =>
    obtain ⟨here, later⟩ := inert
    rw [List.cons_append, pieces_of_none (Option.not_isSome_iff_eq_none.1 here), ih later]
    rfl

theorem items_append_of_inert {t r : Text} (inert : Text.Inert scan.Begins r t) :
    scan.items (t ++ r) = scan.items r := by
  rw [items, pieces_append_of_inert inert, List.filterMap_append, List.filterMap_map]
  simp [Function.comp_def, Piece.value?, items]

theorem replace_append_of_inert {t r : Text} (inert : Text.Inert scan.Begins r t) :
    scan.replace f (t ++ r) = t ++ scan.replace f r := by
  induction t with
  | nil => rfl
  | cons c t ih =>
    obtain ⟨here, later⟩ := inert
    rw [List.cons_append, replace_of_none (Option.not_isSome_iff_eq_none.1 here), ih later]
    rfl

theorem replaceM_of_none [Monad m] [LawfulMonad m] {g : Text → α → m Text} {c : Char} {s : Text}
    (nothing : scan (c :: s) = none) :
    scan.replaceM g (c :: s) = (c :: ·) <$> scan.replaceM g s := by
  unfold replaceM
  rw [pieces_of_none nothing]
  simp

theorem replaceM_of_some [Monad m] [LawfulMonad m] {g : Text → α → m Text} {raw rest : Text} {v : α}
    (some_ : raw ≠ []) (found : scan (raw ++ rest) = some (v, rest)) :
    scan.replaceM g (raw ++ rest) = do return (← g raw v) ++ (← scan.replaceM g rest) := by
  unfold replaceM
  rw [pieces_of_some some_ found]
  simp

theorem replaceM_nil [Monad m] [LawfulMonad m] {g : Text → α → m Text} :
    scan.replaceM g [] = pure [] := by
  unfold replaceM
  rw [pieces_nil]
  simp

theorem replaceM_append_of_inert [Monad m] [LawfulMonad m] {g : Text → α → m Text} {t r : Text}
    (inert : Text.Inert scan.Begins r t) :
    scan.replaceM g (t ++ r) = (t ++ ·) <$> scan.replaceM g r := by
  induction t with
  | nil => simp
  | cons c t ih =>
    obtain ⟨here, later⟩ := inert
    rw [List.cons_append, replaceM_of_none (Option.not_isSome_iff_eq_none.1 here), ih later]
    simp

theorem replaceM_eq_self [Monad m] [LawfulMonad m] {g : Text → α → m Text} {t : Text}
    (inert : Text.Inert scan.Begins [] t) : scan.replaceM g t = pure t := by
  have whole := replaceM_append_of_inert (g := g) inert
  rw [List.append_nil, replaceM_nil] at whole
  simpa using whole

theorem replace_eq_self {t : Text} (inert : Text.Inert scan.Begins [] t) :
    scan.replace f t = t := by
  have whole := replace_append_of_inert (f := f) inert
  rwa [List.append_nil, replace_nil, List.append_nil] at whole

theorem replaceM_pure [Monad m] [LawfulMonad m] (s : Text) :
    scan.replaceM (fun raw v => (pure (f raw v) : m Text)) s = pure (scan.replace f s) := by
  unfold replaceM
  rw [mapM_of_pure (g := Piece.rewritten f) fun p => by cases p <;> rfl, pure_bind, replace,
    List.flatMap_def]
  rfl

theorem split_of_pieces (exact_ : scan.Exact) {s raw : Text} {v : α} {ps qs : List (Piece α)}
    (read : scan.pieces s = ps ++ .item raw v :: qs) :
    raw ≠ [] ∧ scan (raw ++ qs.flatMap Piece.raw) = some (v, qs.flatMap Piece.raw) ∧
      s = ps.flatMap Piece.raw ++ (raw ++ qs.flatMap Piece.raw) := by
  fun_induction pieces scan s generalizing ps with
  | case1 => simp at read
  | case2 c s v' rest found shorter ih =>
    cases ps with
    | cons p ps =>
      injection read with first later
      obtain ⟨some_, scanned, rfl⟩ := ih later
      refine ⟨some_, scanned, ?_⟩
      obtain ⟨front, whole⟩ := exact_ _ _ _ found
      rw [List.flatMap_cons, List.append_assoc, ← first, Piece.raw, ← whole]
      simp
    | nil =>
      injection read with first later
      injection first with cut same
      obtain ⟨front, whole⟩ := exact_ _ _ _ found
      have back : qs.flatMap Piece.raw = rest := by rw [← later, flatMap_raw_pieces exact_]
      have raw_ : raw = front := by
        rw [← cut, ← whole]
        simp
      rw [raw_, back, whole, ← same]
      refine ⟨?_, found, rfl⟩
      rintro rfl
      rw [← whole] at shorter
      exact absurd shorter (Nat.lt_irrefl _)
  | case3 c s v' rest found longer ih =>
    cases ps with
    | nil => cases read
    | cons p ps =>
      injection read with first later
      obtain ⟨some_, scanned, rfl⟩ := ih later
      exact ⟨some_, scanned, by rw [← first]; rfl⟩
  | case4 c s nothing ih =>
    cases ps with
    | nil => cases read
    | cons p ps =>
      injection read with first later
      obtain ⟨some_, scanned, rfl⟩ := ih later
      exact ⟨some_, scanned, by rw [← first]; rfl⟩

theorem pieces_of_no_items (exact_ : scan.Exact) {s : Text} (none_ : scan.items s = []) :
    scan.pieces s = s.map .char := by
  have chars : ∀ ps : List (Piece α), ps.filterMap Piece.value? = [] →
      ps = (ps.flatMap Piece.raw).map .char := by
    intro ps
    induction ps with
    | nil => exact fun _ => rfl
    | cons p ps ih =>
      intro absent
      cases p with
      | item raw v => cases absent
      | char c =>
        conv => lhs; rw [ih absent]
        rfl
  have whole := chars _ none_
  rwa [flatMap_raw_pieces exact_] at whole

theorem replaceM_of_no_items [Monad m] [LawfulMonad m] {g : Text → α → m Text}
    (exact_ : scan.Exact) {s : Text} (none_ : scan.items s = []) : scan.replaceM g s = pure s := by
  unfold replaceM
  rw [pieces_of_no_items exact_ none_, List.mapM_map]
  simp [Function.comp_def, List.mapM_pure, ← List.flatMap_def]

theorem replaceM_eq_findSome? {ε : Type} {g : Text → α → Except ε Text} {bad : α → Option ε}
    (step : ∀ raw v, g raw v = (bad v).elim (.ok (f raw v)) .error) (s : Text) :
    scan.replaceM g s = ((scan.items s).findSome? bad).elim (.ok (scan.replace f s)) .error := by
  have items : (scan.items s).findSome? bad =
      (scan.pieces s).findSome? fun p => p.value?.bind bad := by
    rw [Scanner.items, ← List.head?_filterMap, List.filterMap_filterMap, List.head?_filterMap]
  have whole : scan.replace f s = ((scan.pieces s).map (Piece.rewritten f)).flatten := by
    rw [replace, List.flatMap_def]
    rfl
  unfold replaceM
  rw [items, whole, mapM_eq_findSome? (fun p => p.value?.bind bad) (g := Piece.rewritten f)]
  · cases (scan.pieces s).findSome? fun p => p.value?.bind bad with
    | some e => rfl
    | none => rfl
  · intro p
    cases p with
    | char c => rfl
    | item raw v => exact step raw v

theorem length_of_pieces {ε : Type} {h : Piece α → Except ε Text}
    (single : ∀ c, h (.char c) = .ok [c]) (erased : ∀ raw v t, h (.item raw v) = .ok t → t = [])
    {ps : List (Piece α)} (some_ : ∀ raw v, .item raw v ∈ ps → raw ≠ []) {parts : List Text}
    (ok : ps.mapM h = .ok parts) :
    parts.flatten.length + (ps.filterMap Piece.value?).length ≤ (ps.flatMap Piece.raw).length := by
  induction ps generalizing parts with
  | nil =>
    cases ok
    exact Nat.le_refl _
  | cons p ps ih =>
    rw [List.mapM_cons] at ok
    have later := fun raw v member => some_ raw v (List.mem_cons_of_mem p member)
    obtain ⟨t, here, ok⟩ := ok_of_bind ok
    obtain ⟨rest, behind, same⟩ := ok_of_bind ok
    cases same
    have bound := ih later behind
    rw [List.flatten_cons, List.flatMap_cons, List.length_append, List.length_append]
    cases p with
    | char c =>
      rw [single] at here
      cases here
      rw [List.filterMap_cons_none rfl]
      change 1 + _ + _ ≤ 1 + _
      omega
    | item raw v =>
      have positive := List.length_pos_of_ne_nil (some_ raw v (by simp))
      have value : (Piece.item raw v).value? = some v := rfl
      rw [erased raw v t here, List.filterMap_cons_some value, List.length_cons, List.length_nil]
      change _ ≤ raw.length + _
      omega

-- A text whose items all come to nothing gets shorter by each of them.
theorem length_of_erased {ε : Type} {g : Text → α → Except ε Text} (exact_ : scan.Exact)
    (erased : ∀ raw v t, g raw v = .ok t → t = []) {s t : Text} (ok : scan.replaceM g s = .ok t) :
    t.length + (scan.items s).length ≤ s.length := by
  have some_ : ∀ raw v, .item raw v ∈ scan.pieces s → raw ≠ [] := by
    intro raw v member
    obtain ⟨ps, qs, read⟩ := List.append_of_mem member
    exact (split_of_pieces exact_ read).1
  obtain ⟨parts, read, same⟩ := ok_of_bind ok
  cases same
  have bound := length_of_pieces (fun c => rfl) erased some_ read
  rwa [flatMap_raw_pieces exact_] at bound

-- A place that no item reaches over is one where reading comes to a stop between two pieces.
theorem pieces_append_of_uncovered (exact_ : scan.Exact) {u w : Text}
    (uncovered : ∀ b v rest, b <:+ u → b ≠ [] → scan (b ++ w) = some (v, rest) → w <:+ rest) :
    ∃ ps, scan.pieces (u ++ w) = ps ++ scan.pieces w := by
  induction size : u.length using Nat.strongRecOn generalizing u with
  | ind n ih =>
    subst size
    have shorter : ∀ d, d <:+ u → d.length < u.length →
        ∃ ps, scan.pieces (d ++ w) = ps ++ scan.pieces w := by
      intro d part less
      exact ih _ less (fun b v rest inside => uncovered b v rest (inside.trans part)) rfl
    cases u with
    | nil => exact ⟨[], rfl⟩
    | cons c u =>
      obtain ⟨ps, next⟩ := shorter u (List.suffix_cons c u) (Nat.lt_succ_self _)
      rw [List.cons_append, pieces]
      cases found : scan (c :: (u ++ w)) with
      | none => exact ⟨.char c :: ps, by rw [next]; rfl⟩
      | some item =>
        obtain ⟨v, rest⟩ := item
        dsimp only
        split
        · next less =>
          obtain ⟨d, rfl⟩ := uncovered (c :: u) v rest (List.suffix_refl _) (by simp) found
          have part : d ++ w <:+ (c :: u) ++ w := exact_ _ _ _ found
          have inside : d <:+ c :: u := by
            obtain ⟨front, same⟩ := part
            rw [← List.append_assoc] at same
            exact ⟨front, List.append_cancel_right same⟩
          rw [List.length_append, List.length_cons, List.length_append] at less
          obtain ⟨qs, later⟩ := shorter d inside (by rw [List.length_cons]; omega)
          exact ⟨_ :: qs, by rw [later]; rfl⟩
        · exact ⟨.char c :: ps, by rw [next]; rfl⟩

end Scanner

namespace Text

theorem replaceAll_nil (old new : Text) : replaceAll old new [] = [] := Scanner.replace_nil

theorem replaceAll_append {old : Text} (some_ : old ≠ []) (new s : Text) :
    replaceAll old new (old ++ s) = new ++ replaceAll old new s :=
  Scanner.replace_of_some some_ (by rw [dropPrefix?_append]; rfl)

theorem replaceAll_cons {old : Text} {c : Char} {s : Text} (new : Text)
    (absent : dropPrefix? old (c :: s) = none) :
    replaceAll old new (c :: s) = c :: replaceAll old new s :=
  Scanner.replace_of_none (by rw [absent]; rfl)

theorem replaceAll_of_absent {old new s : Text} (absent : ¬old <:+: s) :
    replaceAll old new s = s := by
  refine Scanner.replace_eq_self (inert_of_suffix fun t part _ begins => absent ?_)
  rw [Scanner.Begins, Option.isSome_map, dropPrefix?_isSome, List.append_nil] at begins
  exact begins.isInfix.trans part.isInfix

end Text
end ComponentLoader
