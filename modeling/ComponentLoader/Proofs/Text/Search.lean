import ComponentLoader.Text.Basic
import Mathlib.Data.List.Infix
import Mathlib.Data.List.TakeWhile

namespace ComponentLoader
namespace Text

theorem takeWhile_append_cons {p : Char → Bool} {a b : Text} {x : Char}
    (all : ∀ c ∈ a, p c = true) (stop : p x = false) : (a ++ x :: b).takeWhile p = a := by
  rw [List.takeWhile_append_of_pos all]
  simp [stop]

theorem dropWhile_append_cons {p : Char → Bool} {a b : Text} {x : Char}
    (all : ∀ c ∈ a, p c = true) (stop : p x = false) : (a ++ x :: b).dropWhile p = x :: b := by
  rw [List.dropWhile_append_of_pos all]
  simp [stop]

theorem head?_of_prefix {x : Char} {p s : Text} (begins : x :: p <+: s) : s.head? = some x := by
  obtain ⟨r, rfl⟩ := begins
  rfl

theorem dropPrefix?_isSome {p s : Text} : (dropPrefix? p s).isSome ↔ p <+: s := by
  rw [Option.isSome_iff_exists]
  constructor
  · rintro ⟨r, found⟩
    exact ⟨r, (dropPrefix?_eq_some.1 found).symm⟩
  · rintro ⟨r, rfl⟩
    exact ⟨r, dropPrefix?_append p r⟩

theorem dropPrefix?_eq_none {p s : Text} : dropPrefix? p s = none ↔ ¬p <+: s := by
  rw [← dropPrefix?_isSome, Option.not_isSome_iff_eq_none]

theorem contains_iff {p s : Text} : contains p s = true ↔ p <:+: s := by
  unfold contains
  induction s with
  | nil =>
    rw [cut?, Option.isSome_map, dropPrefix?_isSome]
    simp
  | cons c s ih =>
    rw [List.infix_cons_iff, ← ih, cut?]
    cases found : dropPrefix? p (c :: s) with
    | none =>
      have absent : ¬p <+: c :: s := dropPrefix?_eq_none.1 found
      simp [absent]
    | some r =>
      have present : p <+: c :: s := dropPrefix?_isSome.1 (by simp [found])
      simp [present]

-- Evaluated over the text, where deciding the statement itself may go over all characters.
theorem forall_of_all {p : Char → Prop} [DecidablePred p] {t : Text}
    (all : (t.all fun c => decide (p c)) = true) : ∀ c ∈ t, p c := by
  simpa using all

def Apart (a b : Text) : Prop := ∀ c ∈ a, c ∉ b

@[simp] theorem apart_nil {b : Text} : Apart [] b := by
  simp [Apart]

@[simp] theorem apart_cons {c : Char} {a b : Text} : Apart (c :: a) b ↔ c ∉ b ∧ Apart a b :=
  List.forall_mem_cons

theorem apart_of_any {a b : Text} (nothing : a.any (List.contains b) = false) : Apart a b := by
  intro c member inside
  have found := List.any_eq_false.1 nothing c member
  exact found (List.contains_iff_mem.2 inside)

-- A text that is looked for does not reach over a character that it does not hold.
theorem infix_append_cons {p a b : Text} {x : Char} (apart : x ∉ p) :
    p <:+: a ++ x :: b ↔ p <:+: a ∨ p <:+: b := by
  constructor
  · intro found
    rcases List.infix_append_iff.1 found with left | right | ⟨l, r, rfl, before, behind⟩
    · exact .inl left
    · rcases List.infix_cons_iff.1 right with front | right
      · rcases List.prefix_cons_iff.1 front with rfl | ⟨t, rfl, -⟩
        · exact .inl (List.nil_infix)
        · exact absurd (by simp) apart
      · exact .inr right
    · rcases List.prefix_cons_iff.1 behind with rfl | ⟨t, rfl, -⟩
      · exact .inl (by simpa using before.isInfix)
      · exact absurd (by simp) apart
  · rintro (left | right)
    · exact List.infix_append_of_infix_left left
    · exact List.infix_append_of_infix_right (List.infix_cons right)

theorem infix_append_of_disjoint {p a b : Text} (ne : p ≠ []) (apart : ∀ x ∈ a, x ∉ p) :
    p <:+: a ++ b ↔ p <:+: b := by
  induction a with
  | nil => rfl
  | cons x a ih =>
    have rest := ih fun y member => apart y (List.mem_cons_of_mem _ member)
    have sep := infix_append_cons (a := []) (b := a ++ b) (apart x (by simp))
    rw [List.cons_append, ← List.nil_append (x :: (a ++ b)), sep, rest]
    simp [ne]

theorem infix_append_of_disjoint_right {p a b : Text} (ne : p ≠ []) (apart : ∀ x ∈ b, x ∉ p) :
    p <:+: a ++ b ↔ p <:+: a := by
  rw [← List.reverse_infix, List.reverse_append, infix_append_of_disjoint (by simpa using ne),
    List.reverse_infix]
  intro x member inside
  exact apart x (List.mem_reverse.1 member) (List.mem_reverse.1 inside)

theorem prefix_append_cons {p a b : Text} {x : Char} (apart : x ∉ p) :
    p <+: a ++ x :: b ↔ p <+: a := by
  constructor
  · intro begins
    rcases List.prefix_or_prefix_of_prefix begins (List.prefix_append a _) with inside | ⟨t, rfl⟩
    · exact inside
    · cases t with
      | nil => simp
      | cons y t =>
        have first := (List.prefix_append_right_inj a).1 begins
        obtain ⟨rfl, -⟩ := List.cons_prefix_cons.1 first
        exact absurd (by simp) apart
  · exact fun inside => inside.trans (List.prefix_append _ _)

-- What is looked for in a spelling stands there in single characters, where all else is spelled
-- without its characters.
theorem prefix_flatMap {p q : Text} {e : Char → α} {f : α → Text} {s : List α}
    (kinds : ∀ a, (∃ c, a = e c ∧ f a = [c]) ∨ f a ≠ [] ∧ ∀ x ∈ f a, x ∉ p) (part : q ⊆ p)
    (found : q <+: s.flatMap f) : q.map e <+: s := by
  induction q generalizing s with
  | nil => exact List.nil_prefix
  | cons c q ih =>
    cases s with
    | nil => simp at found
    | cons a s =>
      rw [List.flatMap_cons] at found
      rcases kinds a with ⟨d, rfl, single⟩ | ⟨some, apart⟩
      · rw [single, List.singleton_append, List.cons_prefix_cons] at found
        obtain ⟨rfl, later⟩ := found
        have inner : q ⊆ p := fun x member => part (List.mem_cons_of_mem _ member)
        exact List.cons_prefix_cons.2 ⟨rfl, ih inner later⟩
      · obtain ⟨x, t, block⟩ := List.exists_cons_of_ne_nil some
        rw [block, List.cons_append, List.cons_prefix_cons] at found
        exact absurd (part (by simp [found.1])) (apart x (by simp [block]))

theorem infix_flatMap {p : Text} {e : Char → α} {f : α → Text} {s : List α}
    (kinds : ∀ a, (∃ c, a = e c ∧ f a = [c]) ∨ f a ≠ [] ∧ ∀ x ∈ f a, x ∉ p)
    (found : p <:+: s.flatMap f) : p.map e <:+: s := by
  by_cases none_ : p = []
  · simp [none_]
  · induction s with
    | nil => exact absurd (by simpa using found) none_
    | cons a s ih =>
      rw [List.flatMap_cons] at found
      rcases kinds a with ⟨d, rfl, single⟩ | ⟨some, apart⟩
      · rw [single, List.singleton_append] at found
        rcases List.infix_cons_iff.1 found with front | later
        · refine (prefix_flatMap kinds (fun x member => member) ?_).isInfix
          rwa [List.flatMap_cons, single]
        · exact List.infix_cons (ih later)
      · exact List.infix_cons (ih ((infix_append_of_disjoint none_ apart).1 found))

theorem split_unique {p : Char → Bool} {a b c d : Text} {x y : Char}
    (left : ∀ z ∈ a, p z = false) (right : ∀ z ∈ c, p z = false) (stop : p x = true)
    (stop' : p y = true) (same : a ++ x :: b = c ++ y :: d) : a = c ∧ x = y ∧ b = d := by
  have taken := congrArg (List.takeWhile fun z => !p z) same
  rw [takeWhile_append_cons (by simpa using left) (by simp [stop]),
    takeWhile_append_cons (by simpa using right) (by simp [stop'])] at taken
  subst taken
  injection List.append_cancel_left same with first rest
  exact ⟨rfl, first, rest⟩

theorem append_cons_inj {x : Char} {a b c d : Text} (left : x ∉ a) (right : x ∉ c)
    (same : a ++ x :: b = c ++ x :: d) : a = c ∧ b = d := by
  have other : ∀ {t : Text}, x ∉ t → ∀ z ∈ t, (z == x) = false := by
    intro t absent z member
    exact beq_eq_false_iff_ne.2 fun found => absent (found ▸ member)
  obtain ⟨before, -, behind⟩ := split_unique (p := (· == x)) (other left) (other right) (by simp)
    (by simp) same
  exact ⟨before, behind⟩

theorem not_mem_of_forall {p : Char → Bool} {t : Text} {x : Char} (all : ∀ c ∈ t, p c = true)
    (fails : p x = false) : x ∉ t := by
  intro member
  exact Bool.false_ne_true (fails.symm.trans (all x member))

theorem eq_or_eq_of_twice {x : Char} {a b c d e : Text} (first : x ∉ c) (between : x ∉ d)
    (last : x ∉ e) (same : a ++ x :: b = c ++ x :: (d ++ x :: e)) : a = c ∨ b = e := by
  by_cases again : x ∈ a
  · obtain ⟨a₁, a₂, rfl, before⟩ := List.eq_append_cons_of_mem again
    rw [List.append_assoc, List.cons_append] at same
    obtain ⟨-, same⟩ := append_cons_inj before first same
    have third : x ∉ a₂ := by
      intro more
      obtain ⟨a₃, a₄, rfl, before⟩ := List.eq_append_cons_of_mem more
      rw [List.append_assoc, List.cons_append] at same
      obtain ⟨-, rfl⟩ := append_cons_inj before between same
      exact last (by simp)
    exact .inr (append_cons_inj third between same).2
  · exact .inl (append_cons_inj again first same).1

theorem splitOn_append_cons (sep : Char) (a b : Text) :
    splitOn sep (a ++ sep :: b) = splitOn sep a ++ splitOn sep b := by
  induction a with
  | nil => simp [splitOn]
  | cons c a ih =>
    by_cases here : c = sep
    · simp [splitOn, here, ih]
    · simp only [List.cons_append, splitOn, here, if_false, ih]
      cases parts : splitOn sep a with
      | nil => exact absurd parts (splitOn_ne_nil _ _)
      | cons t ts => rfl

theorem splitOn_append_of_not_mem {sep : Char} {a : Text} (absent : sep ∉ a) {s t : Text}
    {ts : List Text} (parts : splitOn sep s = t :: ts) : splitOn sep (a ++ s) = (a ++ t) :: ts := by
  induction a with
  | nil => exact parts
  | cons c a ih =>
    rw [List.mem_cons, not_or] at absent
    have other : ¬c = sep := fun same => absent.1 same.symm
    simp [splitOn, other, ih absent.2]

theorem splitOn_of_not_mem {sep : Char} {s : Text} (absent : sep ∉ s) : splitOn sep s = [s] := by
  simpa using splitOn_append_of_not_mem absent (s := []) rfl

theorem not_mem_of_mem_splitOn {sep : Char} {s t : Text} (member : t ∈ splitOn sep s) :
    sep ∉ t := by
  induction s generalizing t with
  | nil =>
    rw [splitOn, List.mem_singleton] at member
    simp [member]
  | cons c s ih =>
    by_cases here : c = sep
    · simp only [splitOn, here, if_true, List.mem_cons] at member
      rcases member with rfl | later
      · simp
      · exact ih later
    · cases parts : splitOn sep s with
      | nil => exact absurd parts (splitOn_ne_nil _ _)
      | cons u us =>
        simp only [splitOn, here, if_false, parts, List.mem_cons] at member
        have first := ih (t := u) (by simp [parts])
        rcases member with rfl | later
        · simp [first, Ne.symm here]
        · exact ih (by simp [parts, later])

theorem splitOn_join (sep : Char) {ts : List Text} (ne : ts ≠ []) :
    splitOn sep (join [sep] ts) = ts.flatMap (splitOn sep) := by
  induction ts with
  | nil => exact absurd rfl ne
  | cons t ts ih =>
    cases ts with
    | nil => simp [join]
    | cons u us =>
      have rest := ih (by simp)
      rw [join_cons (by simp), List.append_assoc, List.singleton_append, splitOn_append_cons, rest]
      rfl

theorem flatMap_splitOn_of_not_mem {sep : Char} {ts : List Text} (absent : ∀ t ∈ ts, sep ∉ t) :
    ts.flatMap (splitOn sep) = ts := by
  have whole : ∀ t ∈ ts, splitOn sep t = [t] := fun t member => splitOn_of_not_mem (absent t member)
  rw [List.flatMap_congr whole, List.flatMap_singleton']

theorem splitOn_join_of_not_mem {sep : Char} {ts : List Text} (ne : ts ≠ [])
    (absent : ∀ t ∈ ts, sep ∉ t) : splitOn sep (join [sep] ts) = ts := by
  rw [splitOn_join sep ne, flatMap_splitOn_of_not_mem absent]

theorem mem_join {c : Char} {sep : Text} {ts : List Text} (member : c ∈ join sep ts) :
    c ∈ sep ∨ ∃ t ∈ ts, c ∈ t := by
  induction ts with
  | nil => cases member
  | cons t ts ih =>
    cases ts with
    | nil => exact .inr ⟨t, by simp, member⟩
    | cons u us =>
      rw [join_cons (by simp), List.mem_append, List.mem_append] at member
      rcases member with (here | between) | later
      · exact .inr ⟨t, by simp, here⟩
      · exact .inl between
      · exact (ih later).imp_right fun ⟨v, part, inside⟩ => ⟨v, List.mem_cons_of_mem t part, inside⟩

theorem mem_splitOn_join {sep : Char} {t : Text} {ts : List Text} (member : t ∈ ts)
    (absent : sep ∉ t) : t ∈ splitOn sep (join [sep] ts) := by
  rw [splitOn_join sep (List.ne_nil_of_mem member), List.mem_flatMap]
  exact ⟨t, member, by simp [splitOn_of_not_mem absent]⟩

theorem join_of_mem {sep t : Text} {ts : List Text} (member : t ∈ ts) :
    ∃ u r, join sep ts = u ++ (t ++ r) ∧ (u = [] ∨ ∃ v, u = v ++ sep) := by
  induction ts with
  | nil => cases member
  | cons u us ih =>
    cases us with
    | nil =>
      rw [List.mem_singleton] at member
      exact ⟨[], [], by simp [member, join], .inl rfl⟩
    | cons v vs =>
      rw [join_cons (by simp)]
      rcases List.mem_cons.1 member with rfl | later
      · exact ⟨[], sep ++ join sep (v :: vs), by simp, .inl rfl⟩
      · obtain ⟨w, r, same, rfl | ⟨x, rfl⟩⟩ := ih later
        · exact ⟨u ++ sep, r, by simp [same], .inr ⟨u, rfl⟩⟩
        · exact ⟨u ++ sep ++ (x ++ sep), r, by simp [same], .inr ⟨u ++ sep ++ x, by simp⟩⟩

theorem infix_join_of_mem {sep t : Text} {ts : List Text} (member : t ∈ ts) :
    t <:+: join sep ts := by
  obtain ⟨u, r, same, -⟩ := @join_of_mem sep t ts member
  exact ⟨u, r, by rw [same, List.append_assoc]⟩

theorem infix_of_mem_splitOn {sep : Char} {s t : Text} (member : t ∈ splitOn sep s) : t <:+: s := by
  have part : t <:+: join [sep] (splitOn sep s) := infix_join_of_mem member
  rwa [join_splitOn] at part

theorem not_infix_join {p : Text} {sep : Char} {ts : List Text} (apart : sep ∉ p) (some : p ≠ [])
    (absent : ∀ t ∈ ts, ¬p <:+: t) : ¬p <:+: join [sep] ts := by
  induction ts with
  | nil => simpa [join] using some
  | cons t ts ih =>
    have first := absent t (by simp)
    have later := ih fun u member => absent u (List.mem_cons_of_mem _ member)
    cases ts with
    | nil => exact first
    | cons u us =>
      rw [join_cons (by simp), List.append_assoc, List.singleton_append, infix_append_cons apart,
        not_or]
      exact ⟨first, later⟩

theorem splitOn_length_pos (sep : Char) (s : Text) : 0 < (splitOn sep s).length :=
  List.length_pos_iff.2 (splitOn_ne_nil sep s)

theorem splitOn_length_eq_one {sep : Char} {s : Text} (single : (splitOn sep s).length = 1) :
    sep ∉ s := by
  obtain ⟨t, parts⟩ := List.length_eq_one_iff.1 single
  have whole := join_splitOn sep s
  rw [parts] at whole
  rw [← whole]
  exact not_mem_of_mem_splitOn (s := s) (by simp [parts, join])

theorem length_flatMap_splitOn_iff {sep : Char} {ts : List Text} :
    (ts.flatMap (splitOn sep)).length = ts.length ↔ ∀ t ∈ ts, sep ∉ t := by
  constructor
  · intro same t member inside
    have least : ∀ us : List Text, us.length ≤ (us.flatMap (splitOn sep)).length := by
      intro us
      induction us with
      | nil => simp
      | cons u us ih =>
        have one := splitOn_length_pos sep u
        rw [List.flatMap_cons, List.length_append, List.length_cons]
        omega
    obtain ⟨before, behind, rfl⟩ := List.append_of_mem member
    have left := least before
    have right := least behind
    have one := splitOn_length_pos sep t
    simp only [List.flatMap_append, List.flatMap_cons, List.length_append, List.length_cons] at same
    exact splitOn_length_eq_one (by omega) inside
  · intro absent
    rw [flatMap_splitOn_of_not_mem absent]

theorem forall_mem_insert_iff {sep : Char} {l r : List Text} {t : Text} (whole : sep ∉ t) :
    (∀ u ∈ l ++ t :: r, sep ∉ u) ↔ ∀ u ∈ l ++ r, sep ∉ u := by
  rw [List.forall_mem_append, List.forall_mem_cons, and_iff_right whole, List.forall_mem_append]

theorem length_flatMap_splitOn_insert_iff {sep : Char} {l r : List Text} {t : Text}
    (whole : sep ∉ t) :
    ((l ++ t :: r).flatMap (splitOn sep)).length = (l ++ r).length + 1 ↔
      ∀ u ∈ l ++ r, sep ∉ u := by
  have added : (l ++ t :: r).length = (l ++ r).length + 1 := by
    simp only [List.length_append, List.length_cons]
    omega
  rw [← added, length_flatMap_splitOn_iff, forall_mem_insert_iff whole]

end Text
end ComponentLoader
