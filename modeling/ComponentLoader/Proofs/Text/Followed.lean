import ComponentLoader.Proofs.Text.Replacement
import Mathlib.Data.List.Infix

namespace ComponentLoader
namespace Text

def Followed (p : Text) (x : Char) (s : Text) : Prop := ∀ r, r <:+ s → p <+: r → p ++ [x] <+: r

instance (p : Text) (x : Char) (s : Text) : Decidable (Followed p x s) :=
  decidable_of_iff (∀ r ∈ s.tails, p <+: r → p ++ [x] <+: r) (by simp [Followed])

-- The first character of the text stands nowhere else in it, and is not the one that follows.
def Sole (p : Text) (x : Char) : Prop := ∃ h t, p = h :: t ∧ h ∉ t ∧ h ≠ x

def replaceBefore (p : Text) (x : Char) (new s : Text) : Text :=
  replaceAll (p ++ [x]) (new ++ [x]) s

variable {p new s : Text} {x : Char}

theorem append_prefix_append_iff {r : Text} : p ++ [x] <+: p ++ r ↔ r.head? = some x := by
  rw [List.prefix_append_right_inj, List.head?_eq_some_iff]
  exact exists_congr fun rest => eq_comm

theorem followed_cons {c : Char} : Followed p x (c :: s) ↔
    (p <+: c :: s → p ++ [x] <+: c :: s) ∧ Followed p x s := by
  unfold Followed
  constructor
  · intro all
    exact ⟨all _ (List.suffix_refl _), fun r part => all r (part.trans (List.suffix_cons c s))⟩
  · rintro ⟨here, later⟩ r part
    rcases List.suffix_cons_iff.1 part with rfl | part
    · exact here
    · exact later r part

theorem Followed.right {u : Text} (followed : Followed p x (u ++ s)) : Followed p x s := fun r part =>
  followed r (part.trans (List.suffix_append u s))

theorem followed_append_of_not_mem {h : Char} {t u : Text} (absent : h ∉ u) :
    Followed (h :: t) x (u ++ s) ↔ Followed (h :: t) x s := by
  induction u with
  | nil => rfl
  | cons c u ih =>
    rw [List.mem_cons, not_or] at absent
    rw [List.cons_append, followed_cons, ih absent.2, and_iff_right]
    intro begins
    exact absurd (List.cons_prefix_cons.1 begins).1 absent.1

namespace Sole

theorem ne_nil (sole : Sole p x) : p ≠ [] := by
  obtain ⟨h, t, rfl, -⟩ := sole
  exact List.cons_ne_nil h t

theorem head? (sole : Sole p x) : p.head? ≠ some x := by
  obtain ⟨h, t, rfl, -, other⟩ := sole
  simpa using other

theorem followed_append (sole : Sole p x) {r : Text} (stop : r.head? = some x) :
    Followed p x (p ++ r) ↔ Followed p x r := by
  have next : p ++ [x] <+: p ++ r := append_prefix_append_iff.2 stop
  obtain ⟨h, t, rfl, single, -⟩ := sole
  rw [List.cons_append, followed_cons, followed_append_of_not_mem single, and_iff_right]
  intro _
  exact next

end Sole

theorem replacement_induction {motive : Text → Prop} (some_ : p ≠ []) (nil : motive [])
    (kept : ∀ c s, ¬p <+: c :: s → motive s → motive (c :: s))
    (found : ∀ r, motive r → motive (p ++ r)) (s : Text) : motive s := by
  have size := List.length_pos_iff.2 some_
  induction length : s.length using Nat.strongRecOn generalizing s with
  | ind n ih =>
    subst length
    by_cases begins : p <+: s
    · obtain ⟨r, rfl⟩ := begins
      have less : r.length < (p ++ r).length := by
        rw [List.length_append]
        omega
      exact found r (ih r.length less r rfl)
    · cases s with
      | nil => exact nil
      | cons c s => exact kept c s begins (ih s.length (Nat.lt_succ_self _) s rfl)

theorem replaceAll_of_other {c : Char} (absent : ¬p <+: c :: s) :
    replaceAll p new (c :: s) = c :: replaceAll p new s :=
  replaceAll_cons new (dropPrefix?_eq_none.2 absent)

theorem replaceAll_self (some_ : p ≠ []) (s : Text) : replaceAll p p s = s := by
  induction s using replacement_induction (p := p) with
  | some_ => exact some_
  | nil => exact replaceAll_nil p p
  | kept c s absent ih => rw [replaceAll_of_other absent, ih]
  | found r ih => rw [replaceAll_append some_, ih]

theorem replaceBefore_nil : replaceBefore p x new [] = [] := replaceAll_nil _ _

theorem replaceBefore_of_other {c : Char} (absent : ¬p <+: c :: s) :
    replaceBefore p x new (c :: s) = c :: replaceBefore p x new s := by
  apply replaceAll_of_other
  intro begins
  exact absent ((List.prefix_append p [x]).trans begins)

theorem replaceBefore_append_cons (r : Text) :
    replaceBefore p x new (p ++ x :: r) = new ++ x :: replaceBefore p x new r := by
  have some_ : p ++ [x] ≠ [] := by simp
  have whole := replaceAll_append some_ (new ++ [x]) r
  unfold replaceBefore
  rw [List.append_cons p x r, whole, List.append_assoc]
  rfl

theorem replaceBefore_append_of_head? (some_ : p ≠ []) (apart : p.head? ≠ some x) {r : Text}
    (stop : r.head? = some x) : replaceBefore p x new (p ++ r) = new ++ replaceBefore p x new r := by
  obtain ⟨r, rfl⟩ := List.head?_eq_some_iff.1 stop
  have absent : ¬p <+: x :: r := by
    intro begins
    obtain ⟨c, p, rfl⟩ := List.exists_cons_of_ne_nil some_
    obtain ⟨rfl, -⟩ := List.cons_prefix_cons.1 begins
    exact apart rfl
  rw [replaceBefore_append_cons, replaceBefore_of_other absent]

theorem Sole.replaceBefore_append (sole : Sole p x) {r : Text} (stop : r.head? ≠ some x) :
    replaceBefore p x new (p ++ r) = p ++ replaceBefore p x new r := by
  have next : ¬p ++ [x] <+: p ++ r := fun begins => stop (append_prefix_append_iff.1 begins)
  obtain ⟨h, t, rfl, single, -⟩ := sole
  have begins_iff (s : Text) : Scanner.Begins
      (fun s => (dropPrefix? (h :: t ++ [x]) s).map ((), ·)) s ↔ h :: t ++ [x] <+: s := by
    rw [Scanner.Begins, Option.isSome_map, dropPrefix?_isSome]
  apply Scanner.replace_append_of_inert
  constructor
  · intro begins
    exact next ((begins_iff _).1 begins)
  · exact inert_of_not_mem (fun s begins => head?_of_prefix ((begins_iff s).1 begins)) single

theorem replaceAll_of_followed (some_ : p ≠ []) (apart : p.head? ≠ some x)
    (followed : Followed p x s) : replaceAll p new s = replaceBefore p x new s := by
  induction s using replacement_induction (p := p) with
  | some_ => exact some_
  | nil => rw [replaceAll_nil, replaceBefore_nil]
  | kept c s absent ih =>
    rw [replaceAll_of_other absent, replaceBefore_of_other absent,
      ih (followed_cons.1 followed).2]
  | found r ih =>
    have here := followed _ (List.suffix_refl _) (List.prefix_append p r)
    have stop := append_prefix_append_iff.1 here
    rw [replaceAll_append some_, replaceBefore_append_of_head? some_ apart stop, ih followed.right]

namespace Sole

theorem length_replaceAll (sole : Sole p x) (new s : Text) : ∃ k,
    (replaceAll p new s).length + k * p.length =
      (replaceBefore p x new s).length + k * new.length := by
  induction s using replacement_induction (p := p) with
  | some_ => exact sole.ne_nil
  | nil => exact ⟨0, by simp [replaceBefore_nil, replaceAll_nil]⟩
  | kept c s absent ih =>
    obtain ⟨k, same⟩ := ih
    refine ⟨k, ?_⟩
    rw [replaceAll_of_other absent, replaceBefore_of_other absent, List.length_cons,
      List.length_cons]
    omega
  | found r ih =>
    obtain ⟨k, same⟩ := ih
    by_cases stop : r.head? = some x
    · refine ⟨k, ?_⟩
      rw [replaceAll_append sole.ne_nil, replaceBefore_append_of_head? sole.ne_nil sole.head? stop,
        List.length_append, List.length_append]
      omega
    · refine ⟨k + 1, ?_⟩
      rw [replaceAll_append sole.ne_nil, sole.replaceBefore_append stop, List.length_append,
        List.length_append, Nat.succ_mul, Nat.succ_mul]
      omega

theorem eq_of_loose (sole : Sole p x) {r : Text}
    (same : new ++ replaceAll p new r = p ++ replaceBefore p x new r) : new = p := by
  obtain ⟨k, difference⟩ := sole.length_replaceAll new r
  have lengths := congrArg List.length same
  rw [List.length_append, List.length_append] at lengths
  have scaled : (k + 1) * new.length = (k + 1) * p.length := by
    rw [Nat.succ_mul, Nat.succ_mul]
    omega
  exact List.append_inj_left same (Nat.eq_of_mul_eq_mul_left (Nat.succ_pos k) scaled)

-- An occurrence that something else follows is seen, unless it is replaced by itself.
theorem replaceAll_eq_iff (sole : Sole p x) (new s : Text) :
    replaceAll p new s = replaceBefore p x new s ↔ new = p ∨ Followed p x s := by
  constructor
  · intro same
    rw [or_iff_not_imp_left]
    intro differ
    induction s using replacement_induction (p := p) with
    | some_ => exact sole.ne_nil
    | nil =>
      intro r part begins
      rw [List.suffix_nil.1 part] at begins
      exact absurd (List.prefix_nil.1 begins) sole.ne_nil
    | kept c s absent ih =>
      rw [replaceAll_of_other absent, replaceBefore_of_other absent] at same
      exact followed_cons.2 ⟨fun begins => absurd begins absent, ih (List.cons.inj same).2⟩
    | found r ih =>
      rw [replaceAll_append sole.ne_nil] at same
      by_cases stop : r.head? = some x
      · rw [replaceBefore_append_of_head? sole.ne_nil sole.head? stop] at same
        exact (sole.followed_append stop).2 (ih (List.append_cancel_left same))
      · rw [sole.replaceBefore_append stop] at same
        exact absurd (sole.eq_of_loose same) differ
  · rintro (rfl | followed)
    · rw [replaceAll_self sole.ne_nil, replaceBefore, replaceAll_self (by simp)]
    · exact replaceAll_of_followed sole.ne_nil sole.head? followed

end Sole

section Longer

variable {h : Char} {t u w new' : Text}

theorem replaceAll_append_of_not_mem (absent : h ∉ u) (s : Text) :
    replaceAll (h :: t) new (u ++ s) = u ++ replaceAll (h :: t) new s := by
  induction u with
  | nil => rfl
  | cons c u ih =>
    rw [List.mem_cons, not_or] at absent
    have other : ¬h :: t <+: c :: (u ++ s) := fun begins =>
      absent.1 (List.cons_prefix_cons.1 begins).1
    rw [List.cons_append, replaceAll_of_other other, ih absent.2]
    rfl

-- An occurrence that more follows leaves that behind where the shorter text is replaced; any other
-- stays where the longer one is. The first shows in the characters `x` that are left, the second in
-- the text's own first character.
theorem count_replaceAll_append (single : h ∉ t) (apart : h ∉ w) (plain : h ∉ new) (plain' : h ∉ new')
    (like : new.count x = new'.count x) (s : Text) : ∃ loose tight,
    (h :: t <:+: s → 0 < loose + tight) ∧
      (replaceAll (h :: t ++ w) new s).count h = (replaceAll (h :: t) new' s).count h + loose ∧
      (replaceAll (h :: t) new' s).count x + loose * (h :: t).count x =
        (replaceAll (h :: t ++ w) new s).count x + loose * new'.count x + tight * w.count x := by
  induction s using replacement_induction (p := h :: t) with
  | some_ => exact List.cons_ne_nil h t
  | nil => exact ⟨0, 0, by simp, by simp [replaceAll_nil], by simp [replaceAll_nil]⟩
  | kept c s absent ih =>
    obtain ⟨loose, tight, seen, heads, others⟩ := ih
    have absent' : ¬h :: t ++ w <+: c :: s := fun begins =>
      absent ((List.prefix_append _ w).trans begins)
    rw [replaceAll_of_other absent, replaceAll_of_other absent']
    refine ⟨loose, tight, fun inside => seen ?_, ?_, ?_⟩
    · exact (List.infix_cons_iff.1 inside).resolve_left absent
    · rw [List.count_cons, List.count_cons]
      omega
    · rw [List.count_cons, List.count_cons (b := c) (a := x)]
      omega
  | found r ih =>
    obtain ⟨loose, tight, -, heads, others⟩ := ih
    have single' : (h :: t).count h = 1 := by
      rw [List.count_cons_self, List.count_eq_zero_of_not_mem single]
    rw [replaceAll_append (List.cons_ne_nil h t)]
    by_cases follows : w <+: r
    · obtain ⟨r, rfl⟩ := follows
      have whole : replaceAll (h :: t ++ w) new (h :: t ++ (w ++ r)) =
          new ++ replaceAll (h :: t ++ w) new r := by
        rw [← List.append_assoc]
        exact replaceAll_append (List.cons_ne_nil h (t ++ w)) new r
      have behind : replaceAll (h :: t ++ w) new (w ++ r) = w ++ replaceAll (h :: t ++ w) new r :=
        replaceAll_append_of_not_mem apart r
      rw [behind, List.count_append, List.count_eq_zero_of_not_mem apart] at heads
      rw [behind, List.count_append] at others
      refine ⟨loose, tight + 1, fun _ => Nat.succ_pos _, ?_, ?_⟩
      · rw [whole, List.count_append, List.count_append, List.count_eq_zero_of_not_mem plain,
          List.count_eq_zero_of_not_mem plain']
        omega
      · rw [whole, List.count_append, List.count_append, Nat.succ_mul]
        omega
    · have begins_iff : h :: t ++ w <+: h :: t ++ r ↔ w <+: r :=
        List.prefix_append_right_inj (h :: t)
      have here : replaceAll (h :: t ++ w) new (h :: (t ++ r)) =
          h :: replaceAll (h :: t ++ w) new (t ++ r) :=
        replaceAll_of_other (mt begins_iff.1 follows)
      have behind : replaceAll (h :: t ++ w) new (t ++ r) = t ++ replaceAll (h :: t ++ w) new r :=
        replaceAll_append_of_not_mem single r
      have kept : replaceAll (h :: t ++ w) new (h :: t ++ r) =
          h :: t ++ replaceAll (h :: t ++ w) new r :=
        here.trans (congrArg (h :: ·) behind)
      refine ⟨loose + 1, tight, fun _ => by omega, ?_, ?_⟩
      · rw [kept, List.count_append, List.count_append, single',
          List.count_eq_zero_of_not_mem plain']
        omega
      · rw [kept, List.count_append, List.count_append, Nat.succ_mul, Nat.succ_mul]
        omega

theorem replaceAll_eq_append_iff (single : h ∉ t) (apart : h ∉ w) (plain : h ∉ new)
    (plain' : h ∉ new') (like : new.count x = new'.count x) (present : x ∈ w) (s : Text) :
    replaceAll (h :: t) new' s = replaceAll (h :: t ++ w) new s ↔ ¬h :: t <:+: s := by
  constructor
  · intro same inside
    obtain ⟨loose, tight, seen, heads, others⟩ :=
      count_replaceAll_append single apart plain plain' like s
    rw [same] at heads others
    have none_ : loose = 0 := by omega
    subst none_
    have none_ : tight * w.count x = 0 := by omega
    have some_ := Nat.mul_pos (by simpa using seen inside) (List.count_pos_iff.2 present)
    omega
  · intro absent
    have absent' : ¬h :: t ++ w <:+: s := fun inside =>
      absent ((List.prefix_append _ w).isInfix.trans inside)
    rw [replaceAll_of_absent absent, replaceAll_of_absent absent']

end Longer

end Text
end ComponentLoader
