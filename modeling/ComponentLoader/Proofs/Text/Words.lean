import ComponentLoader.Proofs.Text.Search

namespace ComponentLoader
namespace Text

def Ends (p : Char → Prop) (t : Text) : Prop := (∀ c ∈ t.head?, p c) ∧ ∀ c ∈ t.getLast?, p c

theorem ends_of_forall {p : Char → Prop} {t : Text} (all : ∀ c ∈ t, p c) : Ends p t :=
  ⟨fun c member => all c (List.mem_of_mem_head? member),
    fun c member => all c (List.mem_of_mem_getLast? member)⟩

theorem Ends.append {p : Char → Prop} {a c : Text} (first : Ends p a) (left : a ≠ [])
    (last : Ends p c) (right : c ≠ []) (b : Text) : Ends p (a ++ b ++ c) := by
  constructor
  · intro x member
    rw [List.append_assoc, List.head?_append_of_ne_nil _ left] at member
    exact first.1 x member
  · intro x member
    rw [List.getLast?_append_of_ne_nil _ right] at member
    exact last.2 x member

theorem ends_append {p : Char → Prop} {a b c : Text} (left : a ≠ []) (right : c ≠ [])
    (first : ∀ x ∈ a, p x) (last : ∀ x ∈ c, p x) : Ends p (a ++ b ++ c) :=
  (ends_of_forall first).append left (ends_of_forall last) right b

theorem trimEnd_cons (c : Char) (s : Text) :
    trimEnd (c :: s) = if trimEnd s = [] ∧ isBlank c = true then [] else c :: trimEnd s := by
  rw [trimEnd, trimEnd, dropEndWhile, dropEndWhile, List.reverse_cons, List.dropWhile_append]
  cases back : s.reverse.dropWhile isBlank with
  | nil =>
    by_cases blank : isBlank c = true <;> simp [blank]
  | cons x r => simp

theorem trimEnd_append {s : Text} (solid : ∀ c ∈ s.getLast?, isBlank c = false) (some_ : s ≠ [])
    (t : Text) : trimEnd (s ++ t) = s ++ trimEnd t := by
  induction s with
  | nil => exact absurd rfl some_
  | cons c s ih =>
    rw [List.cons_append, trimEnd_cons]
    cases s with
    | nil => simp [solid c rfl]
    | cons x s =>
      rw [ih (by simpa using solid) (by simp)]
      simp

theorem trimEnd_eq_nil_iff {s : Text} : trimEnd s = [] ↔ ∀ c ∈ s, isBlank c = true := by
  rw [trimEnd, dropEndWhile, List.reverse_eq_nil_iff, List.dropWhile_eq_nil_iff]
  simp

theorem trim_of_blank {s : Text} (blank : ∀ c ∈ s, isBlank c = true) : trim s = [] := by
  rw [trim, trimStart, List.dropWhile_eq_nil_iff.2 blank]
  rfl

theorem trim_eq_nil_iff {s : Text} : trim s = [] ↔ ∀ c ∈ s, isBlank c = true := by
  refine ⟨fun none_ c member => ?_, trim_of_blank⟩
  rw [trim, trimEnd_eq_nil_iff, trimStart] at none_
  rw [← List.takeWhile_append_dropWhile (p := isBlank) (l := s), List.mem_append] at member
  rcases member with front | behind
  · exact List.mem_takeWhile_imp front
  · exact none_ c behind

theorem trim_append_front {a t : Text} (before : ∀ c ∈ a, isBlank c = true)
    (ends : Ends (fun c => isBlank c = false) t) (some_ : t ≠ []) (b : Text) :
    trim (a ++ (t ++ b)) = t ++ trimEnd b := by
  cases t with
  | nil => exact absurd rfl some_
  | cons c t =>
    have first := ends.1 c rfl
    rw [trim, trimStart, List.dropWhile_append_of_pos before, List.cons_append,
      List.dropWhile_cons_of_neg (by simp [first]), ← List.cons_append,
      trimEnd_append ends.2 (by simp)]

theorem trim_append {a t b : Text} (before : ∀ c ∈ a, isBlank c = true)
    (ends : Ends (fun c => isBlank c = false) t) (behind : ∀ c ∈ b, isBlank c = true) :
    trim (a ++ t ++ b) = t := by
  by_cases none_ : t = []
  · rw [none_, List.append_nil]
    exact trim_of_blank (List.forall_mem_append.2 ⟨before, behind⟩)
  · rw [List.append_assoc, trim_append_front before ends none_, trimEnd_eq_nil_iff.2 behind,
      List.append_nil]

theorem trimEnd_append_blank {b : Text} (blank : ∀ c ∈ b, isBlank c = true) (t : Text) :
    trimEnd (t ++ b) = trimEnd t := by
  have back : ∀ c ∈ b.reverse, isBlank c = true := by simpa using blank
  rw [trimEnd, trimEnd, dropEndWhile, dropEndWhile, List.reverse_append,
    List.dropWhile_append_of_pos back]

theorem dropEndWhile_concat {p : Char → Bool} {t : Text} {c : Char}
    (stop : ∀ x ∈ t.getLast?, p x = false) (passed : p c = true) : dropEndWhile p (t ++ [c]) = t := by
  rw [dropEndWhile, List.reverse_concat, List.dropWhile_cons_of_pos passed]
  cases back : t.reverse with
  | nil => simpa using back.symm
  | cons x r =>
    have last : t.getLast? = some x := by rw [← List.head?_reverse, back, List.head?_cons]
    rw [List.dropWhile_cons_of_neg (by simp [stop x last]), ← back, List.reverse_reverse]

theorem trim_append_blank {b : Text} (blank : ∀ c ∈ b, isBlank c = true) (t : Text) :
    trim (t ++ b) = trim t := by
  unfold trim trimStart
  rw [List.dropWhile_append]
  split
  · next none_ =>
    rw [List.isEmpty_iff] at none_
    rw [none_, List.dropWhile_eq_nil_iff.2 blank]
  · exact trimEnd_append_blank blank _

theorem mem_of_mem_trim {c : Char} {t : Text} (member : c ∈ trim t) : c ∈ t := by
  unfold trim trimEnd dropEndWhile at member
  have inside := (List.dropWhile_sublist _).subset (List.mem_reverse.1 member)
  exact (List.dropWhile_sublist _).subset (List.mem_reverse.1 inside)

theorem words_eq (s : Text) :
    words s = match s.dropWhile isBlank with
      | [] => []
      | c :: r => (c :: r.takeWhile (!isBlank ·)) :: words (r.dropWhile (!isBlank ·)) := by
  rw [words]
  split
  · next blank => rw [blank]
  · next solid => rw [solid]

theorem words_nil : words [] = [] := by
  rw [words_eq]
  rfl

theorem words_append_of_blank {g : Text} (blank : ∀ c ∈ g, isBlank c = true) (s : Text) :
    words (g ++ s) = words s := by
  rw [words_eq, List.dropWhile_append_of_pos blank, ← words_eq]

theorem words_append {w s : Text} (some_ : w ≠ []) (solid : ∀ c ∈ w, isBlank c = false)
    (stop : ∀ x ∈ s.head?, isBlank x = true) : words (w ++ s) = w :: words s := by
  obtain ⟨c, w, rfl⟩ := List.exists_cons_of_ne_nil some_
  rw [List.forall_mem_cons] at solid
  have inside : ∀ x ∈ w, (!isBlank x) = true := fun x member => by simp [solid.2 x member]
  rw [words_eq, List.cons_append, List.dropWhile_cons_of_neg (by simp [solid.1])]
  dsimp only
  cases s with
  | nil =>
    rw [List.append_nil, List.takeWhile_eq_self_iff.2 inside, List.dropWhile_eq_nil_iff.2 inside]
  | cons x s =>
    have blank : (!isBlank x) = false := by simp [stop x rfl]
    rw [takeWhile_append_cons inside blank, dropWhile_append_cons inside blank]

end Text
end ComponentLoader
