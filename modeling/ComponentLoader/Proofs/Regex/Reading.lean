import ComponentLoader.Regex.Meaning
import ComponentLoader.Proofs.Text.Search
import Mathlib.Data.List.Basic

namespace ComponentLoader.Regex

open Reading (alternatives?)

def plain (rest : Text) (groups : Nat) : Reading := ⟨rest, false, groups, []⟩

-- `s` becomes these nodes when no sign of a count makes more of the last. There is always more fuel
-- than text.
def Reads (s : Text) (before : Nat) (nodes : List Node) (after : Nat) : Prop :=
  ∀ fuel rest done items, (s ++ rest).length < fuel → rest.head? ≠ some '?' →
    ∃ left, rest.length < left ∧ alternatives? fuel (plain (s ++ rest) before) done items =
      alternatives? left (plain rest after) done (nodes.reverse ++ items)

def Encloses (s : Text) (before : Nat) (n : Node) (after : Nat) : Prop :=
  ∀ fuel rest, (s ++ ')' :: rest).length < fuel →
    alternatives? fuel (plain (s ++ ')' :: rest) before) [] [] =
      some (n, plain (')' :: rest) after)

namespace Reads

variable {s t : Text} {m n k : Nat} {xs ys : List Node}

theorem nil : Reads [] n [] n := fun fuel _ _ _ more _ => ⟨fuel, more, rfl⟩

theorem append (first : Reads s k xs m) (second : Reads t m ys n) (head : t.head? ≠ some '?')
    (some_ : t ≠ []) : Reads (s ++ t) k (xs ++ ys) n := by
  intro fuel rest done items more follows
  rw [List.append_assoc] at more ⊢
  have next : (t ++ rest).head? ≠ some '?' := by
    cases t with
    | nil => exact absurd rfl some_
    | cons c t => exact head
  obtain ⟨left, enough, same⟩ := first fuel (t ++ rest) done items more next
  obtain ⟨last, room, rest⟩ := second left rest done (xs.reverse ++ items) enough follows
  exact ⟨last, room, by rw [same, rest, List.reverse_append, List.append_assoc]⟩

theorem cons {c : Char} (first : Reads s k xs m) (second : Reads (c :: t) m ys n)
    (other : c ≠ '?') : Reads (s ++ c :: t) k (xs ++ ys) n :=
  first.append second (by simpa using other) (List.cons_ne_nil c t)

theorem of_step {c : Char} {x : Node}
    (step : ∀ fuel rest done items, rest.head? ≠ some '?' → (c :: s ++ rest).length < fuel + 1 →
      alternatives? (fuel + 1) (plain (c :: s ++ rest) m) done items =
        alternatives? fuel (plain rest n) done (x :: items)) : Reads (c :: s) m [x] n := by
  intro fuel rest done items more follows
  cases fuel with
  | zero => simp at more
  | succ fuel =>
    refine ⟨fuel, ?_, step fuel rest done items follows more⟩
    simp only [List.cons_append, List.length_cons, List.length_append] at more
    omega

end Reads

theorem mem_specials : ∀ c ∈ [')', '|', '(', '[', '*', '+', '?', '\x7b', '.', '^', '$', '\\'],
    c ∈ specials := Text.forall_of_all (by decide)

theorem readCounted?_of_usual {c : Char} (usual : c ∉ specials) (items : List Node) (s : Text) :
    readCounted? false items c s = none := by
  have ne : ∀ d ∈ specials, c ≠ d := fun d special same => usual (same ▸ special)
  have star := ne '*' (mem_specials _ (by simp))
  have plus := ne '+' (mem_specials _ (by simp))
  have mark := ne '?' (mem_specials _ (by simp))
  have brace := ne '\x7b' (mem_specials _ (by simp))
  simp [readCounted?, star, plus, mark, brace]

theorem readAtom?_of_usual {c : Char} (usual : c ∉ specials) (s : Text) :
    readAtom? false c s = some (.literal ⟨c, false⟩, s) := by
  have ne : ∀ d ∈ specials, c ≠ d := fun d special same => usual (same ▸ special)
  have dot := ne '.' (mem_specials _ (by simp))
  have caret := ne '^' (mem_specials _ (by simp))
  have dollar := ne '$' (mem_specials _ (by simp))
  have backslash := ne '\\' (mem_specials _ (by simp))
  simp [readAtom?, dot, caret, dollar, backslash]

-- A character that opens nothing and ends nothing is the sign of a count or an item.
theorem alternatives?_char {c : Char} {s : Text} (opens : c ∉ [')', '|', '(', '['])
    (fuel n : Nat) (done items : List Node) :
    alternatives? (fuel + 1) (plain (c :: s) n) done items =
      match readCounted? false items c s with
      | some (some (items, r)) => alternatives? fuel (plain r n) done items
      | some none => none
      | none =>
        match readAtom? false c s with
        | some (x, r) => alternatives? fuel (plain r n) done (x :: items)
        | none => none := by
  simp only [List.mem_cons, not_or] at opens
  rw [alternatives?]
  simp only [plain, gap, Bool.false_eq_true, if_false, Reading.moveTo]
  split
  · next same => cases same
  · next same => cases same; exact absurd rfl opens.1
  · next same => cases same; exact absurd rfl opens.2.1
  · next same => cases same; exact absurd rfl opens.2.2.1
  · next same => cases same; exact absurd rfl opens.2.2.2.1
  · next same =>
    cases same
    rfl

theorem reads_atom {c : Char} {s : Text} {x : Node} (n : Nat) (opens : c ∉ [')', '|', '(', '['])
    (uncounted : ∀ items r, readCounted? false items c r = none)
    (read : ∀ r, readAtom? false c (s ++ r) = some (x, r)) : Reads (c :: s) n [x] n := by
  apply Reads.of_step
  intro fuel rest done items _ _
  rw [List.cons_append, alternatives?_char opens, uncounted, read]

theorem reads_literal {c : Char} (usual : c ∉ specials) (n : Nat) :
    Reads [c] n [.literal ⟨c, false⟩] n := by
  refine reads_atom n (fun opens => usual ?_) (readCounted?_of_usual usual)
    (readAtom?_of_usual usual)
  exact mem_specials c (List.mem_of_mem_take (i := 4) opens)

theorem readEscape?_of_special {c : Char} (special : c ∈ specials) (r : Text) :
    readEscape? false (c :: r) = some (.literal ⟨c, false⟩, r) := by
  have known : ∀ c ∈ specials, (hexWidth? c).isNone = true ∧ ¬(c = 'p' ∨ c = 'P') ∧ ¬c = 'b' ∧
      (shorthand? c).isNone = true ∧ (control? c).isNone = true ∧ (mark? c).isNone = true ∧
      (c.toNat < 128 ∧ !c.isAlphanum) := Text.forall_of_all (by decide)
  obtain ⟨width, property, boundary, shorthand, control, mark, sign⟩ := known c special
  rw [Option.isNone_iff_eq_none] at width shorthand control mark
  simp only [readEscape?, width, shorthand, control, mark]
  rw [if_neg property, if_neg boundary, if_pos sign]

theorem readAtom?_backslash {r rest : Text} {p : Primitive} {x : Node}
    (read : readEscape? false r = some (p, rest))
    (node : x = match p with
      | .literal l => .literal l
      | .oneOf c => .oneOf c
      | .mark m => .mark m) : readAtom? false '\\' r = some (x, rest) := by
  subst node
  have apart : '\\' ≠ '.' ∧ '\\' ≠ '^' ∧ '\\' ≠ '$' := by decide
  simp only [readAtom?, apart, if_false, if_true, read]
  cases p <;> rfl

theorem reads_escaped {c : Char} (special : c ∈ specials) (n : Nat) :
    Reads ['\\', c] n [.literal ⟨c, false⟩] n :=
  reads_atom n (by decide) (fun _ _ => by simp [readCounted?]) fun r =>
    readAtom?_backslash (readEscape?_of_special special r) rfl

def literals (s : Text) : List Node := s.map fun c => .literal ⟨c, false⟩

theorem reads_escapeChar (c : Char) (n : Nat) : Reads (escapeChar c) n [.literal ⟨c, false⟩] n := by
  rw [escapeChar]
  split
  · next special => exact reads_escaped special n
  · next usual => exact reads_literal usual n

theorem escapeChar_begins (c : Char) :
    (escapeChar c).head? ≠ some '?' ∧ escapeChar c ≠ [] := by
  rw [escapeChar]
  split
  · exact ⟨by simp, List.cons_ne_nil _ _⟩
  · next usual =>
    refine ⟨?_, List.cons_ne_nil _ _⟩
    rw [List.head?_cons, ne_eq, Option.some.injEq]
    rintro rfl
    exact usual (mem_specials _ (by simp))

theorem head?_escapeText (s : Text) : (escapeText s).head? ≠ some '?' := by
  cases s with
  | nil => simp [escapeText]
  | cons c s =>
    obtain ⟨head, some_⟩ := escapeChar_begins c
    rwa [escapeText, List.flatMap_cons, List.head?_append_of_ne_nil _ some_]

theorem reads_escapeText (s : Text) (n : Nat) : Reads (escapeText s) n (literals s) n := by
  induction s with
  | nil => exact .nil
  | cons c s ih =>
    cases s with
    | nil =>
      rw [escapeText, List.flatMap_singleton]
      exact reads_escapeChar c n
    | cons d s =>
      have whole : escapeText (c :: d :: s) = escapeChar c ++ escapeText (d :: s) :=
        List.flatMap_cons
      rw [whole]
      refine (reads_escapeChar c n).append ih (head?_escapeText _) ?_
      rw [escapeText, List.flatMap_cons]
      exact List.append_ne_nil_of_left_ne_nil (escapeChar_begins d).2 _

theorem reads_class {s : Text} {c : Class} (n : Nat)
    (read : ∀ fuel r, (s ++ r).length < fuel → readClass fuel false (s ++ r) = some (c, r)) :
    Reads ('[' :: s) n [.oneOf c] n := by
  apply Reads.of_step
  intro fuel rest done items _ _
  rw [alternatives?]
  simp only [plain, gap, Bool.false_eq_true, if_false, List.cons_append, Reading.moveTo]
  rw [read _ rest (Nat.lt_succ_self _)]

theorem repeatLast?_greedy {x : Node} (repeatable : x.isRepeatable = true)
    (count : Nat × Option Nat) (items : List Node) {rest : Text} (follows : rest.head? ≠ some '?') :
    repeatLast? count (x :: items) rest = some (.repeated count.1 count.2 true x :: items, rest) := by
  unfold repeatLast?
  simp only [repeatable, Bool.not_true, Bool.false_eq_true, if_false]
  split
  · exact absurd rfl follows
  · rfl

theorem repeatLast?_lazy {x : Node} (repeatable : x.isRepeatable = true)
    (count : Nat × Option Nat) (items : List Node) (rest : Text) :
    repeatLast? count (x :: items) ('?' :: rest) =
      some (.repeated count.1 count.2 false x :: items, rest) := by
  simp only [repeatLast?, repeatable, Bool.not_true, Bool.false_eq_true, if_false]

-- The sign of a count changes the item before it.
theorem alternatives?_counted {c : Char} {s rest : Text} {items items' : List Node}
    (opens : c ∉ [')', '|', '(', '['])
    (read : readCounted? false items c s = some (some (items', rest))) (fuel n : Nat)
    (done : List Node) :
    alternatives? (fuel + 1) (plain (c :: s) n) done items =
      alternatives? fuel (plain rest n) done items' := by
  rw [alternatives?_char opens, read]

theorem Reads.counted {s sign : Text} {c : Char} {x y : Node} {m n : Nat} (item : Reads s m [x] n)
    (opens : c ∉ [')', '|', '(', '[', '?'])
    (read : ∀ items rest, rest.head? ≠ some '?' →
      readCounted? false (x :: items) c (sign ++ rest) = some (some (y :: items, rest))) :
    Reads (s ++ c :: sign) m [y] n := by
  intro fuel rest done items more follows
  rw [List.append_assoc] at more ⊢
  have next : (c :: sign ++ rest).head? ≠ some '?' := by
    simp only [List.mem_cons, not_or] at opens
    simpa using opens.2.2.2.2.1
  obtain ⟨left, enough, same⟩ := item fuel (c :: sign ++ rest) done items more next
  cases left with
  | zero => simp at enough
  | succ left =>
    refine ⟨left, ?_, same.trans ?_⟩
    · simp only [List.cons_append, List.length_cons, List.length_append] at enough
      omega
    · refine alternatives?_counted (fun opened => opens ?_) (read items rest follows) left n done
      exact List.mem_of_mem_take (i := 4) opened

theorem Reads.star {s : Text} {x : Node} {m n : Nat} (item : Reads s m [x] n)
    (repeatable : x.isRepeatable = true) : Reads (s ++ ['*']) m [.repeated 0 none true x] n :=
  item.counted (by decide) fun items _ follows => by
    simp only [readCounted?, if_true, List.nil_append,
      repeatLast?_greedy repeatable (0, none) items follows]

theorem Reads.lazyStar {s : Text} {x : Node} {m n : Nat} (item : Reads s m [x] n)
    (repeatable : x.isRepeatable = true) : Reads (s ++ ['*', '?']) m [.repeated 0 none false x] n :=
  item.counted (by decide) fun items rest _ => by
    simp only [readCounted?, if_true, List.cons_append, List.nil_append,
      repeatLast?_lazy repeatable (0, none) items rest]

theorem Reads.encloses {s : Text} {m n : Nat} {xs : List Node} (read : Reads s m xs n) :
    Encloses s m (.ofSequence xs) n := by
  intro fuel rest more
  obtain ⟨left, enough, same⟩ := read fuel (')' :: rest) [] [] more (by simp)
  cases left with
  | zero => simp at enough
  | succ left =>
    rw [same, alternatives?]
    simp [plain, gap, Reading.moveTo, Node.ofAlternatives]

theorem Reads.encloses_or {s t : Text} {k m n : Nat} {xs ys : List Node} (left : Reads s k xs m)
    (right : Reads t m ys n) :
    Encloses (s ++ '|' :: t) k (.ofAlternatives [.ofSequence xs, .ofSequence ys]) n := by
  intro fuel rest more
  rw [List.append_assoc] at more ⊢
  obtain ⟨f, enough, first⟩ := left fuel ('|' :: t ++ ')' :: rest) [] [] more (by simp)
  cases f with
  | zero => simp at enough
  | succ f =>
    have room : (t ++ ')' :: rest).length < f := by simpa using enough
    obtain ⟨g, enough, second⟩ :=
      right f (')' :: rest) [.ofSequence xs] [] room (by simp)
    cases g with
    | zero => simp at enough
    | succ g =>
      have bar : alternatives? (f + 1) (plain ('|' :: t ++ ')' :: rest) m) [] (xs.reverse ++ []) =
          alternatives? f (plain (t ++ ')' :: rest) m) [.ofSequence xs] [] := by
        rw [alternatives?]
        simp [plain, gap, Reading.moveTo]
      rw [first, bar, second, alternatives?]
      simp [plain, gap, Reading.moveTo, Node.ofAlternatives]

theorem Encloses.group {s : Text} {x : Node} {m n : Nat} (inner : Encloses s (m + 1) x n)
    (named : s.head? ≠ some '?') : Reads ('(' :: s ++ [')']) m [.group (m + 1) x] n := by
  rw [List.cons_append]
  apply Reads.of_step
  intro fuel rest done items _ more
  have room : (s ++ ')' :: rest).length < fuel := by simpa using more
  have opened : (plain ('(' :: s ++ [')'] ++ rest) m).open? (s ++ ')' :: rest) =
      some (.group (m + 1), plain (s ++ ')' :: rest) (m + 1)) := by
    unfold Reading.open?
    simp only [plain, gap, Bool.false_eq_true, if_false]
    split
    · next same => cases s <;> simp_all
    · next same => cases s <;> simp_all
    · next same => cases s <;> simp_all
    · rfl
  rw [alternatives?]
  simp only [plain, gap, Bool.false_eq_true, if_false, List.cons_append, List.append_assoc,
    List.nil_append] at opened ⊢
  rw [opened]
  dsimp only
  rw [show (⟨s ++ ')' :: rest, false, m + 1, []⟩ : Reading) = plain (s ++ ')' :: rest) (m + 1) from
    rfl, inner fuel rest room]
  rfl

theorem alternatives?_scope {s : Text} {x : Node} {m n : Nat} (inner : Encloses s m x n)
    {fuel : Nat} {rest : Text} (room : (s ++ ')' :: rest).length < fuel) (done items : List Node) :
    alternatives? (fuel + 1) (plain ('(' :: '?' :: ':' :: s ++ ')' :: rest) m) done items =
      alternatives? fuel (plain rest n) done (.scope [] x :: items) := by
  have opened : (plain ('(' :: '?' :: ':' :: s ++ ')' :: rest) m).open?
      ('?' :: ':' :: s ++ ')' :: rest) = some (.scope [], plain (s ++ ')' :: rest) m) := by
    simp [Reading.open?, plain, gap, readFlags?, Reading.afterFlags, Reading.moveTo]
  rw [alternatives?]
  simp only [plain, gap, Bool.false_eq_true, if_false, List.cons_append] at opened ⊢
  rw [opened]
  dsimp only
  rw [show (⟨s ++ ')' :: rest, false, m, []⟩ : Reading) = plain (s ++ ')' :: rest) m from rfl,
    inner fuel rest room]
  rfl

theorem Encloses.scope {s : Text} {x : Node} {m n : Nat} (inner : Encloses s m x n) :
    Reads ('(' :: '?' :: ':' :: s ++ [')']) m [.scope [] x] n := by
  simp only [List.cons_append]
  apply Reads.of_step
  intro fuel rest done items _ more
  have room : (s ++ ')' :: rest).length < fuel := by
    simp only [List.cons_append, List.length_cons, List.length_append, List.append_assoc,
      List.nil_append] at more ⊢
    omega
  simpa using alternatives?_scope inner room done items

theorem Encloses.optional {s : Text} {x : Node} {m n : Nat} (inner : Encloses s m x n) :
    Reads ('(' :: '?' :: ':' :: s ++ [')', '?']) m [.repeated 0 (some 1) true (.scope [] x)] n := by
  intro fuel rest done items more follows
  have length : (s ++ ')' :: '?' :: rest).length = s.length + rest.length + 2 := by
    simp only [List.length_append, List.length_cons]
    omega
  simp only [List.cons_append, List.length_cons, List.length_append, List.append_assoc,
    List.nil_append] at more
  match fuel, more with
  | fuel + 2, more =>
    have room : (s ++ ')' :: '?' :: rest).length < fuel + 1 := by omega
    have first := alternatives?_scope inner room done items
    have read : readCounted? false (.scope [] x :: items) '?' rest =
        some (some (.repeated 0 (some 1) true (.scope [] x) :: items, rest)) := by
      have greedy := repeatLast?_greedy (x := .scope [] x) rfl (0, some 1) items follows
      simp [readCounted?, greedy]
    have second := alternatives?_counted (by decide) read fuel n done
    refine ⟨fuel, by omega, Eq.trans ?_ (first.trans second)⟩
    simp

theorem reads_dotAll (n : Nat) : Reads ['(', '?', 's', ')'] n [.flags [(.dotAll, true)]] n := by
  apply Reads.of_step
  intro fuel rest done items _ _
  rw [alternatives?]
  simp [plain, gap, Reading.open?, readFlags?, flag?, Reading.afterFlags, Reading.moveTo]

theorem reads_dot (n : Nat) : Reads ['.'] n [.dot] n :=
  reads_atom n (by decide) (fun _ _ => by simp [readCounted?]) fun _ => by simp [readAtom?]

theorem reads_blank (n : Nat) : Reads ['\\', 's'] n [.oneOf (.shorthand false .blank)] n :=
  reads_atom n (by decide) (fun _ _ => by simp [readCounted?]) fun r =>
    readAtom?_backslash (p := .oneOf (.shorthand false .blank)) (by rfl) rfl

theorem Reads.parse? {s : Text} {xs : List Node} {n : Nat} (read : Reads s 0 xs n) :
    Node.parse? s = some (.ofSequence xs, []) := by
  obtain ⟨left, enough, same⟩ := read (s.length + 1) [] [] [] (by simp) (by simp)
  cases left with
  | zero => simp at enough
  | succ left =>
    rw [List.append_nil] at same
    rw [Node.parse?, show ({ rest := s } : Reading) = plain s 0 from rfl, same, alternatives?]
    simp [plain, gap, Reading.moveTo, Node.ofAlternatives]

end ComponentLoader.Regex
