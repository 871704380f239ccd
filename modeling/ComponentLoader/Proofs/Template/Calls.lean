import ComponentLoader.Template.Localization
import ComponentLoader.Proofs.Chain.Request
import ComponentLoader.Proofs.Text.Reading

namespace ComponentLoader
namespace TextCall

def argumentText : TextCall → Text
  | key k => '\'' :: (k ++ ['\''])
  | identifier name => name

def Valid : TextCall → Prop
  | key k => ∀ c ∈ k, isKeyChar c = true
  | identifier name => ∃ c rest, name = c :: rest ∧ isNameStart c = true ∧
      ∀ x ∈ rest, isNameChar x = true

def text (gap₁ : Text) (call : TextCall) (gap₂ : Text) : Text :=
  "$t(".toList ++ (gap₁ ++ (call.argumentText ++ (gap₂ ++ [')'])))

def Written (raw : Text) (call : TextCall) : Prop :=
  ∃ gap₁ gap₂, (∀ c ∈ gap₁, isBlank c = true) ∧ (∀ c ∈ gap₂, isBlank c = true) ∧ call.Valid ∧
    raw = text gap₁ call gap₂

theorem not_isNameChar_of_isBlank {c : Char} (blank : isBlank c = true) : isNameChar c = false := by
  have binds : isWordChar c = false := isWordChar_of_isBlank blank
  have other : c ≠ '$' ∧ c ≠ '.' := by
    constructor
    · rintro rfl
      revert blank
      decide
    · rintro rfl
      revert blank
      decide
  simp [isNameChar, binds, other]

theorem not_isBlank_of_isNameStart {c : Char} (start : isNameStart c = true) :
    isBlank c = false := by
  simp only [isNameStart, Bool.or_eq_true, beq_iff_eq] at start
  rcases start with (letter | rfl) | rfl
  · have range : 65 ≤ c.toNat ∧ c.toNat ≤ 122 := by
      rcases Bool.or_eq_true_iff.1 letter with upper | lower
      · have bounds : c.val ≥ 'A'.val ∧ c.val ≤ 'Z'.val := of_decide_eq_true upper
        change 65 ≤ c.toNat ∧ c.toNat ≤ 90 at bounds
        omega
      · obtain ⟨low, high⟩ := Bool.and_eq_true_iff.1 lower
        have least : 97 ≤ c.toNat := of_decide_eq_true low
        have greatest : c.toNat ≤ 122 := of_decide_eq_true high
        omega
    rw [← Bool.not_eq_true, isBlank]
    simp only [Bool.or_eq_true, Bool.and_eq_true, beq_iff_eq, decide_eq_true_eq]
    omega
  · decide
  · decide

theorem eq_of_argument {s rest : Text} {call : TextCall} (read : argument s = some (call, rest)) :
    call.Valid ∧ s = call.argumentText ++ rest := by
  cases s with
  | nil => cases read
  | cons c s =>
    rw [argument] at read
    by_cases quote : c = '\''
    · rw [if_pos quote] at read
      split at read
      · next r behind =>
        cases read
        have whole := List.takeWhile_append_dropWhile (p := isKeyChar) (l := s)
        rw [behind] at whole
        refine ⟨fun x member => List.mem_takeWhile_imp member, ?_⟩
        rw [quote, argumentText, List.cons_append, List.append_assoc, List.singleton_append, whole]
      · cases read
    · rw [if_neg quote] at read
      by_cases start : isNameStart c = true
      · rw [if_pos start] at read
        cases read
        refine ⟨⟨c, _, rfl, start, fun x member => List.mem_takeWhile_imp member⟩, ?_⟩
        rw [argumentText, List.cons_append, List.takeWhile_append_dropWhile]
      · rw [if_neg start] at read
        cases read

theorem argument_append {call : TextCall} (valid : call.Valid) {x : Char} {s : Text}
    (stop : isNameChar x = false) :
    argument (call.argumentText ++ x :: s) = some (call, x :: s) := by
  cases call with
  | key k =>
    have closing : isKeyChar '\'' = false := by decide
    rw [argumentText, List.cons_append, argument, if_pos rfl, List.append_assoc,
      List.singleton_append, Text.dropWhile_append_cons valid closing,
      Text.takeWhile_append_cons valid closing]
    rfl
  | identifier name =>
    obtain ⟨c, rest, rfl, start, plain⟩ := valid
    have quote : c ≠ '\'' := by
      rintro rfl
      revert start
      decide
    rw [argumentText, List.cons_append, argument, if_neg quote, if_pos start,
      Text.dropWhile_append_cons plain stop, Text.takeWhile_append_cons plain stop]

theorem head_argumentText {call : TextCall} (valid : call.Valid) :
    ∃ c t, call.argumentText = c :: t ∧ isBlank c = false := by
  cases call with
  | key k => exact ⟨'\'', _, rfl, by decide⟩
  | identifier name =>
    obtain ⟨c, rest, rfl, start, -⟩ := valid
    exact ⟨c, rest, rfl, not_isBlank_of_isNameStart start⟩

theorem trimStart_append {gap s : Text} (blank : ∀ c ∈ gap, isBlank c = true) {c : Char}
    (solid : isBlank c = false) : Text.trimStart (gap ++ c :: s) = c :: s :=
  Text.dropWhile_append_cons blank solid

theorem eq_of_scanner {s rest : Text} {call : TextCall} (found : scanner s = some (call, rest)) :
    ∃ raw, Written raw call ∧ s = raw ++ rest := by
  simp only [scanner, Option.bind_eq_bind, Option.bind_eq_some_iff, Option.pure_def,
    Option.some.injEq, Prod.exists, Prod.mk.injEq] at found
  obtain ⟨r, opened, call', u, read, v, closed, rfl, rfl⟩ := found
  obtain ⟨valid, argument_⟩ := eq_of_argument read
  rw [Text.dropPrefix?_eq_some] at opened closed
  have first := List.takeWhile_append_dropWhile (p := isBlank) (l := r)
  have second := List.takeWhile_append_dropWhile (p := isBlank) (l := u)
  rw [Text.trimStart] at argument_ closed
  rw [argument_] at first
  rw [closed] at second
  refine ⟨text (r.takeWhile isBlank) call' (u.takeWhile isBlank), ⟨_, _, ?_, ?_, valid, rfl⟩, ?_⟩
  · exact fun c member => List.mem_takeWhile_imp member
  · exact fun c member => List.mem_takeWhile_imp member
  · rw [opened, text]
    conv => lhs; rw [← first, ← second]
    simp only [List.append_assoc]

theorem scanner_append {raw : Text} {call : TextCall} (here : Written raw call) (rest : Text) :
    scanner (raw ++ rest) = some (call, rest) := by
  obtain ⟨gap₁, gap₂, blank₁, blank₂, valid, rfl⟩ := here
  obtain ⟨c, t, front, solid⟩ := head_argumentText valid
  have spelled : text gap₁ call gap₂ ++ rest =
      "$t(".toList ++ (gap₁ ++ (call.argumentText ++ (gap₂ ++ ')' :: rest))) := by
    simp only [text, List.append_assoc, List.singleton_append]
  have opened : Text.trimStart (gap₁ ++ (call.argumentText ++ (gap₂ ++ ')' :: rest))) =
      call.argumentText ++ (gap₂ ++ ')' :: rest) := by
    rw [front]
    exact trimStart_append blank₁ solid
  have read : argument (call.argumentText ++ (gap₂ ++ ')' :: rest)) =
      some (call, gap₂ ++ ')' :: rest) := by
    cases gap₂ with
    | nil => exact argument_append valid (by decide)
    | cons x gap₂ => exact argument_append valid (not_isNameChar_of_isBlank (blank₂ x (by simp)))
  have closed : Text.trimStart (gap₂ ++ ')' :: rest) = ')' :: rest :=
    trimStart_append blank₂ (by decide)
  rw [spelled, scanner, Text.dropPrefix?_append]
  dsimp only [Option.bind_eq_bind, Option.bind_some]
  rw [opened, read]
  dsimp only [Option.bind_some]
  rw [closed]
  rfl

theorem scanner_takes : scanner.Takes Written where
  ne_nil := by
    rintro raw call ⟨gap₁, gap₂, -, -, -, rfl⟩
    simp [text]
  sound := eq_of_scanner
  complete := scanner_append

-- A quote in a call begins its key or ends it.
theorem quote_of_written {raw a b : Text} {call : TextCall} (here : Written raw call)
    (found : raw = a ++ '\'' :: b) :
    (∃ gap, (∀ c ∈ gap, isBlank c = true) ∧ a = "$t(".toList ++ gap) ∨
      ∃ gap, (∀ c ∈ gap, isBlank c = true) ∧ b = gap ++ [')'] := by
  obtain ⟨gap₁, gap₂, blank₁, blank₂, valid, rfl⟩ := here
  have opening : '\'' ∉ "$t(".toList ++ gap₁ := by
    simpa using Text.not_mem_of_forall blank₁ (x := '\'') (by decide)
  have closing : '\'' ∉ gap₂ ++ [')'] := by
    simpa using Text.not_mem_of_forall blank₂ (x := '\'') (by decide)
  cases call with
  | key k =>
    have inside : '\'' ∉ k := Text.not_mem_of_forall valid (by decide)
    have spelled : text gap₁ (.key k) gap₂ =
        ("$t(".toList ++ gap₁) ++ '\'' :: (k ++ '\'' :: (gap₂ ++ [')'])) := by
      simp [text, argumentText]
    rw [spelled] at found
    rcases Text.eq_or_eq_of_twice opening inside closing found.symm with before | behind
    · exact .inl ⟨gap₁, blank₁, before⟩
    · exact .inr ⟨gap₂, blank₂, behind⟩
  | identifier name =>
    obtain ⟨c, rest, rfl, start, plain⟩ := valid
    have front : '\'' ≠ c := by
      intro same
      rw [← same] at start
      exact absurd start (by decide)
    have named : '\'' ∉ c :: rest :=
      List.not_mem_cons_of_ne_of_not_mem front (Text.not_mem_of_forall plain (by decide))
    have spelled : text gap₁ (.identifier (c :: rest)) gap₂ =
        ("$t(".toList ++ gap₁) ++ ((c :: rest) ++ (gap₂ ++ [')'])) := by
      rw [text, argumentText, List.append_assoc]
    have member : '\'' ∈ a ++ '\'' :: b := by
      simp
    rw [← found, spelled] at member
    rcases List.mem_append.1 member with early | later
    · exact absurd early opening
    · rcases List.mem_append.1 later with here | late
      · exact absurd here named
      · exact absurd late closing

theorem eq_nil_of_head_in_gap {q gap : Text} (blank : ∀ c ∈ gap, isBlank c = true)
    (same : q ++ "$t(".toList = "$t(".toList ++ gap) : q = [] := by
  have solid : '(' ∉ gap := Text.not_mem_of_forall blank (by decide)
  rcases eq_or_ne gap [] with rfl | long
  · rw [List.append_nil] at same
    exact List.append_left_eq_self.1 same
  · have ends : gap.getLast? = some '(' := by
      rw [← List.getLast?_append_of_ne_nil "$t(".toList long, ← same, List.getLast?_append]
      rfl
    exact absurd (List.mem_of_getLast? ends) solid

theorem not_closed_in_front {front more gap r : Text} (closing : ')' ∉ front)
    (blank : ∀ c ∈ gap, isBlank c = true) : front ++ '.' :: more ≠ gap ++ ')' :: r := by
  intro whole
  have dot : '.' ∉ gap := Text.not_mem_of_forall blank (by decide)
  rcases List.append_eq_append_iff.1 whole with ⟨v, same, rest⟩ | ⟨v, same, rest⟩
  · cases v with
    | nil => cases rest
    | cons y v =>
      rw [List.cons_append] at rest
      injection rest with first
      exact dot (by simp [same, ← first])
  · cases v with
    | nil => cases rest
    | cons y v =>
      rw [List.cons_append] at rest
      injection rest with first
      exact closing (by simp [same, ← first])

-- A call that begins in front of another with a longer key does not reach over the other's head.
theorem prefix_of_longer_key {raw q front more : Text} {call : TextCall} (here : Written raw call)
    (some_ : q ≠ []) (closing : ')' ∉ front)
    (found : raw <+: q ++ ("$t(".toList ++ '\'' :: (front ++ '.' :: more))) :
    raw <+: q ++ "$t(".toList := by
  obtain ⟨r, whole⟩ := found
  rw [← List.append_assoc] at whole
  rcases List.append_eq_append_iff.1 whole with ⟨a, inside, -⟩ | ⟨u, longer, behind⟩
  · exact ⟨a, inside.symm⟩
  · cases u with
    | nil => rw [longer, List.append_nil]
    | cons x u =>
      rw [List.cons_append] at behind
      injection behind with quote behind
      rw [← quote] at longer
      rcases quote_of_written here longer with ⟨gap, blank, before⟩ | ⟨gap, blank, last⟩
      · exact absurd (eq_nil_of_head_in_gap blank before) some_
      · rw [last, List.append_assoc] at behind
        exact absurd behind (not_closed_in_front closing blank)

end TextCall
end ComponentLoader
