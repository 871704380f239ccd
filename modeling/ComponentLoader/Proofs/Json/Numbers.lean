import ComponentLoader.Json.Parser
import ComponentLoader.Json.Printer
import Mathlib.Algebra.Group.Int.Defs
import Mathlib.Algebra.Group.Nat.Defs

namespace ComponentLoader
namespace Number

def isPart (c : Char) : Bool :=
  c.isDigit || c = '.' || c = 'e' || c = 'E' || c = '+' || c = '-'

-- A text that does not go on a number in front of it.
def Ends (r : Text) : Prop := ∀ c s, r = c :: s → isPart c = false

def reread? (n : Number) : Option Number := (read? (n.render true)).map (·.1)

variable {r : Text}

theorem ends_nil : Ends [] := by
  intro c s same
  cases same

theorem ends_cons {c : Char} (other : isPart c = false) (s : Text) : Ends (c :: s) := by
  intro d t same
  cases same
  exact other

theorem not_isDigit_of_not_isPart {c : Char} (other : isPart c = false) : c.isDigit = false := by
  simp only [isPart, Bool.or_eq_false_iff] at other
  exact other.1.1.1.1.1

theorem digitsOf_append (ends : Ends r) (t : Text) :
    digitsOf (t ++ r) = ((digitsOf t).1, (digitsOf t).2 ++ r) := by
  induction t with
  | nil =>
    cases r with
    | nil => rfl
    | cons c r =>
      have other := not_isDigit_of_not_isPart (ends c r rfl)
      simp [digitsOf, other]
  | cons c t ih =>
    simp only [digitsOf, Prod.mk.injEq] at ih
    cases digit : c.isDigit <;> simp [digitsOf, digit, ih]

theorem signOf_cons (c : Char) (s : Text) :
    signOf (c :: s) = if c = '-' then (true, s) else (false, c :: s) := by
  split
  · next minus => rw [minus, signOf]
  · next other =>
    rw [signOf]
    rintro t ⟨⟩
    exact other rfl

theorem powerSignOf_cons (c : Char) (s : Text) :
    powerSignOf (c :: s) = if c = '+' then (false, s) else signOf (c :: s) := by
  split
  · next plus => rw [plus, powerSignOf]
  · next other =>
    rw [powerSignOf]
    rintro t ⟨⟩
    exact other rfl

theorem fraction?_cons (c : Char) (s : Text) : fraction? (c :: s) =
    if c = '.' then
      if (digitsOf s).1 = [] then none else some (some (digitsOf s).1, (digitsOf s).2)
    else some (none, c :: s) := by
  split
  · next point => rw [point, fraction?]
  · next other =>
    rw [fraction?]
    rintro t ⟨⟩
    exact other rfl

theorem signOf_of_ends (ends : Ends r) : signOf r = (false, r) := by
  cases r with
  | nil => rfl
  | cons c r =>
    have other : c ≠ '-' := by
      rintro rfl
      cases ends _ _ rfl
    rw [signOf_cons, if_neg other]

theorem powerSignOf_of_ends (ends : Ends r) : powerSignOf r = (false, r) := by
  cases r with
  | nil => rfl
  | cons c r =>
    have other : c ≠ '+' := by
      rintro rfl
      cases ends _ _ rfl
    rw [powerSignOf_cons, if_neg other, signOf_of_ends ends]

theorem fraction?_of_ends (ends : Ends r) : fraction? r = some (none, r) := by
  cases r with
  | nil => rfl
  | cons c r =>
    have other : c ≠ '.' := by
      rintro rfl
      cases ends _ _ rfl
    rw [fraction?_cons, if_neg other]

theorem power?_of_ends (ends : Ends r) : power? r = some (none, r) := by
  cases r with
  | nil => rfl
  | cons c r =>
    have other : ¬(c = 'e' ∨ c = 'E') := by
      rintro (rfl | rfl)
      · cases ends _ _ rfl
      · cases ends _ _ rfl
    rw [power?, if_neg other]

theorem signOf_append (ends : Ends r) (t : Text) :
    signOf (t ++ r) = ((signOf t).1, (signOf t).2 ++ r) := by
  cases t with
  | nil => exact signOf_of_ends ends
  | cons c t =>
    rw [List.cons_append, signOf_cons, signOf_cons]
    split <;> rfl

theorem powerSignOf_append (ends : Ends r) (t : Text) :
    powerSignOf (t ++ r) = ((powerSignOf t).1, (powerSignOf t).2 ++ r) := by
  cases t with
  | nil => exact powerSignOf_of_ends ends
  | cons c t =>
    rw [List.cons_append, powerSignOf_cons, powerSignOf_cons, ← List.cons_append,
      signOf_append ends]
    split <;> rfl

theorem fraction?_append (ends : Ends r) (t : Text) :
    fraction? (t ++ r) = (fraction? t).map fun p => (p.1, p.2 ++ r) := by
  cases t with
  | nil => exact fraction?_of_ends ends
  | cons c t =>
    rw [List.cons_append, fraction?_cons, fraction?_cons, digitsOf_append ends]
    dsimp only
    split
    · split <;> rfl
    · rfl

theorem power?_append (ends : Ends r) (t : Text) :
    power? (t ++ r) = (power? t).map fun p => (p.1, p.2 ++ r) := by
  cases t with
  | nil => exact power?_of_ends ends
  | cons c t =>
    rw [List.cons_append, power?, power?, powerSignOf_append ends]
    dsimp only
    rw [digitsOf_append ends]
    dsimp only
    split
    · split <;> rfl
    · rfl

theorem read?_append (ends : Ends r) (t : Text) :
    read? (t ++ r) = (read? t).map fun p => (p.1, p.2 ++ r) := by
  unfold read?
  rw [signOf_append ends]
  dsimp only
  rw [digitsOf_append ends]
  dsimp only
  split
  · rfl
  · rw [fraction?_append ends]
    cases fraction? (digitsOf (signOf t).2).2 with
    | none => rfl
    | some p =>
      have power := power?_append ends p.2
      cases read : power? p.2 with
      | none =>
        rw [read] at power
        simp [read, power]
      | some q =>
        rw [read] at power
        simp [read, power, Function.comp_def]

-- A text that is read as a number as a whole, or not at all.
def Whole (t : Text) : Prop := ∃ n : Option Number, read? t = n.map (·, [])

def AllDigits (t : Text) : Prop := ∀ c ∈ t, c.isDigit = true

theorem allDigits_ofNat (n : Nat) : AllDigits (Text.ofNat n) := fun _ member =>
  Nat.isDigit_of_mem_toDigits (by decide) (by decide) member

theorem digitsOf_of_allDigits {ds : Text} (digits : AllDigits ds) {s : Text}
    (stop : ∀ c t, s = c :: t → c.isDigit = false) : digitsOf (ds ++ s) = (ds, s) := by
  induction ds with
  | nil =>
    cases s with
    | nil => rfl
    | cons c s => simp [digitsOf, stop c s rfl]
  | cons c ds ih =>
    obtain ⟨here, later⟩ := List.forall_mem_cons.1 digits
    have rest := ih later
    simp only [digitsOf, Prod.mk.injEq] at rest
    simp [digitsOf, here, rest]

theorem digitsOf_allDigits {ds : Text} (digits : AllDigits ds) : digitsOf ds = (ds, []) := by
  have whole := digitsOf_of_allDigits digits (s := []) fun c t same => by cases same
  rwa [List.append_nil] at whole

theorem signOf_digit {c : Char} (digit : c.isDigit = true) (s : Text) :
    signOf (c :: s) = (false, c :: s) := by
  have other : c ≠ '-' := by
    rintro rfl
    cases digit
  rw [signOf_cons, if_neg other]

theorem signOf_allDigits {ds : Text} (digits : AllDigits ds) : signOf ds = (false, ds) := by
  cases ds with
  | nil => rfl
  | cons c ds => exact signOf_digit (digits c List.mem_cons_self) ds

theorem powerSignOf_allDigits {ds : Text} (digits : AllDigits ds) :
    powerSignOf ds = (false, ds) := by
  cases ds with
  | nil => rfl
  | cons c ds =>
    have other : c ≠ '+' := by
      rintro rfl
      cases digits _ List.mem_cons_self
    rw [powerSignOf_cons, if_neg other, signOf_digit (digits c List.mem_cons_self)]

inductive PowerText : Text → Prop where
  | absent : PowerText []
  | given {sign ds : Text} (signed : sign = [] ∨ sign = ['-'] ∨ sign = ['+'])
    (digits : AllDigits ds) : PowerText ('e' :: (sign ++ ds))

inductive FractionText : Text → Prop where
  | absent : FractionText []
  | given {ds : Text} (digits : AllDigits ds) : FractionText ('.' :: ds)

theorem PowerText.read {t : Text} (power : PowerText t) :
    ∃ p : Option (Option Int), power? t = p.map (·, []) := by
  cases power with
  | absent => exact ⟨some none, rfl⟩
  | @given sign ds signed digits =>
    have rest : (powerSignOf (sign ++ ds)).2 = ds := by
      rcases signed with rfl | rfl | rfl
      · rw [List.nil_append, powerSignOf_allDigits digits]
      · rfl
      · rfl
    rw [power?, if_pos (.inl rfl)]
    dsimp only
    rw [rest, digitsOf_allDigits digits]
    dsimp only
    split
    · exact ⟨none, rfl⟩
    · exact ⟨some (some _), rfl⟩

theorem PowerText.stops {t s : Text} {c : Char} (power : PowerText t) (begins : t = c :: s) :
    c.isDigit = false ∧ c ≠ '.' := by
  cases power with
  | absent => cases begins
  | given =>
    cases begins
    decide

theorem FractionText.read {t p : Text} (fraction : FractionText t) (power : PowerText p) :
    ∃ f : Option (Option Text), fraction? (t ++ p) = f.map (·, p) := by
  have stop : ∀ c s, p = c :: s → c.isDigit = false := fun c s begins => (power.stops begins).1
  cases fraction with
  | absent =>
    refine ⟨some none, ?_⟩
    cases p with
    | nil => rfl
    | cons c p =>
      rw [List.nil_append, fraction?_cons, if_neg (power.stops rfl).2]
      rfl
  | @given ds digits =>
    rw [List.cons_append, fraction?_cons, if_pos rfl, digitsOf_of_allDigits digits stop]
    dsimp only
    split
    · exact ⟨none, rfl⟩
    · exact ⟨some (some _), rfl⟩

theorem FractionText.stops {t p s : Text} {c : Char} (fraction : FractionText t)
    (power : PowerText p) (begins : t ++ p = c :: s) : c.isDigit = false := by
  cases fraction with
  | absent => exact (power.stops begins).1
  | given =>
    cases begins
    decide

theorem whole_of_parts {whole fraction power : Text} (negative : Bool) (some_ : whole ≠ [])
    (digits : AllDigits whole) (point : FractionText fraction) (raised : PowerText power) :
    Whole ((if negative then ['-'] else []) ++ (whole ++ (fraction ++ power))) := by
  have sign : signOf ((if negative then ['-'] else []) ++ (whole ++ (fraction ++ power))) =
      (negative, whole ++ (fraction ++ power)) := by
    cases negative with
    | true => rfl
    | false =>
      rw [if_neg Bool.false_ne_true, List.nil_append]
      obtain ⟨c, whole, rfl⟩ := List.exists_cons_of_ne_nil some_
      exact signOf_digit (digits c List.mem_cons_self) _
  obtain ⟨f, before⟩ := point.read raised
  obtain ⟨p, behind⟩ := raised.read
  unfold Whole read?
  rw [sign]
  dsimp only
  rw [digitsOf_of_allDigits digits fun c s begins => point.stops raised begins]
  dsimp only
  split
  · exact ⟨none, rfl⟩
  · rw [before]
    cases f with
    | none => exact ⟨none, rfl⟩
    | some f =>
      cases p with
      | none => exact ⟨none, by simp [behind]⟩
      | some p => exact ⟨ofRead? negative whole f p, by simp [behind]⟩

inductive BodyText : Text → Prop where
  | mk {whole fraction power : Text} (some_ : whole ≠ []) (digits : AllDigits whole)
    (point : FractionText fraction) (raised : PowerText power) :
    BodyText (whole ++ (fraction ++ power))

theorem BodyText.whole {t : Text} (body : BodyText t) (negative : Bool) :
    Whole ((if negative then ['-'] else []) ++ t) := by
  obtain ⟨some_, digits, point, raised⟩ := body
  exact whole_of_parts negative some_ digits point raised

theorem ofNat_ne_nil (n : Nat) : Text.ofNat n ≠ [] := Nat.toDigits_ne_nil

theorem AllDigits.append {a b : Text} (left : AllDigits a) (right : AllDigits b) :
    AllDigits (a ++ b) := List.forall_mem_append.2 ⟨left, right⟩

theorem AllDigits.of_subset {a b : Text} (digits : AllDigits b) (subset : a ⊆ b) : AllDigits a :=
  fun c member => digits c (subset member)

theorem allDigits_zeros (n : Nat) : AllDigits (List.replicate n '0') := by
  intro c member
  rw [List.eq_of_mem_replicate member]
  rfl

theorem allDigits_zero : AllDigits ['0'] := allDigits_zeros 1

theorem bodyText_pointed {whole ds : Text} (some_ : whole ≠ []) (digits : AllDigits whole)
    (behind : AllDigits ds) : BodyText (whole ++ '.' :: ds) := by
  have body := BodyText.mk some_ digits (.given behind) .absent
  rwa [List.append_nil] at body

theorem bodyText_scientific {d : Char} {rest power : Text} (digits : AllDigits (d :: rest))
    (raised : PowerText power) : BodyText (d :: '.' :: rest ++ power) := by
  obtain ⟨here, later⟩ := List.forall_mem_cons.1 digits
  exact .mk (List.cons_ne_nil d []) (List.forall_mem_singleton.2 here) (.given later) raised

-- The written form of a number. Doubles that are none have one too, which is not read.
inductive NumberText : Text → Prop where
  | body (negative : Bool) {t : Text} (body : BodyText t) :
    NumberText ((if negative then ['-'] else []) ++ t)
  | nan : NumberText "NaN".toList
  | infinite (negative : Bool) : NumberText ((if negative then ['-'] else []) ++ "inf".toList)

theorem numberText_render (n : Number) : NumberText (n.render true) := by
  cases n with
  | int n =>
    have body := BodyText.mk (ofNat_ne_nil n.natAbs) (allDigits_ofNat _) .absent .absent
    rw [List.append_nil, List.append_nil] at body
    have written := NumberText.body (decide (n < 0)) body
    simpa [Number.render] using written
  | double d =>
    cases d with
    | nan => exact .nan
    | infinite negative => exact .infinite negative
    | finite negative digits exponent =>
      refine .body negative ?_
      have digits_ := allDigits_ofNat digits
      have some_ := ofNat_ne_nil digits
      generalize Text.ofNat digits = ds at digits_ some_
      dsimp only
      split
      · exact bodyText_pointed (List.cons_ne_nil '0' []) allDigits_zero allDigits_zero
      split
      · exact bodyText_pointed (by simp [some_]) (digits_.append (allDigits_zeros _))
          allDigits_zero
      split
      · next point =>
        refine bodyText_pointed ?_ (digits_.of_subset (List.take_subset _ _))
          (digits_.of_subset (List.drop_subset _ _))
        simp only [ne_eq, List.take_eq_nil_iff, not_or]
        exact ⟨by omega, some_⟩
      split
      · have zeros := allDigits_zeros (-((ds.length : Int) + exponent)).toNat
        exact bodyText_pointed (List.cons_ne_nil '0' []) allDigits_zero (zeros.append digits_)
      obtain ⟨d, rest, rfl⟩ := List.exists_cons_of_ne_nil some_
      generalize ((d :: rest).length : Int) + exponent - 1 = power
      have raised : PowerText ('e' :: ((if power < 0 then ['-'] else if true then ['+'] else []) ++
          Text.ofNat power.natAbs)) := .given (by split <;> simp) (allDigits_ofNat _)
      cases rest with
      | nil => exact .mk (List.cons_ne_nil d []) digits_ .absent raised
      | cons c rest => exact bodyText_scientific digits_ raised

theorem NumberText.whole {t : Text} (written : NumberText t) : Whole t := by
  cases written with
  | body negative body => exact body.whole negative
  | nan => exact ⟨none, by decide⟩
  | infinite negative => cases negative <;> exact ⟨none, by decide⟩

theorem read?_render (ends : Ends r) (n : Number) :
    read? (n.render true ++ r) = n.reread?.map (·, r) := by
  obtain ⟨m, whole⟩ := (numberText_render n).whole
  rw [read?_append ends, reread?, whole]
  cases m <;> rfl

def canBegin (c : Char) : Bool := c.isDigit || c = '-' || c = 'N' || c = 'i'

theorem NumberText.begins {t : Text} (written : NumberText t) :
    ∃ c s, t = c :: s ∧ canBegin c = true := by
  cases written with
  | body negative body =>
    cases negative with
    | true => exact ⟨'-', _, rfl, rfl⟩
    | false =>
      obtain ⟨some_, digits, -, -⟩ := body
      obtain ⟨d, rest, rfl⟩ := List.exists_cons_of_ne_nil some_
      exact ⟨d, _, rfl, by simp [canBegin, digits d List.mem_cons_self]⟩
  | nan => exact ⟨'N', _, rfl, rfl⟩
  | infinite negative =>
    cases negative with
    | true => exact ⟨'-', _, rfl, rfl⟩
    | false => exact ⟨'i', _, rfl, rfl⟩

theorem le_ofDigitChars (l : Text) (n : Nat) : n ≤ Nat.ofDigitChars 10 l n := by
  induction l generalizing n with
  | nil => exact Nat.le_refl n
  | cons c l ih =>
    rw [Nat.ofDigitChars_cons]
    have later := ih (10 * n + (c.toNat - '0'.toNat))
    omega

theorem gatherWhole_of_lt {l : Text} {n : Nat} (small : Nat.ofDigitChars 10 l n < 2 ^ 64) :
    gatherWhole n 0 l = (Nat.ofDigitChars 10 l n, 0) := by
  induction l generalizing n with
  | nil => rfl
  | cons c l ih =>
    have zero : '0'.toNat = 48 := rfl
    rw [Nat.ofDigitChars_cons, zero, Nat.mul_comm] at small
    have room := Nat.lt_of_le_of_lt (le_ofDigitChars l _) small
    have fits_ : fits n (digit c) = true := decide_eq_true room
    rw [gatherWhole, if_pos ⟨rfl, fits_⟩, Nat.ofDigitChars_cons, zero, Nat.mul_comm 10]
    exact ih small

theorem head_ofNat {n : Nat} (positive : 0 < n) : (Text.ofNat n).head? ≠ some '0' := by
  unfold Text.ofNat
  induction n using Nat.strongRecOn with
  | ind n ih =>
    by_cases small : n < 10
    · rw [Nat.toDigits_of_lt_base small]
      simp
      omega
    · have front := ih (n / 10) (by omega) (by omega)
      obtain ⟨c, l, spelled⟩ := List.exists_cons_of_ne_nil (ofNat_ne_nil (n / 10))
      rw [Text.ofNat] at spelled
      rw [Nat.toDigits_of_base_le (by decide) (by omega), spelled]
      rwa [spelled] at front

theorem ofRead?_int {n : Int} (low : -2 ^ 63 ≤ n) (high : n < 2 ^ 64) :
    ofRead? (decide (n < 0)) (Text.ofNat n.natAbs) none none = some (.int n) := by
  have digits : Nat.ofDigitChars 10 (Text.ofNat n.natAbs) 0 = n.natAbs :=
    Nat.ofDigitChars_ten_toDigits
  have gathered : gatherWhole 0 0 (Text.ofNat n.natAbs) = (n.natAbs, 0) := by
    rw [gatherWhole_of_lt (by omega), digits]
  have exact_ : ¬(0 : Int) ≠ 0 := fun differ => differ rfl
  unfold ofRead?
  rw [gathered]
  dsimp only
  by_cases negative : n < 0
  · have within : 0 < n.natAbs ∧ n.natAbs ≤ Nat.pow 2 63 := ⟨by omega, by change _ ≤ 2 ^ 63; omega⟩
    have same : -(n.natAbs : Int) = n := by omega
    rw [if_neg exact_, decide_eq_true negative, if_neg (by decide), if_pos within, same]
  · have same : (n.natAbs : Int) = n := by omega
    rw [if_neg exact_, decide_eq_false negative, if_pos (by decide), same]

theorem reread?_int {n : Int} (low : -2 ^ 63 ≤ n) (high : n < 2 ^ 64) :
    (int n).reread? = some (int n) := by
  have sign : signOf ((if n < 0 then ['-'] else []) ++ Text.ofNat n.natAbs) =
      (decide (n < 0), Text.ofNat n.natAbs) := by
    by_cases negative : n < 0
    · rw [if_pos negative, decide_eq_true negative]
      rfl
    · rw [if_neg negative, decide_eq_false negative, List.nil_append]
      exact signOf_allDigits (allDigits_ofNat _)
  have no_zero : ¬(Text.ofNat n.natAbs = [] ∨
      (Text.ofNat n.natAbs).head? = some '0' ∧ 1 < (Text.ofNat n.natAbs).length) := by
    rintro (empty | ⟨zero, longer⟩)
    · exact ofNat_ne_nil _ empty
    · rcases Nat.eq_zero_or_pos n.natAbs with none_ | positive
      · rw [none_] at longer
        exact absurd longer (by decide)
      · exact head_ofNat positive zero
  unfold reread? read?
  rw [render, sign]
  dsimp only
  rw [digitsOf_allDigits (allDigits_ofNat _)]
  dsimp only
  rw [if_neg no_zero]
  simp [fraction?, power?, ofRead?_int low high]

end Number
end ComponentLoader
