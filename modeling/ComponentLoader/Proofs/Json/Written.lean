import ComponentLoader.Proofs.Json.Canonical
import ComponentLoader.Proofs.Json.Numbers
import ComponentLoader.Proofs.Text.Search

namespace ComponentLoader
namespace Json

theorem hexValue?_hexDigit {n : Nat} (small : n < 16) : hexValue? (hexDigit n) = some n := by
  have all : ∀ n < 16, hexValue? (hexDigit n) = some n := by decide
  exact all n small

theorem unit?_control {n : Nat} (small : n < 32) (r : Text) :
    unit? ('0' :: '0' :: hexDigit (n / 16) :: hexDigit (n % 16) :: r) = some (n, r) := by
  have zero : hexValue? '0' = some 0 := by decide
  have high := hexValue?_hexDigit (show n / 16 < 16 by omega)
  have low := hexValue?_hexDigit (show n % 16 < 16 by omega)
  simp only [unit?, zero, high, low, Option.bind_eq_bind, Option.bind_some, Option.pure_def]
  congr
  omega

inductive Escaped (c : Char) : Text → Prop where
  | plain (quote : c ≠ '"') (backslash : c ≠ '\\') (shown : 32 ≤ c.toNat) : Escaped c [c]
  | letter {e : Char} (letter : e ≠ 'u') (meant : simpleEscape? e = some c) : Escaped c ['\\', e]
  | code (small : c.toNat < 32) : Escaped c
      ['\\', 'u', '0', '0', hexDigit (c.toNat / 16), hexDigit (c.toNat % 16)]

theorem escaped (c : Char) : Escaped c (escape c) := by
  have named : ∀ {n : Nat}, c.toNat = n → c = Char.ofNat n := fun same => by
    rw [← same, Char.ofNat_toNat]
  unfold escape
  split_ifs with quote backslash feed turn tab back page control
  · exact .letter (by decide) (by rw [quote]; rfl)
  · exact .letter (by decide) (by rw [backslash]; rfl)
  · exact .letter (by decide) (by rw [feed]; rfl)
  · exact .letter (by decide) (by rw [turn]; rfl)
  · exact .letter (by decide) (by rw [tab]; rfl)
  · exact .letter (by decide) (by rw [named back]; rfl)
  · exact .letter (by decide) (by rw [named page]; rfl)
  · exact .code control
  · exact .plain quote backslash (Nat.le_of_not_lt control)

theorem Escaped.ne_nil {c : Char} {t : Text} (shape : Escaped c t) : t ≠ [] := by
  cases shape <;> simp

theorem unicode?_control {c : Char} (small : c.toNat < 32) (r : Text) :
    unicode? ('0' :: '0' :: hexDigit (c.toNat / 16) :: hexDigit (c.toNat % 16) :: r) =
      some (c, r) := by
  have high : ¬(0xD800 ≤ c.toNat ∧ c.toNat < 0xDC00) := by omega
  have low : ¬(0xDC00 ≤ c.toNat ∧ c.toNat < 0xE000) := by omega
  simp only [unicode?, unit?_control small, if_neg high, if_neg low, Char.ofNat_toNat]

theorem readString_escape (fuel : Nat) (c : Char) (r done : Text) :
    readString (fuel + 1) (escape c ++ r) done = readString fuel r (c :: done) := by
  have shape := escaped c
  generalize escape c = written at shape ⊢
  cases shape with
  | plain quote backslash shown =>
    have visible : ¬c.toNat < 32 := by omega
    simp only [List.singleton_append, readString, if_neg quote, if_neg backslash, if_neg visible]
  | letter other meant =>
    simp only [List.cons_append, List.nil_append, readString]
    simp [other, meant]
  | code small =>
    simp only [List.cons_append, List.nil_append, readString, unicode?_control small]
    simp

theorem readString_escapes {fuel : Nat} {s : Text} (enough : (s.flatMap escape).length < fuel)
    (r done : Text) :
    readString fuel (s.flatMap escape ++ '"' :: r) done = some (done.reverse ++ s, r) := by
  induction s generalizing fuel done with
  | nil =>
    obtain ⟨fuel, rfl⟩ : ∃ k, fuel = k + 1 := ⟨fuel - 1, by simp at enough; omega⟩
    simp [readString]
  | cons c s ih =>
    have some_ := (escaped c).ne_nil
    rw [List.flatMap_cons, List.length_append] at enough
    obtain ⟨fuel, rfl⟩ : ∃ k, fuel = k + 1 := ⟨fuel - 1, by omega⟩
    have first : 0 < (escape c).length := List.length_pos_iff.2 some_
    rw [List.flatMap_cons, List.append_assoc, readString_escape, ih (by omega)]
    simp

theorem readString_quoted (s r : Text) :
    readString ((s.flatMap escape ++ '"' :: r).length + 1) (s.flatMap escape ++ '"' :: r) [] =
      some (s, r) :=
  readString_escapes (by rw [List.length_append]; omega) r []

theorem length_quote (s : Text) : (quote s).length = (s.flatMap escape).length + 2 := by
  simp [quote]

theorem skip_cons {c : Char} (solid : isGap c = false) (r : Text) : skip (c :: r) = c :: r := by
  simp [skip, solid]

mutual

def reread? : Json → Option Json
  | number n => n.reread?.map number
  | array items => (rereadItems? items).map array
  | object members => (rereadMembers? members).map object
  | v => some v

def rereadItems? : List Json → Option (List Json)
  | [] => some []
  | v :: r => do return (← reread? v) :: (← rereadItems? r)

def rereadMembers? : List (Text × Json) → Option (List (Text × Json))
  | [] => some []
  | (k, v) :: r => do return (k, ← reread? v) :: (← rereadMembers? r)

end

theorem rereadItems?_of_each {items : List Json} {f : Json → Json}
    (each : ∀ v ∈ items, v.reread? = some (f v)) : rereadItems? items = some (items.map f) := by
  induction items with
  | nil => rfl
  | cons v items ih =>
    obtain ⟨here, later⟩ := List.forall_mem_cons.1 each
    rw [rereadItems?, here, ih later]
    rfl

theorem rereadMembers?_of_each {members : List (Text × Json)} {f : Json → Json}
    (each : ∀ m ∈ members, m.2.reread? = some (f m.2)) :
    rereadMembers? members = some (members.map fun m => (m.1, f m.2)) := by
  induction members with
  | nil => rfl
  | cons m members ih =>
    obtain ⟨here, later⟩ := List.forall_mem_cons.1 each
    rw [rereadMembers?, here, ih later]
    rfl

theorem each_of_rereadItems? {items : List Json} (read : (rereadItems? items).isSome) :
    ∀ v ∈ items, v.reread?.isSome := by
  induction items with
  | nil => exact fun v member => absurd member List.not_mem_nil
  | cons v items ih =>
    rw [rereadItems?] at read
    cases here : v.reread? with
    | none => simp [here] at read
    | some w =>
      cases later : rereadItems? items with
      | none => simp [here, later] at read
      | some ws =>
        exact List.forall_mem_cons.2
          ⟨Option.isSome_of_eq_some here, ih (Option.isSome_of_eq_some later)⟩

theorem each_of_rereadMembers? {members : List (Text × Json)}
    (read : (rereadMembers? members).isSome) : ∀ m ∈ members, m.2.reread?.isSome := by
  induction members with
  | nil => exact fun m member => absurd member List.not_mem_nil
  | cons m members ih =>
    rw [rereadMembers?] at read
    cases here : m.2.reread? with
    | none => simp [here] at read
    | some w =>
      cases later : rereadMembers? members with
      | none => simp [here, later] at read
      | some ws =>
        exact List.forall_mem_cons.2
          ⟨Option.isSome_of_eq_some here, ih (Option.isSome_of_eq_some later)⟩

-- What is read where the written form stands, before a text that goes on no number.
def IsReread (v : Json) : Prop :=
  ∀ fuel r, v.render.length < fuel → Number.Ends r →
    readValue fuel (v.render ++ r) = v.reread?.map (·, r)

theorem isGap_of_canBegin {c : Char} (begins : Number.canBegin c = true) : isGap c = false := by
  cases gap : isGap c with
  | false => rfl
  | true =>
    rcases of_decide_eq_true gap with rfl | rfl | rfl | rfl <;> cases begins

theorem readValue_number {c : Char} (begins : Number.canBegin c = true) (fuel : Nat) (s : Text) :
    readValue (fuel + 1) (c :: s) = (Number.read? (c :: s)).map fun p => (number p.1, p.2) := by
  have other {d : Char} (no_number : Number.canBegin d = false) : c ≠ d := by
    rintro rfl
    exact absurd begins (by simp [no_number])
  have noWord (word : Text) {d : Char} (first : word.head? = some d)
      (no_number : Number.canBegin d = false) : Text.dropPrefix? word (c :: s) = none := by
    rw [Text.dropPrefix?_eq_none]
    rintro ⟨r, same⟩
    cases word with
    | nil => cases first
    | cons e word =>
      cases first
      cases same
      exact other no_number rfl
  rw [readValue, skip_cons (isGap_of_canBegin begins)]
  dsimp only
  rw [if_neg (other (by decide)), if_neg (other (by decide)), if_neg (other (by decide)),
    noWord "null".toList rfl (by decide), noWord "true".toList rfl (by decide),
    noWord "false".toList rfl (by decide)]

theorem isReread_number (n : Number) : IsReread (number n) := by
  intro fuel r enough ends
  obtain ⟨fuel, rfl⟩ : ∃ k, fuel = k + 1 := ⟨fuel - 1, by omega⟩
  have read := Number.read?_render ends n
  obtain ⟨c, s, written, begins⟩ := (Number.numberText_render n).begins
  rw [written, List.cons_append] at read
  rw [render, written, List.cons_append, readValue_number begins, read, reread?]
  cases n.reread? <;> rfl

theorem isReread_null : IsReread null := by
  intro fuel r enough ends
  obtain ⟨fuel, rfl⟩ : ∃ k, fuel = k + 1 := ⟨fuel - 1, by omega⟩
  rfl

theorem isReread_bool (b : Bool) : IsReread (bool b) := by
  intro fuel r enough ends
  obtain ⟨fuel, rfl⟩ : ∃ k, fuel = k + 1 := ⟨fuel - 1, by omega⟩
  cases b <;> rfl

theorem isReread_string (s : Text) : IsReread (string s) := by
  intro fuel r enough ends
  obtain ⟨fuel, rfl⟩ : ∃ k, fuel = k + 1 := ⟨fuel - 1, by omega⟩
  rw [render, quote, List.cons_append, List.cons_append, readValue, skip_cons (by decide)]
  simp only [if_true, List.append_assoc, List.singleton_append, readString_quoted]
  rfl

theorem readItems_render {items : List Json} (some_ : items ≠ [])
    (reread : ∀ v ∈ items, v.IsReread) (fuel : Nat)
    (enough : (renderItems items).length + 1 < fuel) (r : Text) (done : List Json) :
    readItems fuel (renderItems items ++ ']' :: r) done =
      (rereadItems? items).map fun items => (done.reverse ++ items, r) := by
  induction items generalizing fuel done with
  | nil => exact absurd rfl some_
  | cons v items ih =>
    have first : v.IsReread := reread v List.mem_cons_self
    obtain ⟨fuel, rfl⟩ : ∃ k, fuel = k + 1 := ⟨fuel - 1, by omega⟩
    cases items with
    | nil =>
      rw [renderItems] at enough ⊢
      have read := first fuel (']' :: r) (by omega) (Number.ends_cons (by decide) r)
      rw [readItems, read, rereadItems?, rereadItems?]
      cases v.reread? with
      | none => rfl
      | some w => simp [skip_cons (show isGap ']' = false by decide)]
    | cons next items =>
      rw [renderItems, List.length_append, List.length_cons] at enough
      have read := first fuel (',' :: (renderItems (next :: items) ++ ']' :: r)) (by omega)
        (Number.ends_cons (by decide) _)
      rw [renderItems, List.append_assoc, List.cons_append, readItems, read, rereadItems?]
      cases v.reread? with
      | none => rfl
      | some w =>
        have later := ih (List.cons_ne_nil _ _)
          (fun v member => reread v (List.mem_cons_of_mem _ member)) fuel (by omega) (w :: done)
        simp only [Option.map_some, skip_cons (show isGap ',' = false by decide), later]
        cases rereadItems? (next :: items) <;> simp

theorem readMembers_render {members : List (Text × Json)} (some_ : members ≠ [])
    (reread : ∀ m ∈ members, m.2.IsReread) (fuel : Nat)
    (enough : (renderMembers members).length < fuel) (r : Text) (done : List (Text × Json)) :
    readMembers fuel (renderMembers members ++ '}' :: r) done =
      (rereadMembers? members).map fun members => (done.reverse ++ members, r) := by
  induction members generalizing fuel done with
  | nil => exact absurd rfl some_
  | cons m members ih =>
    obtain ⟨k, v⟩ := m
    have first : v.IsReread := reread (k, v) List.mem_cons_self
    obtain ⟨fuel, rfl⟩ : ∃ k, fuel = k + 1 := ⟨fuel - 1, by omega⟩
    cases members with
    | nil =>
      rw [renderMembers, List.length_append, length_quote, List.length_cons] at enough
      have read := first fuel ('}' :: r) (by omega) (Number.ends_cons (by decide) r)
      rw [renderMembers, quote]
      simp only [List.cons_append, List.append_assoc, List.nil_append]
      rw [readMembers, skip_cons (by decide)]
      simp only [readString_quoted, skip_cons (show isGap ':' = false by decide), read]
      rw [rereadMembers?, rereadMembers?]
      cases v.reread? with
      | none => rfl
      | some w => simp [skip_cons (show isGap '}' = false by decide)]
    | cons next members =>
      rw [renderMembers, List.length_append, List.length_append, length_quote, List.length_cons,
        List.length_cons] at enough
      have read := first fuel (',' :: (renderMembers (next :: members) ++ '}' :: r)) (by omega)
        (Number.ends_cons (by decide) _)
      rw [renderMembers, quote]
      simp only [List.cons_append, List.append_assoc, List.nil_append]
      rw [readMembers, skip_cons (by decide)]
      simp only [readString_quoted, skip_cons (show isGap ':' = false by decide), read]
      rw [rereadMembers?]
      cases v.reread? with
      | none => rfl
      | some w =>
        have later := ih (List.cons_ne_nil _ _)
          (fun m member => reread m (List.mem_cons_of_mem _ member)) fuel (by omega) ((k, w) :: done)
        simp only [Option.map_some, skip_cons (show isGap ',' = false by decide), later]
        cases rereadMembers? (next :: members) <;> simp

theorem render_begins (v : Json) : ∃ c s, v.render = c :: s ∧ isGap c = false ∧ c ≠ ']' := by
  cases v with
  | null => exact ⟨'n', _, rfl, by decide, by decide⟩
  | bool b =>
    cases b with
    | true => exact ⟨'t', _, rfl, by decide, by decide⟩
    | false => exact ⟨'f', _, rfl, by decide, by decide⟩
  | number n =>
    obtain ⟨c, s, written, begins⟩ := (Number.numberText_render n).begins
    refine ⟨c, s, written, isGap_of_canBegin begins, ?_⟩
    rintro rfl
    cases begins
  | string s => exact ⟨'"', _, rfl, by decide, by decide⟩
  | array items => exact ⟨'[', _, rfl, by decide, by decide⟩
  | object members => exact ⟨'{', _, rfl, by decide, by decide⟩

theorem renderItems_begins {items : List Json} (some_ : items ≠ []) :
    ∃ c s, renderItems items = c :: s ∧ isGap c = false ∧ c ≠ ']' := by
  cases items with
  | nil => exact absurd rfl some_
  | cons v items =>
    obtain ⟨c, s, written, solid, inner⟩ := v.render_begins
    cases items with
    | nil => exact ⟨c, s, written, solid, inner⟩
    | cons next items =>
      rw [renderItems, written]
      exact ⟨c, _, rfl, solid, inner⟩

theorem readValue_items {c : Char} (solid : isGap c = false) (inner : c ≠ ']') (fuel : Nat)
    (s : Text) : readValue (fuel + 1) ('[' :: c :: s) =
      (readItems fuel (c :: s) []).map fun p => (array p.1, p.2) := by
  rw [readValue, skip_cons (by decide)]
  simp only [Char.reduceEq, if_false, if_true, skip_cons solid]
  split
  · next same =>
    cases same
    exact absurd rfl inner
  · rfl

theorem readValue_members (fuel : Nat) (s : Text) : readValue (fuel + 1) ('{' :: '"' :: s) =
    (readMembers fuel ('"' :: s) []).map fun p => (object p.1, p.2) := by
  rw [readValue, skip_cons (by decide)]
  simp only [Char.reduceEq, if_false, if_true, skip_cons (show isGap '"' = false by decide)]
  rfl

theorem isReread_array {items : List Json} (reread : ∀ v ∈ items, v.IsReread) :
    IsReread (array items) := by
  intro fuel r enough ends
  obtain ⟨fuel, rfl⟩ : ∃ k, fuel = k + 1 := ⟨fuel - 1, by omega⟩
  rw [render, List.length_append, List.length_cons, List.length_singleton] at enough
  rw [render, List.cons_append, List.cons_append, List.append_assoc, List.singleton_append]
  cases items with
  | nil => rfl
  | cons v items =>
    have read := readItems_render (List.cons_ne_nil v items) reread fuel (by omega) r []
    obtain ⟨c, t, written, solid, inner⟩ := renderItems_begins (List.cons_ne_nil v items)
    rw [written, List.cons_append] at read
    rw [written, List.cons_append, readValue_items solid inner, read, reread?]
    cases rereadItems? (v :: items) <;> rfl

theorem isReread_object {members : List (Text × Json)} (reread : ∀ m ∈ members, m.2.IsReread) :
    IsReread (object members) := by
  intro fuel r enough ends
  obtain ⟨fuel, rfl⟩ : ∃ k, fuel = k + 1 := ⟨fuel - 1, by omega⟩
  rw [render, List.length_append, List.length_cons, List.length_singleton] at enough
  rw [render, List.cons_append, List.cons_append, List.append_assoc, List.singleton_append]
  cases members with
  | nil => rfl
  | cons m members =>
    have read := readMembers_render (List.cons_ne_nil m members) reread fuel (by omega) r []
    obtain ⟨t, written⟩ : ∃ t, renderMembers (m :: members) = '"' :: t := by
      cases members <;> simp [renderMembers, quote]
    rw [written, List.cons_append] at read
    rw [written, List.cons_append, readValue_members, read, reread?]
    cases rereadMembers? (m :: members) <;> rfl

theorem isReread (v : Json) : v.IsReread := by
  induction v using value_induction with
  | null => exact isReread_null
  | bool b => exact isReread_bool b
  | number n => exact isReread_number n
  | string s => exact isReread_string s
  | array items ih => exact isReread_array ih
  | object members ih => exact isReread_object ih

theorem parse?_render_eq (v : Json) : parse? v.render = v.reread? := by
  have read := v.isReread (v.render.length + 1) [] (Nat.lt_succ_self _) Number.ends_nil
  rw [List.append_nil] at read
  rw [parse?, read]
  cases v.reread? <;> rfl

def Readable (v : Json) : Prop := v.reread? = some v

theorem parse?_render {v : Json} (readable : v.Readable) : parse? v.render = some v := by
  rw [parse?_render_eq, readable]

theorem readable_string (s : Text) : Readable (string s) := rfl

theorem readable_bool (b : Bool) : Readable (bool b) := rfl

theorem readable_object {members : List (Text × Json)} (readable : ∀ m ∈ members, m.2.Readable) :
    Readable (object members) := by
  rw [Readable, reread?, rereadMembers?_of_each (f := id) readable, Option.map_some]
  exact congrArg (fun ms => some (object ms)) (List.map_id members)

end Json
end ComponentLoader
