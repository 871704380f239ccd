import ComponentLoader.Json.Parser
import ComponentLoader.Proofs.Text.Search
import ComponentLoader.Text.Piece

namespace ComponentLoader

-- A code point in the 16-bit units of a script's strings.
def codeUnits (n : Nat) : List Nat :=
  if n < 0x10000 then [n] else [0xD800 + (n - 0x10000) / 0x400, 0xDC00 + (n - 0x10000) % 0x400]

theorem length_codeUnits (n : Nat) : 1 ≤ (codeUnits n).length ∧ (codeUnits n).length ≤ 2 := by
  unfold codeUnits
  split <;> simp

namespace Text

def units (t : Text) : List Nat := t.flatMap fun c => codeUnits c.toNat

theorem units_cons (c : Char) (t : Text) : units (c :: t) = codeUnits c.toNat ++ units t :=
  List.flatMap_cons

theorem units_append (s t : Text) : units (s ++ t) = units s ++ units t := List.flatMap_append

theorem length_le_units (t : Text) : t.length ≤ (units t).length := by
  induction t with
  | nil => exact Nat.le_refl 0
  | cons c t ih =>
    have some_ := (length_codeUnits c.toNat).1
    rw [units_cons, List.length_cons, List.length_append]
    omega

end Text

structure ScriptDialect where
  octal : Bool
  separated : Bool

namespace ScriptDialect

variable (d : ScriptDialect)

def isLineBreak (c : Char) : Bool := c == '\n' || c == '\r' || c == '\u2028' || c == '\u2029'

def breaksLine (c : Char) : Bool :=
  c == '\n' || c == '\r' || (d.separated && (c == '\u2028' || c == '\u2029'))

def isOctalDigit (c : Char) : Bool := '0' ≤ c && c ≤ '7'

def number (base : Nat) (digits : List Nat) : Nat := digits.foldl (fun n d => base * n + d) 0

-- Up to three digits that make at most 255; else a zero that no digit follows.
def digitEscape? (c : Char) (r : Text) : Option (List Nat × Text) :=
  if d.octal then
    if isOctalDigit c then
      let more := (r.takeWhile isOctalDigit).take (if c ≤ '3' then 2 else 1)
      some ([number 8 ((c :: more).map fun x => x.toNat - 48)], r.drop more.length)
    else some ([c.toNat], r)
  else if c = '0' ∧ r.head?.all (!·.isDigit) then some ([0], r)
  else none

def hexEscape? : Text → Option (List Nat × Text)
  | a :: b :: r => do return ([16 * (← Json.hexValue? a) + (← Json.hexValue? b)], r)
  | _ => none

def isHexDigit (c : Char) : Bool := (Json.hexValue? c).isSome

def unicodeEscape? (s : Text) : Option (List Nat × Text) :=
  match s with
  | '\x7b' :: r =>
    let n := number 16 ((r.takeWhile isHexDigit).filterMap Json.hexValue?)
    match r.dropWhile isHexDigit with
    | '\x7d' :: rest =>
      if r.takeWhile isHexDigit ≠ [] ∧ n ≤ 0x10FFFF then some (codeUnits n, rest) else none
    | _ => none
  | _ => (Json.unit? s).map fun (n, rest) => ([n], rest)

def named (c : Char) : Nat :=
  if c = 'b' then 8 else if c = 't' then 9 else if c = 'n' then 10 else if c = 'v' then 11
  else if c = 'f' then 12 else if c = 'r' then 13 else c.toNat

-- What stands behind a backslash. A line break there is no part of the string.
def escape? : Scanner (List Nat)
  | [] => none
  | c :: r =>
    if c = 'x' then hexEscape? r
    else if c = 'u' then unicodeEscape? r
    else if c.isDigit then d.digitEscape? c r
    else if isLineBreak c then
      match c, r with
      | '\r', '\n' :: r => some ([], r)
      | _, _ => some ([], r)
    else some (codeUnits (named c), r)

def read? : Text → Option (List Nat)
  | [] => none
  | c :: r =>
    if c = '\'' then if r = [] then some [] else none
    else if c = '\\' then
      match d.escape? r with
      | some (v, rest) =>
        if rest.length ≤ r.length then (read? rest).map (v ++ ·) else none
      | none => none
    else if d.breaksLine c then none
    else (read? r).map (codeUnits c.toNat ++ ·)
termination_by s => s.length

def value? : Text → Option (List Nat)
  | '\'' :: r => d.read? r
  | _ => none

def Plain (p : Text) : Prop := '\'' ∉ p ∧ '\\' ∉ p

theorem plain_append {p q : Text} : Plain (p ++ q) ↔ Plain p ∧ Plain q := by
  simp only [Plain, List.mem_append, not_or]
  exact and_and_and_comm

theorem plain_of_forall {f : Char → Bool} {p : Text} (all : ∀ c ∈ p, f c = true)
    (quote : f '\'' = false) (backslash : f '\\' = false) : Plain p :=
  ⟨Text.not_mem_of_forall all quote, Text.not_mem_of_forall all backslash⟩

theorem plain_cons {c : Char} {p : Text} : Plain (c :: p) ↔ Plain [c] ∧ Plain p :=
  plain_append (p := [c])

theorem plain_of_hexValue? {c : Char} {n : Nat} (digit : Json.hexValue? c = some n) : Plain [c] := by
  refine plain_of_forall (f := isHexDigit) ?_ (by decide) (by decide)
  simp [isHexDigit, digit]

def Spends (s : Text) (v : List Nat) (rest : Text) : Prop :=
  ∃ p, s = p ++ rest ∧ Plain p ∧ v.length ≤ p.length

theorem Spends.cons {s rest : Text} {v : List Nat} (spends : Spends s v rest) {c : Char}
    (plain : Plain [c]) : Spends (c :: s) v rest := by
  obtain ⟨p, rfl, inside, enough⟩ := spends
  exact ⟨c :: p, rfl, plain_cons.2 ⟨plain, inside⟩, enough.trans (by simp)⟩

theorem spends_hexEscape? {s rest : Text} {v : List Nat} (found : hexEscape? s = some (v, rest)) :
    Spends s v rest := by
  unfold hexEscape? at found
  split at found
  · next a b r =>
    simp only [Option.bind_eq_bind, Option.bind_eq_some_iff, Option.pure_def, Option.some.injEq,
      Prod.mk.injEq] at found
    obtain ⟨m, high, n, low, rfl, rfl⟩ := found
    exact ⟨[a, b], rfl, plain_cons.2 ⟨plain_of_hexValue? high, plain_of_hexValue? low⟩, by simp⟩
  · cases found

theorem spends_unit? {s rest : Text} {n : Nat} (found : Json.unit? s = some (n, rest)) :
    Spends s [n] rest := by
  unfold Json.unit? at found
  split at found
  · next a b c d r =>
    simp only [Option.bind_eq_bind, Option.bind_eq_some_iff, Option.pure_def, Option.some.injEq,
      Prod.mk.injEq] at found
    obtain ⟨h₁, d₁, h₂, d₂, h₃, d₃, h₄, d₄, -, rfl⟩ := found
    have plain : Plain [a, b, c, d] := plain_cons.2 ⟨plain_of_hexValue? d₁, plain_cons.2
      ⟨plain_of_hexValue? d₂, plain_cons.2 ⟨plain_of_hexValue? d₃, plain_of_hexValue? d₄⟩⟩⟩
    exact ⟨[a, b, c, d], rfl, plain, by simp⟩
  · cases found

theorem spends_unicodeEscape? {s rest : Text} {v : List Nat}
    (found : unicodeEscape? s = some (v, rest)) : Spends s v rest := by
  unfold unicodeEscape? at found
  split at found
  · next r =>
    dsimp only at found
    split at found
    · next closed =>
      split at found
      · cases found
        have whole := List.takeWhile_append_dropWhile (p := isHexDigit) (l := r)
        rw [closed] at whole
        have digits : Plain (r.takeWhile isHexDigit) :=
          plain_of_forall (fun c member => List.mem_takeWhile_imp member) (by decide) (by decide)
        refine ⟨'\x7b' :: (r.takeWhile isHexDigit ++ ['\x7d']), ?_, ?_, ?_⟩
        · rw [List.cons_append, List.append_assoc, List.singleton_append, whole]
        · refine plain_cons.2 ⟨by unfold Plain; decide, plain_append.2 ⟨digits, ?_⟩⟩
          unfold Plain
          decide
        · have most := (length_codeUnits (number 16
            ((r.takeWhile isHexDigit).filterMap Json.hexValue?))).2
          simp only [List.length_cons, List.length_append, List.length_nil]
          omega
      · cases found
    · cases found
  · obtain ⟨⟨n, rest'⟩, unit, same⟩ := Option.map_eq_some_iff.1 found
    cases same
    exact spends_unit? unit

theorem spends_digitEscape? {c : Char} {r rest : Text} {v : List Nat} (digit : c.isDigit = true)
    (found : d.digitEscape? c r = some (v, rest)) : Spends (c :: r) v rest := by
  have plain : Plain [c] :=
    plain_of_forall (f := Char.isDigit) (by simpa using digit) (by decide) (by decide)
  unfold digitEscape? at found
  split at found
  · split at found
    · cases found
      have front : (r.takeWhile isOctalDigit).take (if c ≤ '3' then 2 else 1) <+: r :=
        (List.take_prefix _ _).trans (List.takeWhile_prefix _)
      have digits : Plain ((r.takeWhile isOctalDigit).take (if c ≤ '3' then 2 else 1)) :=
        plain_of_forall (fun x member => List.mem_takeWhile_imp (List.mem_of_mem_take member))
          (by decide) (by decide)
      refine ⟨c :: (r.takeWhile isOctalDigit).take (if c ≤ '3' then 2 else 1), ?_,
        plain_cons.2 ⟨plain, digits⟩, by simp⟩
      rw [List.cons_append, List.prefix_iff_eq_append.1 front]
    · cases found
      exact ⟨[c], rfl, plain, by simp⟩
  · split at found
    · cases found
      exact ⟨[c], rfl, plain, by simp⟩
    · cases found

theorem length_named (c : Char) : (codeUnits (named c)).length ≤ (codeUnits c.toNat).length := by
  unfold named
  repeat' split
  all_goals first
    | exact (length_codeUnits c.toNat).1
    | exact Nat.le_refl _

-- An escape gives no more units than the characters that it is made of, and no quote and no
-- backslash is part of one, but those that are escaped themselves.
theorem spends_escape? {s rest : Text} {v : List Nat} (found : d.escape? s = some (v, rest)) :
    ∃ p, s = p ++ rest ∧ v.length ≤ p.units.length ∧ (p = ['\''] ∨ p = ['\\'] ∨ Plain p) := by
  have spent {s : Text} (spends : Spends s v rest) : ∃ p, s = p ++ rest ∧
      v.length ≤ p.units.length ∧ (p = ['\''] ∨ p = ['\\'] ∨ Plain p) := by
    obtain ⟨p, whole, plain, enough⟩ := spends
    exact ⟨p, whole, enough.trans p.length_le_units, .inr (.inr plain)⟩
  unfold escape? at found
  split at found
  · cases found
  · next c r =>
    split at found
    · next hex =>
      exact spent ((spends_hexEscape? found).cons (by rw [hex]; unfold Plain; decide))
    split at found
    · next unicode =>
      exact spent ((spends_unicodeEscape? found).cons (by rw [unicode]; unfold Plain; decide))
    split at found
    · next digit => exact spent (spends_digitEscape? d digit found)
    split at found
    · next ending =>
      have plain : Plain [c] :=
        plain_of_forall (f := isLineBreak) (by simpa using ending) (by decide) (by decide)
      split at found
      · cases found
        exact spent ⟨['\r', '\n'], rfl, by unfold Plain; decide, by simp⟩
      · cases found
        exact spent ⟨[c], rfl, plain, by simp⟩
    · cases found
      refine ⟨[c], rfl, ?_, ?_⟩
      · rw [Text.units_cons, List.length_append]
        exact (length_named c).trans (Nat.le_add_right _ _)
      · by_cases quote : c = '\''
        · exact .inl (by rw [quote])
        by_cases backslash : c = '\\'
        · exact .inr (.inl (by rw [backslash]))
        · exact .inr (.inr (by simp [Plain, Ne.symm quote, Ne.symm backslash]))

theorem read?_quote (r : Text) : d.read? ('\'' :: r) = if r = [] then some [] else none := by
  rw [read?, if_pos rfl]

theorem read?_escape {r : Text} {u : List Nat} (read : d.read? ('\\' :: r) = some u) :
    ∃ v rest w, d.escape? r = some (v, rest) ∧ d.read? rest = some w ∧ u = v ++ w := by
  rw [read?, if_neg (by decide), if_pos rfl] at read
  split at read
  · next v rest found =>
    split at read
    · obtain ⟨w, later, rfl⟩ := Option.map_eq_some_iff.1 read
      exact ⟨v, rest, w, found, later, rfl⟩
    · cases read
  · cases read

theorem read?_escaped_quote (r : Text) :
    d.read? ('\\' :: '\'' :: r) = (d.read? r).map (codeUnits '\''.toNat ++ ·) := by
  have found : d.escape? ('\'' :: r) = some (codeUnits '\''.toNat, r) := rfl
  rw [read?, if_neg (by decide), if_pos rfl, found]
  simp

theorem read?_cons {c : Char} (quote : c ≠ '\'') (backslash : c ≠ '\\') (r : Text) :
    d.read? (c :: r) =
      if d.breaksLine c then none else (d.read? r).map (codeUnits c.toNat ++ ·) := by
  rw [read?, if_neg quote, if_neg backslash]

end ScriptDialect
end ComponentLoader
