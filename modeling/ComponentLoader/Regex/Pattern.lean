import ComponentLoader.Regex.Bracket
import ComponentLoader.Unicode.Age

namespace ComponentLoader.Regex

structure Reading where
  rest : Text
  verbose : Bool := false
  groups : Nat := 0
  names : List (Text × Nat) := []

namespace Reading

def moveTo (st : Reading) (rest : Text) : Reading := { st with rest }

def afterFlags (st : Reading) (changes : FlagChanges) : Reading :=
  match changes.find? fun c => c.1 = .verbose with
  | some (_, on) => { st with verbose := on }
  | none => st

-- Back from a group: behind it the pattern is as verbose as before it.
def leave (st inner : Reading) (rest : Text) : Reading := { inner with rest, verbose := st.verbose }

end Reading

def flag? (c : Char) : Option Flag :=
  if c = 'i' then some .anyCase
  else if c = 'm' then some .manyLines
  else if c = 's' then some .dotAll
  else if c = 'U' then some .lazy
  else if c = 'u' then some .unicode
  else if c = 'R' then some .returns
  else if c = 'x' then some .verbose
  else none

def readFlags? (on dangling : Bool) (done : FlagChanges) : Text → Option (FlagChanges × Text)
  | [] => none
  | c :: r =>
    if c = ':' ∨ c = ')' then if dangling then none else some (done, c :: r)
    else if c = '-' then if on then readFlags? false true done r else none
    else
      match flag? c with
      | some f =>
        if done.any fun e => e.1 = f then none else readFlags? on false (done ++ [(f, on)]) r
      | none => none

def readNumber? (verbose : Bool) (s : Text) : Option (Nat × Text) :=
  let (digits, r) := takeSpaced verbose Char.isDigit (Text.trimStart s)
  let n := digits.foldl (fun n c => n * 10 + (c.toNat - 48)) 0
  if digits = [] ∨ Nat.pow 2 32 ≤ n then none else some (n, (takeSpaced verbose isBlank r).2)

def readCount? (verbose : Bool) (s : Text) : Option ((Nat × Option Nat) × Text) := do
  let (least, r) ← readNumber? verbose (gap verbose s)
  match r with
  | '}' :: r => some ((least, some least), gap verbose r)
  | ',' :: r =>
    match gap verbose r with
    | '}' :: r => some ((least, none), gap verbose r)
    | r =>
      match ← readNumber? verbose r with
      | (most, '}' :: r) => if least ≤ most then some ((least, some most), gap verbose r) else none
      | _ => none
  | _ => none

def Node.isRepeatable : Node → Bool
  | .empty => false
  | .flags _ => false
  | _ => true

def repeatLast? (count : Nat × Option Nat) (items : List Node) (s : Text) :
    Option (List Node × Text) :=
  match items with
  | n :: before =>
    if !n.isRepeatable then none
    else
      match s with
      | '?' :: r => some (.repeated count.1 count.2 false n :: before, r)
      | r => some (.repeated count.1 count.2 true n :: before, r)
  | [] => none

-- None when the character is no sign of a count; none inside when the count is wrong.
def readCounted? (verbose : Bool) (items : List Node) (c : Char) (s : Text) :
    Option (Option (List Node × Text)) :=
  if c = '*' then some (repeatLast? (0, none) items s)
  else if c = '+' then some (repeatLast? (1, none) items s)
  else if c = '?' then some (repeatLast? (0, some 1) items s)
  else if c = '{' then
    some ((readCount? verbose s).bind fun (count, s) => repeatLast? count items s)
  else none

def readAtom? (verbose : Bool) (c : Char) (s : Text) : Option (Node × Text) :=
  if c = '.' then some (.dot, s)
  else if c = '^' then some (.mark .lineStart, s)
  else if c = '$' then some (.mark .lineEnd, s)
  else if c = '\\' then
    match readEscape? verbose s with
    | some (.literal l, r) => some (.literal l, r)
    | some (.oneOf c, r) => some (.oneOf c, r)
    | some (.mark m, r) => some (.mark m, r)
    | none => none
  else some (.literal ⟨c, false⟩, s)

inductive Opening where
  | group (index : Nat)
  | scope (changes : FlagChanges)
  | flags (changes : FlagChanges)

def nameLetters : CharSet := Unicode.Trait.alphabetic.union Unicode.Recent.letters

def nameDigits : CharSet := Unicode.Category.number.union Unicode.Recent.digits

def isNameStart (c : Char) : Bool := c == '_' || nameLetters.has c

def isNameChar (c : Char) : Bool :=
  isNameStart c || nameDigits.has c || c == '.' || c == '[' || c == ']'

def readGroupName? (s : Text) : Option (Text × Text) :=
  let name := s.takeWhile isNameChar
  match s.dropWhile isNameChar with
  | '>' :: r => if name.head?.any isNameStart then some (name, r) else none
  | _ => none

namespace Reading

def openNamed? (st : Reading) (s : Text) : Option (Opening × Reading) :=
  match readGroupName? s with
  | some (name, r) =>
    if (st.names.any fun e => e.1 == name) then none
    else
      let index := st.groups + 1
      some (.group index,
        { st with rest := r, groups := index, names := st.names ++ [(name, index)] })
  | none => none

def open? (st : Reading) (s : Text) : Option (Opening × Reading) :=
  match gap st.verbose s with
  | '?' :: 'P' :: '<' :: r => st.openNamed? r
  | '?' :: '<' :: r => st.openNamed? r
  | '?' :: r =>
    match readFlags? true false [] r with
    | some ([], ')' :: _) => none
    | some (changes, ')' :: r) => some (.flags changes, (st.afterFlags changes).moveTo r)
    | some (changes, _ :: r) => some (.scope changes, (st.afterFlags changes).moveTo r)
    | _ => none
  | r => some (.group (st.groups + 1), { st with rest := r, groups := st.groups + 1 })

-- Alternatives up to a closing parenthesis or the end. Alternatives and items before are gathered
-- in reverse.
def alternatives? : (fuel : Nat) → Reading → (done items : List Node) → Option (Node × Reading)
  | 0, _, _, _ => none
  | fuel + 1, st, done, items =>
    let all (_ : Unit) : Node :=
      .ofAlternatives (Node.ofSequence items.reverse :: done).reverse
    match gap st.verbose st.rest with
    | [] => some (all (), st.moveTo [])
    | ')' :: r => some (all (), st.moveTo (')' :: r))
    | '|' :: r => alternatives? fuel (st.moveTo r) (.ofSequence items.reverse :: done) []
    | '(' :: r =>
      match st.open? r with
      | none => none
      | some (.flags changes, st) => alternatives? fuel st done (.flags changes :: items)
      | some (.group index, inner) =>
        match alternatives? fuel inner [] [] with
        | some (n, inner) =>
          match inner.rest with
          | ')' :: r => alternatives? fuel (st.leave inner r) done (.group index n :: items)
          | _ => none
        | none => none
      | some (.scope changes, inner) =>
        match alternatives? fuel inner [] [] with
        | some (n, inner) =>
          match inner.rest with
          | ')' :: r => alternatives? fuel (st.leave inner r) done (.scope changes n :: items)
          | _ => none
        | none => none
    | '[' :: r =>
      match readClass (r.length + 1) st.verbose r with
      | some (c, r) => alternatives? fuel (st.moveTo r) done (.oneOf c :: items)
      | none => none
    | c :: r =>
      match readCounted? st.verbose items c r with
      | some (some (items, r)) => alternatives? fuel (st.moveTo r) done items
      | some none => none
      | none =>
        match readAtom? st.verbose c r with
        | some (n, r) => alternatives? fuel (st.moveTo r) done (n :: items)
        | none => none

end Reading

def Node.parse? (source : Text) : Option (Node × List (Text × Nat)) :=
  match Reading.alternatives? (source.length + 1) { rest := source } [] [] with
  | some (n, st) => if st.rest = [] then some (n, st.names) else none
  | none => none

end ComponentLoader.Regex
