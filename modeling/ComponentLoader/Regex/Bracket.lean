import ComponentLoader.Regex.Escape

namespace ComponentLoader.Regex

def asciiDigits : List (Nat × Nat) := [(0x30, 0x39)]

def asciiBlanks : List (Nat × Nat) := [(0x09, 0x0D), (0x20, 0x20)]

def asciiWord : List (Nat × Nat) := [(0x30, 0x39), (0x41, 0x5A), (0x5F, 0x5F), (0x61, 0x7A)]

def namedClasses : List (String × List (Nat × Nat)) := [
  ("alnum", [(0x30, 0x39), (0x41, 0x5A), (0x61, 0x7A)]),
  ("alpha", [(0x41, 0x5A), (0x61, 0x7A)]),
  ("ascii", [(0x00, 0x7F)]),
  ("blank", [(0x09, 0x09), (0x20, 0x20)]),
  ("cntrl", [(0x00, 0x1F), (0x7F, 0x7F)]),
  ("digit", asciiDigits),
  ("graph", [(0x21, 0x7E)]),
  ("lower", [(0x61, 0x7A)]),
  ("print", [(0x20, 0x7E)]),
  ("punct", [(0x21, 0x2F), (0x3A, 0x40), (0x5B, 0x60), (0x7B, 0x7E)]),
  ("space", asciiBlanks),
  ("upper", [(0x41, 0x5A)]),
  ("word", asciiWord),
  ("xdigit", [(0x30, 0x39), (0x41, 0x46), (0x61, 0x66)])]

def readNamedClass? : Text → Option (Class × Text)
  | ':' :: r =>
    let (negated, r) := match r with
      | '^' :: r => (true, r)
      | r => (false, r)
    match r.dropWhile (· ≠ ':') with
    | ':' :: ']' :: rest =>
      (namedClasses.find? fun e => e.1.toList == r.takeWhile (· ≠ ':')).map fun e =>
        (.named negated (.ofRanges e.2), rest)
    | _ => none
  | _ => none

def readClassItem? (verbose : Bool) : Text → Option (Primitive × Text)
  | [] => none
  | '\\' :: r => readEscape? verbose r
  | c :: r => some (.literal ⟨c, false⟩, r)

-- The character that is looked at behind a `-`. A comment is not looked past, only into.
def peekSpaced? (verbose : Bool) (s : Text) : Option Char :=
  if !verbose then s.head?
  else
    match Text.trimStart s with
    | '#' :: r => (Text.trimStart r).head?
    | r => r.head?

def Literal.upTo? (first last : Literal) : Option Class :=
  if first.char ≤ last.char then some (.range first last) else none

-- One character, one escape or one range. A `-` before the closing bracket or before another `-`
-- makes no range.
def readClassRange? (verbose : Bool) (s : Text) : Option (Class × Text) :=
  match readClassItem? verbose s with
  | none => none
  | some (first, r) =>
    let single (rest : Text) : Option (Class × Text) := match first with
      | .literal l => some (.literal l, rest)
      | .oneOf c => some (c, rest)
      | .mark _ => none
    match gap verbose r with
    | '-' :: after =>
      let peeked := peekSpaced? verbose after
      if peeked = some ']' ∨ peeked = some '-' then single ('-' :: after)
      else
        match first, readClassItem? verbose (gap verbose after) with
        | .literal a, some (.literal b, rest) => (a.upTo? b).map fun c => (c, rest)
        | _, _ => none
    | rest => single rest

abbrev Pending := Option (SetOp × Class)

def Pending.close (pending : Pending) (items : List Class) : Class :=
  let right := Class.ofItems items.reverse
  match pending with
  | some (op, left) => .combined op left right
  | none => right

-- The `-` and the `]` that stand for themselves at the front of a class, the last first.
def readClassFront (verbose : Bool) (s : Text) : List Class × Text :=
  match takeSpaced verbose (· == '-') s with
  | ([], ']' :: r) => ([.literal ⟨']', false⟩], gap verbose r)
  | (dashes, r) => (dashes.map fun c => .literal ⟨c, false⟩, r)

mutual

def readClass : (fuel : Nat) → (verbose : Bool) → Text → Option (Class × Text)
  | 0, _, _ => none
  | fuel + 1, verbose, s =>
    let (negated, s) := match gap verbose s with
      | '^' :: r => (true, gap verbose r)
      | r => (false, r)
    let (front, s) := readClassFront verbose s
    (readClassRest fuel verbose none front s).map fun (c, r) => (.bracketed negated c, r)

def readClassRest : (fuel : Nat) → (verbose : Bool) → Pending → List Class → Text →
    Option (Class × Text)
  | 0, _, _, _, _ => none
  | fuel + 1, verbose, pending, items, s =>
    match gap verbose s with
    | [] => none
    | ']' :: r => some (pending.close items, r)
    | '[' :: r =>
      match readNamedClass? r with
      | some (c, r) => readClassRest fuel verbose pending (c :: items) r
      | none =>
        match readClass fuel verbose r with
        | some (c, r) => readClassRest fuel verbose pending (c :: items) r
        | none => none
    | '&' :: '&' :: r => readClassRest fuel verbose (some (.both, pending.close items)) [] r
    | '-' :: '-' :: r => readClassRest fuel verbose (some (.except, pending.close items)) [] r
    | '~' :: '~' :: r => readClassRest fuel verbose (some (.differ, pending.close items)) [] r
    | s =>
      match readClassRange? verbose s with
      | some (c, r) => readClassRest fuel verbose pending (c :: items) r
      | none => none

end

end ComponentLoader.Regex
