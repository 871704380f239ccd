import ComponentLoader.Json.Basic

namespace ComponentLoader

namespace Number

def fits (significand digit : Nat) : Bool := significand * 10 + digit < Nat.pow 2 64

def Binary.fraction (b : Double.Binary) : Nat × Nat := Double.scale b.mantissa 1 2 b.exponent

-- `significand * 10 ^ power`, where the significand, the power of ten and the result are each
-- rounded to a double.
def approximate (significand : Nat) : (power : Int) → (fuel : Nat) → Option Double.Binary
  | power, fuel =>
    (Double.round? significand 1).bind fun f => go f power fuel
where
  step (f : Double.Binary) (power : Int) : Option Double.Binary :=
    (Double.round? (Nat.pow 10 power.natAbs) 1).bind fun p =>
      let (n, d) := Binary.fraction f
      let (x, y) := Binary.fraction p
      if 0 ≤ power then Double.round? (n * x) (d * y) else Double.round? (n * y) (d * x)
  go (f : Double.Binary) (power : Int) : Nat → Option Double.Binary
    | 0 => some f
    | fuel + 1 =>
      if power.natAbs ≤ 308 then step f power
      else if f.mantissa = 0 then some f
      else if 0 ≤ power then none
      else (step f (-308)).bind fun f => go f (power + 308) fuel

def digitsOf (s : Text) : Text × Text := (s.takeWhile Char.isDigit, s.dropWhile Char.isDigit)

def digit (c : Char) : Nat := c.toNat - 48

def gatherWhole : Nat → Int → Text → Nat × Int
  | n, e, [] => (n, e)
  | n, e, c :: r =>
    if e = 0 ∧ fits n (digit c) then gatherWhole (n * 10 + digit c) 0 r
    else gatherWhole n (e + 1) r

def gatherFraction : Nat → Int → Text → Nat × Int
  | n, e, [] => (n, e)
  | n, e, c :: r =>
    if fits n (digit c) then gatherFraction (n * 10 + digit c) (e - 1) r else (n, e)

def ofParts? (negative : Bool) (significand : Nat) (power : Int) : Option Number :=
  -- Beyond these powers only the size matters.
  let power := max (min power 100000) (-100000)
  (approximate significand power 400).map fun b => .double (.ofBinary negative (some b))

def signOf : Text → Bool × Text
  | '-' :: s => (true, s)
  | s => (false, s)

def fraction? : Text → Option (Option Text × Text)
  | '.' :: s => if (digitsOf s).1 = [] then none else some (some (digitsOf s).1, (digitsOf s).2)
  | s => some (none, s)

def powerSignOf : Text → Bool × Text
  | '+' :: s => (false, s)
  | s => signOf s

def power? : Text → Option (Option Int × Text)
  | [] => some (none, [])
  | c :: s =>
    if c = 'e' ∨ c = 'E' then
      let (minus, s) := powerSignOf s
      let (ds, s) := digitsOf s
      let p : Int := ds.foldl (fun p c => p * 10 + digit c) 0
      if ds = [] then none else some (some (if minus then -p else p), s)
    else some (none, c :: s)

def ofRead? (negative : Bool) (whole : Text) (fraction : Option Text) (power : Option Int) :
    Option Number :=
  let (n, e) := gatherWhole 0 0 whole
  match fraction, power with
  | none, none =>
    if e ≠ 0 then ofParts? negative n e
    else if !negative then some (.int n)
    else if 0 < n ∧ n ≤ Nat.pow 2 63 then some (.int (-n))
    else some (.double (.ofDecimal true n 0))
  | _, _ =>
    let (n, e) := gatherFraction n e (fraction.getD [])
    ofParts? negative n (e + power.getD 0)

def read? (s : Text) : Option (Number × Text) := do
  let (negative, s) := signOf s
  let (whole, s) := digitsOf s
  if whole = [] ∨ (whole.head? = some '0' ∧ 1 < whole.length) then none
  else
    let (fraction, s) ← fraction? s
    let (power, s) ← power? s
    (ofRead? negative whole fraction power).map (·, s)

end Number

namespace Json

def isGap (c : Char) : Bool := c = ' ' ∨ c = '\t' ∨ c = '\n' ∨ c = '\r'

def skip (s : Text) : Text := s.dropWhile isGap

def hexValue? (c : Char) : Option Nat :=
  if c.isDigit then some (c.toNat - 48)
  else if 'a' ≤ c ∧ c ≤ 'f' then some (c.toNat - 87)
  else if 'A' ≤ c ∧ c ≤ 'F' then some (c.toNat - 55)
  else none

def unit? : Text → Option (Nat × Text)
  | a :: b :: c :: d :: r => do
    return ((((← hexValue? a) * 16 + (← hexValue? b)) * 16 + (← hexValue? c)) * 16 +
      (← hexValue? d), r)
  | _ => none

-- A character written with four hexadecimal digits, or two such units for a surrogate pair.
def unicode? (s : Text) : Option (Char × Text) :=
  match unit? s with
  | none => none
  | some (n, r) =>
    if 0xD800 ≤ n ∧ n < 0xDC00 then
      match r with
      | '\\' :: 'u' :: r =>
        match unit? r with
        | some (m, r) =>
          if 0xDC00 ≤ m ∧ m < 0xE000 then
            some (Char.ofNat (0x10000 + (n - 0xD800) * 0x400 + (m - 0xDC00)), r)
          else none
        | none => none
      | _ => none
    else if 0xDC00 ≤ n ∧ n < 0xE000 then none
    else some (Char.ofNat n, r)

def simpleEscape? (c : Char) : Option Char :=
  if c = '"' ∨ c = '\\' ∨ c = '/' then some c
  else if c = 'b' then some '\x08'
  else if c = 'f' then some '\x0c'
  else if c = 'n' then some '\n'
  else if c = 'r' then some '\r'
  else if c = 't' then some '\t'
  else none

def readString : (fuel : Nat) → Text → (done : Text) → Option (Text × Text)
  | 0, _, _ => none
  | _, [], _ => none
  | fuel + 1, c :: r, done =>
    if c = '"' then some (done.reverse, r)
    else if c = '\\' then
      match r with
      | [] => none
      | e :: r =>
        if e = 'u' then
          match unicode? r with
          | some (x, r) => readString fuel r (x :: done)
          | none => none
        else
          match simpleEscape? e with
          | some x => readString fuel r (x :: done)
          | none => none
    else if c.toNat < 32 then none
    else readString fuel r (c :: done)

mutual

def readValue : (fuel : Nat) → Text → Option (Json × Text)
  | 0, _ => none
  | fuel + 1, s =>
    match skip s with
    | [] => none
    | c :: r =>
      if c = '"' then (readString (r.length + 1) r []).map fun (t, r) => (string t, r)
      else if c = '[' then
        match skip r with
        | ']' :: r => some (array [], r)
        | r => (readItems fuel r []).map fun (vs, r) => (array vs, r)
      else if c = '{' then
        match skip r with
        | '}' :: r => some (object [], r)
        | r => (readMembers fuel r []).map fun (ms, r) => (object ms, r)
      else
        match Text.dropPrefix? "null".toList (c :: r) with
        | some r => some (null, r)
        | none =>
        match Text.dropPrefix? "true".toList (c :: r) with
        | some r => some (bool true, r)
        | none =>
        match Text.dropPrefix? "false".toList (c :: r) with
        | some r => some (bool false, r)
        | none => (Number.read? (c :: r)).map fun (n, r) => (number n, r)

def readItems : (fuel : Nat) → Text → (done : List Json) → Option (List Json × Text)
  | 0, _, _ => none
  | fuel + 1, s, done =>
    match readValue fuel s with
    | none => none
    | some (v, r) =>
      match skip r with
      | ',' :: r => readItems fuel r (v :: done)
      | ']' :: r => some ((v :: done).reverse, r)
      | _ => none

def readMembers :
    (fuel : Nat) → Text → (done : List (Text × Json)) → Option (List (Text × Json) × Text)
  | 0, _, _ => none
  | fuel + 1, s, done =>
    match skip s with
    | '"' :: r =>
      match readString (r.length + 1) r [] with
      | none => none
      | some (k, r) =>
        match skip r with
        | ':' :: r =>
          match readValue fuel r with
          | none => none
          | some (v, r) =>
            match skip r with
            | ',' :: r => readMembers fuel r ((k, v) :: done)
            | '}' :: r => some (((k, v) :: done).reverse, r)
            | _ => none
        | _ => none
    | _ => none

end

def parse? (s : Text) : Option Json :=
  match readValue (s.length + 1) s with
  | some (v, rest) => if skip rest = [] then some v else none
  | none => none

end Json
end ComponentLoader
