import ComponentLoader.Regex.Syntax
import ComponentLoader.Unicode.Property

namespace ComponentLoader.Regex

def skipBlanks (comment : Bool) : Text → Text
  | [] => []
  | c :: r =>
    if comment then skipBlanks (c != '\n') r
    else if isBlank c then skipBlanks false r
    else if c = '#' then skipBlanks true r
    else c :: r

theorem length_skipBlanks_le (comment : Bool) (s : Text) :
    (skipBlanks comment s).length ≤ s.length := by
  induction s generalizing comment with
  | nil => simp [skipBlanks]
  | cons c r ih =>
    have hf := ih false
    have ht := ih true
    have hn := ih (c != '\n')
    simp only [skipBlanks, List.length_cons]
    split
    · omega
    · split
      · omega
      · split
        · omega
        · simp

def gap (verbose : Bool) (s : Text) : Text := if verbose then skipBlanks false s else s

theorem length_gap_le (verbose : Bool) (s : Text) : (gap verbose s).length ≤ s.length := by
  unfold gap
  split
  · exact length_skipBlanks_le false s
  · omega

def takeSpaced (verbose : Bool) (p : Char → Bool) (s : Text) : Text × Text :=
  match s with
  | [] => ([], [])
  | c :: r =>
    if p c then
      let (run, rest) := takeSpaced verbose p (gap verbose r)
      (c :: run, rest)
    else ([], c :: r)
termination_by s.length
decreasing_by
  have := length_gap_le verbose r
  simp only [List.length_cons]
  omega

inductive Primitive where
  | literal (l : Literal)
  | mark (m : Mark)
  | oneOf (c : Class)

def hexDigit? (c : Char) : Option Nat :=
  if c.isDigit then some (c.toNat - 48)
  else if 'a' ≤ c ∧ c ≤ 'f' then some (c.toNat - 87)
  else if 'A' ≤ c ∧ c ≤ 'F' then some (c.toNat - 55)
  else none

def charOfHex? (digits : Text) : Option Char := do
  if digits = [] then none
  let n ← digits.foldlM (fun n c => (hexDigit? c).map (n * 16 + ·)) 0
  if n.isValidChar then some (Char.ofNat n) else none

def takeDigits? (verbose : Bool) : (count : Nat) → Text → Option (Text × Text)
  | 0, s => some ([], s)
  | _ + 1, [] => none
  | count + 1, c :: r =>
    (takeDigits? verbose count (gap verbose r)).map fun (digits, rest) => (c :: digits, rest)

def hexWidth? (c : Char) : Option Nat :=
  if c = 'x' then some 2
  else if c = 'u' then some 4
  else if c = 'U' then some 8
  else none

def readHex? (verbose : Bool) (width : Nat) : Text → Option (Literal × Text)
  | '{' :: r =>
    match takeSpaced verbose (fun c => (hexDigit? c).isSome) (gap verbose r) with
    | (digits, '}' :: rest) => (charOfHex? digits).map fun c => (⟨c, false⟩, gap verbose rest)
    | _ => none
  | s =>
    (takeDigits? verbose width s).bind fun (digits, rest) =>
      (charOfHex? digits).map fun c => (⟨c, width == 2⟩, rest)

def property? (negated : Bool) (content : Text) : Option Class :=
  match Text.cut? "!=".toList content with
  | some (name, value) => (Unicode.Property.findValue? name value).map (.property !negated)
  | none =>
    match (Text.cut? [':'] content).or (Text.cut? ['='] content) with
    | some (name, value) => (Unicode.Property.findValue? name value).map (.property negated)
    | none => (Unicode.Property.find? content).map (.property negated)

def readProperty? (verbose negated : Bool) : Text → Option (Class × Text)
  | [] => none
  | '{' :: r =>
    match takeSpaced verbose (· != '}') (gap verbose r) with
    | (content, '}' :: rest) => (property? negated content).map fun c => (c, rest)
    | _ => none
  | c :: r => if c = '\\' then none else (property? negated [c]).map fun c => (c, r)

def isEdgeNameChar (c : Char) : Bool := c == '-' || c.isAlpha

def edge? (name : Text) : Option WordEdge :=
  if name = "start".toList then some .start
  else if name = "end".toList then some .finish
  else if name = "start-half".toList then some .halfStart
  else if name = "end-half".toList then some .halfFinish
  else none

-- A word boundary, which a name in braces may narrow; other braces are left to be a count.
def readBoundary? (verbose : Bool) (s : Text) : Option (WordEdge × Text) :=
  match s with
  | '{' :: r =>
    match gap verbose r with
    | [] => none
    | c :: r =>
      if isEdgeNameChar c then
        match takeSpaced verbose isEdgeNameChar (c :: r) with
        | (name, '}' :: rest) => (edge? name).map fun e => (e, rest)
        | _ => none
      else some (.boundary, s)
  | s => some (.boundary, s)

def shorthand? (c : Char) : Option Class :=
  if c = 'd' then some (.shorthand false .digit)
  else if c = 's' then some (.shorthand false .blank)
  else if c = 'w' then some (.shorthand false .word)
  else if c = 'D' then some (.shorthand true .digit)
  else if c = 'S' then some (.shorthand true .blank)
  else if c = 'W' then some (.shorthand true .word)
  else none

def control? (c : Char) : Option Char :=
  if c = 'a' then some '\x07'
  else if c = 'f' then some '\x0c'
  else if c = 't' then some '\t'
  else if c = 'n' then some '\n'
  else if c = 'r' then some '\r'
  else if c = 'v' then some '\x0b'
  else none

def mark? (c : Char) : Option Mark :=
  if c = 'A' then some .textStart
  else if c = 'z' then some .textEnd
  else if c = 'B' then some (.word .inside)
  else if c = '<' then some (.word .start)
  else if c = '>' then some (.word .finish)
  else none

def readEscape? (verbose : Bool) : Text → Option (Primitive × Text)
  | [] => none
  | c :: r =>
    match hexWidth? c with
    | some width =>
      (readHex? verbose width (gap verbose r)).map fun (l, rest) => (.literal l, rest)
    | none =>
      if c = 'p' ∨ c = 'P' then
        (readProperty? verbose (c == 'P') (gap verbose r)).map fun (c, rest) => (.oneOf c, rest)
      else if c = 'b' then
        (readBoundary? verbose r).map fun (e, rest) => (.mark (.word e), rest)
      else
        match shorthand? c, control? c, mark? c with
        | some s, _, _ => some (.oneOf s, r)
        | none, some c, _ => some (.literal ⟨c, false⟩, r)
        | none, none, some m => some (.mark m, r)
        | none, none, none =>
          if c.toNat < 128 ∧ !c.isAlphanum then some (.literal ⟨c, false⟩, r) else none

end ComponentLoader.Regex
