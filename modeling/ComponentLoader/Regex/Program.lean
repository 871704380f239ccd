import ComponentLoader.Regex.Expr

namespace ComponentLoader.Regex

-- Jumps tell how far they go, so that a list of instructions may stand anywhere.
inductive Instr where
  | char (c : Char)
  | set (s : CharSet)
  | anchor (a : Anchor)
  | jump (far : Int)
  | split (first second : Int)
  | save (slot : Nat)
  | accept

def fork (greedy : Bool) (on away : Int) : Instr :=
  if greedy then .split on away else .split away on

def copies (body : List Instr) (count : Nat) : List Instr := (List.replicate count body).flatten

def optionals (body : List Instr) (greedy : Bool) : (count : Nat) → List Instr
  | 0 => []
  | count + 1 =>
    fork greedy 1 ((count + 1) * (body.length + 1)) :: body ++ optionals body greedy count

-- None or more copies. An empty round must not hide the rounds behind it.
def loop (body : List Instr) (greedy mayBeEmpty : Bool) : List Instr :=
  let out : Int := body.length + 2
  if mayBeEmpty then fork greedy 1 out :: body ++ [fork greedy (-body.length) 1]
  else fork greedy 1 out :: body ++ [.jump (-(body.length + 1))]

def alternatives : List (List Instr) → List Instr
  | [] => []
  | [body] => body
  | body :: rest =>
    let others := alternatives rest
    .split 1 (body.length + 2) :: body ++ .jump (others.length + 1) :: others

mutual

def Expr.code : Expr → List Instr
  | empty => []
  | text s => s.map .char
  | set s => [.set s]
  | anchor a => [.anchor a]
  | concat items => (codes items).flatten
  | alternation items => alternatives (codes items)
  | group index e => .save (2 * index) :: e.code ++ [.save (2 * index + 1)]
  | repeated least most greedy e =>
    let body := e.code
    match most with
    | some most => copies body least ++ optionals body greedy (most - least)
    | none =>
      if least = 0 then loop body greedy !e.alwaysConsumes
      else copies body least ++ [fork greedy (-body.length) 1]

def Expr.codes : List Expr → List (List Instr)
  | [] => []
  | e :: r => e.code :: codes r

end

def program (e : Expr) : Array Instr := ((Expr.group 0 e).code ++ [Instr.accept]).toArray

abbrev Slots := List (Nat × Nat)

structure Thread where
  place : Nat
  pos : Nat
  slots : Slots

def Thread.moved (t : Thread) (far : Int) : Thread := { t with place := (t.place + far).toNat }

structure Search where
  prog : Array Instr
  text : Array Char

namespace Search

def index (m : Search) (t : Thread) : Nat := t.place * (m.text.size + 1) + t.pos

def consume (m : Search) (t : Thread) (p : Char → Bool) : List Thread :=
  match m.text[t.pos]? with
  | some c => if p c then [{ t with place := t.place + 1, pos := t.pos + 1 }] else []
  | none => []

def step (m : Search) (t : Thread) : Option (List Thread) :=
  match m.prog[t.place]? with
  | none => some []
  | some (.char d) => some (m.consume t fun c => c == d)
  | some (.set s) => some (m.consume t s.has)
  | some (.anchor a) =>
    let before := if t.pos = 0 then none else m.text[t.pos - 1]?
    some (if a.holds before m.text[t.pos]? then [{ t with place := t.place + 1 }] else [])
  | some (.jump far) => some [t.moved far]
  | some (.split first second) => some [t.moved first, t.moved second]
  | some (.save slot) =>
    some [{ t with place := t.place + 1, slots := (slot, t.pos) :: t.slots }]
  | some .accept => none

-- Threads wait on a stack; the marks tell which pairs of places have been tried.
def run (m : Search) : (fuel : Nat) → List Thread → Array Bool → Option Slots × Array Bool
  | 0, _, marks => (none, marks)
  | _, [], marks => (none, marks)
  | fuel + 1, t :: waiting, marks =>
    let i := m.index t
    if marks.getD i true then run m fuel waiting marks
    else
      match m.step t with
      | none => (some t.slots, marks)
      | some next => run m fuel (next ++ waiting) (marks.setIfInBounds i true)

def scan (m : Search) (marks : Array Bool) (start : Nat) : (fuel : Nat) → Option Slots
  | 0 => none
  | fuel + 1 =>
    match m.run (3 * marks.size + 3) [⟨0, start, []⟩] marks with
    | (some slots, _) => some slots
    | (none, marks) => if start < m.text.size then scan m marks (start + 1) fuel else none

def find (m : Search) (start : Nat) : Option Slots :=
  m.scan (Array.replicate (m.prog.size * (m.text.size + 1)) false) start (m.text.size + 1)

end Search

def Slots.get? (slots : Slots) (slot : Nat) : Option Nat :=
  (slots.find? fun e => e.1 == slot).map Prod.snd

def Slots.group? (slots : Slots) (index : Nat) : Option (Nat × Nat) := do
  return (← slots.get? (2 * index), ← slots.get? (2 * index + 1))

end ComponentLoader.Regex

namespace ComponentLoader.Regex

def search (r : Regex) (text : Text) : Search := ⟨program r.expr, text.toArray⟩

def isMatch (r : Regex) (text : Text) : Bool := ((r.search text).find 0).isSome

-- All matches from left to right. An empty match where the match before ended is passed over.
def matchesFrom (m : Search) : (start : Nat) → (last : Option Nat) → (fuel : Nat) → List Slots
  | _, _, 0 => []
  | start, last, fuel + 1 =>
    match m.find start with
    | none => []
    | some slots =>
      match slots.group? 0 with
      | none => []
      | some (a, b) =>
        if a = b ∧ last = some b then
          if start < m.text.size then matchesFrom m (start + 1) last fuel else []
        else slots :: matchesFrom m b (some b) fuel

def allMatches (r : Regex) (text : Text) : List Slots :=
  matchesFrom (r.search text) 0 none (2 * text.length + 2)

end ComponentLoader.Regex
