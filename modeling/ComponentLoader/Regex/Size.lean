import ComponentLoader.Regex.Expr
import ComponentLoader.Regex.Utf8

namespace ComponentLoader.Regex

structure Tally where
  states : Nat := 0
  extra : Nat := 0

namespace Tally

-- For each of two automata that read a text byte by byte, forwards with the groups and backwards
-- without.
def limit : Nat := 10 * 1024 * 1024

def bytes (t : Tally) : Nat := 32 * t.states + t.extra

def add (t : Tally) (states extra : Nat) : Tally := ⟨t.states + states, t.extra + extra⟩

end Tally

-- A fixed number of places for what is to be found again; of two things with one place the later
-- stays.
structure Shelf (α : Type) where
  places : Array (Option (α × Nat))

namespace Shelf

variable {α : Type} [DecidableEq α]

def ofSize (n : Nat) : Shelf α := ⟨Array.replicate n none⟩

def get? (s : Shelf α) (place : Nat) (key : α) : Option Nat :=
  match s.places.getD place none with
  | some (k, state) => if k = key then some state else none
  | none => none

def put (s : Shelf α) (place : Nat) (key : α) (state : Nat) : Shelf α :=
  ⟨s.places.setIfInBounds place (some (key, state))⟩

def placeOf (numbers : List Nat) (count : Nat) : Nat :=
  let hash := numbers.foldl (fun (h : UInt64) n => (h ^^^ n.toUInt64) * 1099511628211)
    14695981039346656037
  hash.toNat % count

end Shelf

structure Way where
  first : Nat
  last : Nat
  state : Nat
  deriving DecidableEq

def Way.numbers (w : Way) : List Nat := [w.first, w.last, w.state]

-- A state that is not made yet; its last way leads to a state that is not made yet either.
structure Unmade where
  ways : List Way
  last : Option (Nat × Nat)

def Unmade.finish (u : Unmade) (state : Nat) : List Way :=
  match u.last with
  | some (a, b) => u.ways ++ [⟨a, b, state⟩]
  | none => u.ways

structure Forward where
  tally : Tally
  shelf : Shelf (List Way)
  unmade : List Unmade

namespace Forward

def state (f : Forward) (ways : List Way) : Nat × Forward :=
  let place := Shelf.placeOf (ways.flatMap Way.numbers) 10000
  match f.shelf.get? place ways with
  | some n => (n, f)
  | none =>
    let n := f.tally.states
    (n, { f with tally := f.tally.add 1 (8 * ways.length), shelf := f.shelf.put place ways n })

-- Makes the innermost states until `kept` and one more are left; `next` is where the last way
-- leads.
def close (f : Forward) (kept next : Nat) : List Unmade → Forward
  | [] => { f with unmade := [] }
  | u :: r =>
    if kept < r.length then
      let (n, f) := f.state (u.finish next)
      f.close kept n r
    else { f with unmade := ⟨u.finish next, none⟩ :: r }

def agreeing : ByteRanges → List Unmade → Nat
  | a :: r, u :: s => if u.last = some a then agreeing r s + 1 else 0
  | _, _ => 0

def addRow (target : Nat) (f : Forward) (row : ByteRanges) : Forward :=
  let kept := agreeing row f.unmade.reverse
  let f := f.close kept target f.unmade
  match row.drop kept, f.unmade with
  | a :: r, u :: s =>
    { f with unmade := (r.map fun a => ⟨[], some a⟩).reverse ++ { u with last := some a } :: s }
  | _, _ => f

def ofSet (t : Tally) (s : CharSet) : Tally :=
  let target := t.states
  let f : Forward := ⟨t.add 1 0, .ofSize 10000, [⟨[], none⟩]⟩
  let f := (setRows s).foldl (addRow target) f
  let f := f.close 0 target f.unmade
  match f.unmade with
  | u :: _ => (f.state u.ways).2.tally
  | [] => f.tally

end Forward

structure Backward where
  tally : Tally
  shelf : Shelf Way

namespace Backward

def state (b : Backward) (place : Nat) (way : Way) : Nat × Backward :=
  match b.shelf.get? place way with
  | some n => (n, b)
  | none =>
    let n := b.tally.states
    (n, ⟨b.tally.add 1 0, b.shelf.put place way n⟩)

def addRow (target : Nat) (b : Backward) (row : ByteRanges) : Backward :=
  let made := row.foldl (fun (next, b) (first, last) =>
    b.state (Shelf.placeOf [next, first, last] 1000) ⟨first, last, next⟩) (target, b)
  { made.2 with tally := made.2.tally.add 0 4 }

def ofSet (t : Tally) (s : CharSet) : Tally :=
  let target := t.states + 1
  ((setRows s).foldl (addRow target) ⟨t.add 2 0, .ofSize 1000⟩).tally

end Backward

-- Words as a tree: the states and the extra bytes of the place from which they all go on. A word
-- that ends there divides those before it from those behind it.
def wordTree : (fuel : Nat) → List (List Nat) → Tally
  | 0, _ => {}
  | fuel + 1, words =>
    let words := match words with
      | [] :: r => [] :: r.dropWhile List.isEmpty
      | ws => ws
    let parts := divide words
    let filled := parts.filter fun p => !p.isEmpty
    let here : Tally := ⟨1, 4 * (filled.length + (parts.length - 1))⟩
    filled.foldl (fun t part =>
      let heads := (part.filterMap List.head?).eraseDups
      heads.foldl (fun t h =>
        let behind := part.filterMap fun w => if w.head? = some h then some (w.drop 1) else none
        if behind.all List.isEmpty then t
        else
          let below := wordTree fuel behind
          t.add below.states below.extra)
        (t.add 1 (if heads.length = 1 then 0 else 8 * heads.length))) here
where
  divide : List (List Nat) → List (List (List Nat))
    | [] => [[]]
    | [] :: r => [] :: divide r
    | w :: r =>
      match divide r with
      | p :: ps => (w :: p) :: ps
      | [] => [[w]]

namespace Expr

def words? (items : List Expr) : Option (List (List Nat)) :=
  items.mapM fun e => match e with
    | text s => some (s.flatMap fun c => utf8 c.toNat)
    | _ => none

-- What is made so far; true when it ends where ways part, so that a way on takes four bytes.
abbrev Growth := Tally → Option (Bool × Tally)

namespace Growth

def grow (parting : Bool) (t : Tally) : Option (Bool × Tally) :=
  if t.bytes ≤ Tally.limit then some (parting, t) else none

def link (parting : Bool) (t : Tally) : Tally := if parting then t.add 0 4 else t

def again (one : Growth) : (count : Nat) → (parting : Bool) → Growth
  | 0, parting, t => some (parting, t)
  | count + 1, parting, t =>
    match one t with
    | some (next, t) => again one count next (link parting t)
    | none => none

def exactly (one : Growth) : (count : Nat) → Growth
  | 0, t => grow false (t.add 1 0)
  | count + 1, t =>
    match one t with
    | some (parting, t) => again one count parting t
    | none => none

def perhaps (one : Growth) : (count : Nat) → (parting : Bool) → Growth
  | 0, parting, t => grow false (link parting t)
  | count + 1, parting, t =>
    match one (t.add 1 0) with
    | some (next, t) => perhaps one count next (link parting (t.add 0 8))
    | none => none

def repeated (one : Growth) (least : Nat) (most : Option Nat) (consumes : Bool) : Growth := fun t =>
  match most with
  | some most =>
    if least = 0 ∧ most = 1 then
      match one (t.add 1 0) with
      | some (parting, t) => grow false (link parting (t.add 1 8))
      | none => none
    else
      match exactly one least t with
      | some (parting, t) =>
        if least = most then some (parting, t)
        else perhaps one (most - least) parting (t.add 1 0)
      | none => none
  | none =>
    if least = 0 then
      if consumes then
        match one (t.add 1 0) with
        | some (parting, t) => grow true (link parting (t.add 0 4))
        | none => none
      else
        match one t with
        | some (parting, t) => grow false (link parting (t.add 3 16))
        | none => none
    else
      match exactly one least t with
      | some (parting, t) => grow true (link parting (t.add 1 4))
      | none => none

end Growth

def growSet (back : Bool) (s : CharSet) (t : Tally) : Tally :=
  if s.isAscii then t.add 2 (8 * s.ranges.size)
  else if back then Backward.ofSet t s
  else Forward.ofSet t s

mutual

def growth (back : Bool) : Expr → Growth
  | empty, t => Growth.grow false (t.add 1 0)
  | text s, t => Growth.grow false (t.add (s.flatMap fun c => utf8 c.toNat).length 0)
  | set s, t => Growth.grow false (growSet back s t)
  | anchor _, t => Growth.grow false (t.add 1 0)
  | repeated least most _ e, t => Growth.repeated (growth back e) least most e.alwaysConsumes t
  | group _ e, t =>
    if back then growth back e t
    else
      match growth back e (t.add 1 0) with
      | some (parting, t) => Growth.grow false (Growth.link parting (t.add 1 0))
      | none => none
  | concat items, t =>
    let parts := growths back items
    match if back then parts.reverse else parts with
    | [] => some (false, t)
    | g :: r =>
      r.foldl (fun made g =>
        made.bind fun (parting, t) =>
          (g t).map fun (next, t) => (next, Growth.link parting t)) (g t)
  | alternation items, t =>
    match words? items with
    | some words =>
      let words := if back then words.map List.reverse else words
      let tree := wordTree ((words.map List.length).foldl max 0 + 1) words
      Growth.grow false (t.add (tree.states + 1) tree.extra)
    | none =>
      let step (t : Tally) (g : Growth) : Option Tally :=
        (g t).map fun (parting, t) => Growth.link parting (t.add 0 4)
      match growths back items with
      | a :: b :: r =>
        (step t a).bind fun t =>
          (step t b).bind fun t =>
            (r.foldlM step (t.add 2 0)).bind fun t => Growth.grow false t
      | _ => none

def growths (back : Bool) : List Expr → List Growth
  | [] => []
  | e :: r => growth back e :: growths back r

end

mutual

def isAtStart : Expr → Bool
  | anchor a => a = .textStart
  | repeated least _ _ e => 0 < least && e.isAtStart
  | group _ e => e.isAtStart
  | concat items => someAtStart items
  | alternation items => allAtStart items
  | _ => false

def someAtStart : List Expr → Bool
  | [] => false
  | e :: r => e.isAtStart || (e.isEmptyOnly && someAtStart r)

def allAtStart : List Expr → Bool
  | [] => true
  | e :: r => e.isAtStart && allAtStart r

end

mutual

def isAtEnd : Expr → Bool
  | anchor a => a = .textEnd
  | repeated least _ _ e => 0 < least && e.isAtEnd
  | group _ e => e.isAtEnd
  | concat items => someAtEnd items
  | alternation items => allAtEnd items
  | _ => false

def someAtEnd : List Expr → Bool
  | [] => false
  | e :: r => someAtEnd r || (allEmptyOnly r && e.isAtEnd)

def allAtEnd : List Expr → Bool
  | [] => true
  | e :: r => e.isAtEnd && allAtEnd r

end

-- The size of one automaton, if it is not too large. An expression that may match anywhere has
-- states in front that pass over bytes.
def size? (back : Bool) (e : Expr) : Option Nat :=
  let anchored := if back then e.isAtEnd else e.isAtStart
  let start : Tally := if anchored then ⟨1, 0⟩ else ⟨3, 16⟩
  match growth back (.group 0 e) start with
  | some (parting, t) =>
    (Growth.grow false (Growth.link parting (t.add 1 0))).map fun (_, t) => t.bytes
  | none => none

def isTooLarge (e : Expr) : Bool := (e.size? false).isNone || (e.size? true).isNone

end Expr
end ComponentLoader.Regex
