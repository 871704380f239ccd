import ComponentLoader.Text.Basic

namespace ComponentLoader

structure CharSet where
  ranges : Array (Nat × Nat)
  deriving DecidableEq, Inhabited

namespace CharSet

def greatest : Nat := 0x10FFFF

def next (n : Nat) : Nat := if n = 0xD7FF then 0xE000 else n + 1

def prev (n : Nat) : Nat := if n = 0xE000 then 0xD7FF else n - 1

def holds (s : CharSet) (n : Nat) : Bool :=
  go 0 s.ranges.size s.ranges.size
where
  -- The first range that does not end below `n` is sought between `low` and `high`.
  go (low high : Nat) : Nat → Bool
    | 0 => false
    | fuel + 1 =>
      if low < high then
        let mid := (low + high) / 2
        match s.ranges[mid]? with
        | none => false
        | some (a, b) => if b < n then go (mid + 1) high fuel
          else if n < a then go low mid fuel
          else true
      else false

def has (s : CharSet) (c : Char) : Bool := s.holds c.toNat

def empty : CharSet := ⟨#[]⟩

def range (first last : Nat) : CharSet := ⟨#[(first, last)]⟩

def char (c : Char) : CharSet := range c.toNat c.toNat

def all : CharSet := range 0 greatest

def isEmpty (s : CharSet) : Bool := s.ranges.isEmpty

def join (first last : Nat) : List (Nat × Nat) → List (Nat × Nat)
  | [] => [(first, last)]
  | (a, b) :: r =>
    if a ≤ last + 1 then join first (max last b) r else (first, last) :: join a b r

def ofRanges (ranges : List (Nat × Nat)) : CharSet :=
  match ranges.mergeSort fun a b => a.1 ≤ b.1 with
  | [] => empty
  | (a, b) :: r => ⟨(join a b r).toArray⟩

def ofChars (chars : List Char) : CharSet := ofRanges (chars.map fun c => (c.toNat, c.toNat))

def unions (sets : List CharSet) : CharSet := ofRanges (sets.flatMap fun s => s.ranges.toList)

def union (a b : CharSet) : CharSet := unions [a, b]

-- What lies between the ranges, from `first` on. The gap of two ranges that touch ends in front of
-- its beginning.
def gaps (first : Nat) : List (Nat × Nat) → List (Nat × Nat)
  | [] => if first ≤ greatest then [(first, greatest)] else []
  | (a, b) :: r => (if a = 0 then [] else [(first, prev a)]) ++ gaps (next b) r

def compl (s : CharSet) : CharSet :=
  ⟨((gaps 0 s.ranges.toList).map fun (a, b) => (min a b, max a b)).toArray⟩

def common : List (Nat × Nat) → List (Nat × Nat) → List (Nat × Nat)
  | (a, b) :: r, (c, d) :: s =>
    let rest := if b < d then common r ((c, d) :: s) else common ((a, b) :: r) s
    if max a c ≤ min b d then (max a c, min b d) :: rest else rest
  | _, _ => []
termination_by r s => r.length + s.length

def inter (a b : CharSet) : CharSet := ⟨(common a.ranges.toList b.ranges.toList).toArray⟩

def diff (a b : CharSet) : CharSet :=
  let outside := (gaps 0 b.ranges.toList).filter fun (a, b) => a ≤ b
  ⟨(common a.ranges.toList outside).toArray⟩

def symmDiff (a b : CharSet) : CharSet := (a.union b).diff (a.inter b)

def isAscii (s : CharSet) : Bool := s.ranges.all fun (_, b) => b < 0x80

def single? (s : CharSet) : Option Char :=
  match s.ranges.toList with
  | [(a, b)] => if a = b then some (Char.ofNat a) else none
  | _ => none

end CharSet
end ComponentLoader

namespace ComponentLoader.Unicode

def hex (digits : Text) : Nat :=
  digits.foldl (fun n c => n * 16 + (if c.isDigit then c.toNat - 48 else c.toNat - 55)) 0

def rangesOf (entry : Text) : List (Nat × Nat) :=
  let first := hex (entry.takeWhile (· ≠ '-'))
  match entry.dropWhile (· ≠ '-') with
  | [] => [(first, first)]
  | _ :: r =>
    let last := hex (r.takeWhile (· ≠ '/'))
    if '/' ∈ r then
      (List.range ((last - first) / 2 + 1)).map fun i => (first + 2 * i, first + 2 * i)
    else [(first, last)]

end ComponentLoader.Unicode

namespace ComponentLoader.CharSet

def ofTable (table : String) : CharSet :=
  ofRanges ((Text.words table.toList).flatMap Unicode.rangesOf)

end ComponentLoader.CharSet
