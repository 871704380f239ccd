import ComponentLoader.Text.CharSet

namespace ComponentLoader.Regex

abbrev ByteRanges := List (Nat × Nat)

def utf8 (n : Nat) : List Nat :=
  let tail (place : Nat) : Nat := 0x80 + n / place % 64
  if n < 0x80 then [n]
  else if n < 0x800 then [0xC0 + n / 64, tail 1]
  else if n < 0x10000 then [0xE0 + n / 4096, tail 64, tail 1]
  else [0xF0 + n / 262144, tail 4096, tail 64, tail 1]

-- Where the characters from `a` to `b` may have to be cut: at the surrogates, where the number of
-- bytes changes, and where a byte but the last changes while those behind it do not run through all
-- their values.
def cuts (a b : Nat) : List Nat :=
  if b < 0x80 then []
  else
    [0xE000, 0x80, 0x800, 0x10000] ++ [64, 4096, 262144].flatMap fun unit =>
      if a / unit = b / unit then []
      else if a % unit ≠ 0 then [(a / unit + 1) * unit]
      else if b % unit ≠ unit - 1 then [b / unit * unit]
      else []

def cut? (a b : Nat) : Option Nat := (cuts a b).find? fun c => a < c ∧ c ≤ b

theorem between_of_cut? {a b c : Nat} (h : cut? a b = some c) : a < c ∧ c ≤ b := by
  simpa using List.find?_some h

theorem prev_lt {c : Nat} (h : 0 < c) : CharSet.prev c < c := by
  unfold CharSet.prev
  split <;> omega

def byteRows (a b : Nat) : List ByteRanges :=
  match _h : cut? a b with
  | some c => byteRows a (CharSet.prev c) ++ byteRows c b
  | none => [(utf8 a).zip (utf8 b)]
termination_by b - a
decreasing_by
  · have := between_of_cut? _h
    have := prev_lt (show 0 < c by omega)
    omega
  · have := between_of_cut? _h
    omega

def setRows (s : CharSet) : List ByteRanges := s.ranges.toList.flatMap fun (a, b) => byteRows a b

end ComponentLoader.Regex
