namespace ComponentLoader

-- Every trim and every gap in a pattern goes by this class.
def isBlank (c : Char) : Bool :=
  let n := c.toNat
  n == 0x20 || (0x09 ≤ n && n ≤ 0x0D) || n == 0x85 || n == 0xA0 || n == 0x1680 ||
    (0x2000 ≤ n && n ≤ 0x200A) || n == 0x2028 || n == 0x2029 || n == 0x202F || n == 0x205F ||
    n == 0x3000

abbrev Text := List Char

namespace Text

def dropPrefix? : (p s : Text) → Option Text
  | [], s => some s
  | _ :: _, [] => none
  | a :: p, c :: s => if a = c then dropPrefix? p s else none

theorem dropPrefix?_append (p s : Text) : dropPrefix? p (p ++ s) = some s := by
  induction p with
  | nil => rfl
  | cons a p ih => simpa [dropPrefix?] using ih

theorem dropPrefix?_eq_some {p s r : Text} : dropPrefix? p s = some r ↔ s = p ++ r := by
  constructor
  · intro h
    induction p generalizing s with
    | nil => simpa [dropPrefix?] using h
    | cons a p ih =>
      cases s with
      | nil => simp [dropPrefix?] at h
      | cons c s =>
        by_cases e : a = c
        · subst e; simp only [dropPrefix?, if_true] at h; simp [ih h]
        · simp [dropPrefix?, e] at h
  · rintro rfl; exact dropPrefix?_append p r

def startsWith (p s : Text) : Bool := (dropPrefix? p s).isSome

def endsWith (p s : Text) : Bool := startsWith p.reverse s.reverse

def cut? (p : Text) : (s : Text) → Option (Text × Text)
  | [] => (dropPrefix? p []).map ([], ·)
  | c :: s =>
    match dropPrefix? p (c :: s) with
    | some r => some ([], r)
    | none => (cut? p s).map fun (a, b) => (c :: a, b)

theorem eq_of_cut? {p s a b : Text} (h : cut? p s = some (a, b)) : s = a ++ p ++ b := by
  induction s generalizing a b with
  | nil =>
    simp only [cut?, Option.map_eq_some_iff, Prod.mk.injEq] at h
    obtain ⟨r, hr, rfl, rfl⟩ := h
    simpa using dropPrefix?_eq_some.1 hr
  | cons c s ih =>
    simp only [cut?] at h
    split at h
    · next r hr =>
      cases h
      simpa using dropPrefix?_eq_some.1 hr
    · obtain ⟨⟨x, y⟩, hx, hy⟩ := Option.map_eq_some_iff.1 h
      cases hy
      simp [ih hx]

def contains (p s : Text) : Bool := (cut? p s).isSome

-- The texts between the separators; there is always one more than separators.
def splitOn (sep : Char) : Text → List Text
  | [] => [[]]
  | c :: s =>
    if c = sep then [] :: splitOn sep s
    else
      match splitOn sep s with
      | [] => [[c]]
      | t :: ts => (c :: t) :: ts

theorem splitOn_ne_nil (sep : Char) (s : Text) : splitOn sep s ≠ [] := by
  cases s with
  | nil => simp [splitOn]
  | cons c s =>
    simp only [splitOn]
    split
    · simp
    · split <;> simp

def join (sep : Text) : List Text → Text
  | [] => []
  | [t] => t
  | t :: u :: ts => t ++ sep ++ join sep (u :: ts)

theorem join_cons {sep t : Text} {ts : List Text} (h : ts ≠ []) :
    join sep (t :: ts) = t ++ sep ++ join sep ts := by
  cases ts with
  | nil => exact absurd rfl h
  | cons u us => rfl

theorem join_splitOn (sep : Char) (s : Text) : join [sep] (splitOn sep s) = s := by
  induction s with
  | nil => rfl
  | cons c s ih =>
    simp only [splitOn]
    split
    · next h =>
      subst h
      rw [join_cons (splitOn_ne_nil _ _), ih]
      rfl
    · split
      · next h => exact absurd h (splitOn_ne_nil _ _)
      · next t ts h =>
        rw [h] at ih
        cases ts with
        | nil => simpa [join] using ih
        | cons u us => simpa [join] using ih

def trimStart (s : Text) : Text := s.dropWhile isBlank

def dropEndWhile (p : Char → Bool) (s : Text) : Text := (s.reverse.dropWhile p).reverse

def trimEnd (s : Text) : Text := s.dropEndWhile isBlank

def trim (s : Text) : Text := trimEnd (trimStart s)

theorem length_dropWhile_le (p : Char → Bool) (s : Text) : (s.dropWhile p).length ≤ s.length :=
  (List.dropWhile_sublist p).length_le

def words (s : Text) : List Text :=
  match _h : s.dropWhile isBlank with
  | [] => []
  | c :: r => (c :: r.takeWhile (!isBlank ·)) :: words (r.dropWhile (!isBlank ·))
termination_by s.length
decreasing_by
  have h₁ := length_dropWhile_le isBlank s
  have h₂ := length_dropWhile_le (!isBlank ·) r
  rw [_h] at h₁
  simp only [List.length_cons] at h₁
  omega

def lines (s : Text) : List Text :=
  match (splitOn '\n' s).reverse with
  | [] => []
  | last :: ended =>
    let ended := ended.reverse.map fun l => if endsWith ['\r'] l then l.dropLast else l
    if last.isEmpty then ended else ended ++ [last]

def ofNat (n : Nat) : Text := Nat.toDigits 10 n

end Text
end ComponentLoader
