import ComponentLoader.Proofs.Regex.Reading
import ComponentLoader.Proofs.Regex.Size
import Mathlib.Data.List.Nodup

namespace ComponentLoader.Regex

def anyOf (negated : Bool) (chars : List Char) : Class :=
  .bracketed negated (.ofItems (chars.map fun c => .literal ⟨c, false⟩))

def lineBlank : Class :=
  .bracketed true (.union [.shorthand true .blank, .literal ⟨'\n', false⟩])

def classes : List (Text × Class) := [
  (['^', '\x7b', '\x7d', ';', '\\', 'n', ']'], anyOf true ['\x7b', '\x7d', ';', '\n']),
  (['^', '\x7b', '\x7d', '\\', 'n', ']'], anyOf true ['\x7b', '\x7d', '\n']),
  (['^', '\\', 'S', '\\', 'n', ']'], lineBlank),
  (['\'', '"', ']'], anyOf false ['\'', '"']),
  (['^', '>', ']'], anyOf true ['>'])]

theorem readClass_of_mem {s : Text} {c : Class} (known : (s, c) ∈ classes) (fuel : Nat) (r : Text)
    (room : (s ++ r).length < fuel) : readClass fuel false (s ++ r) = some (c, r) := by
  simp only [classes, List.mem_cons, Prod.mk.injEq, List.not_mem_nil, or_false] at known
  have enough : s.length < fuel := by
    rw [List.length_append] at room
    omega
  obtain ⟨k, rfl⟩ := Nat.exists_eq_add_of_le enough
  rw [Nat.add_comm]
  rcases known with ⟨rfl, rfl⟩ | ⟨rfl, rfl⟩ | ⟨rfl, rfl⟩ | ⟨rfl, rfl⟩ | ⟨rfl, rfl⟩
  all_goals
    simp [readClass, readClassRest, readClassFront, takeSpaced, gap, readClassRange?,
      readClassItem?, readEscape?, hexWidth?, shorthand?, control?, anyOf, lineBlank,
      Pending.close, Class.ofItems]

theorem reads_of_mem {s : Text} {c : Class} (known : (s, c) ∈ classes) (n : Nat) :
    Reads ('[' :: s) n [.oneOf c] n :=
  reads_class n (readClass_of_mem known)

theorem reads_word {s : Text} (usual : ∀ c ∈ s, c ∉ specials) (n : Nat) :
    Reads s n (literals s) n := by
  have read := reads_escapeText s n
  have same : escapeText s = s := by
    have each : ∀ c ∈ s, escapeChar c = [c] := fun c mem => if_neg (usual c mem)
    rw [escapeText, List.flatMap_congr each]
    simp
  rwa [same] at read

-- What nodes mean one after the other, with the flags before and behind.
def Means (xs : List Node) (f : Flags) (es : List Expr) (g : Flags) : Prop :=
  Node.exprs? xs f = some (es, g)

theorem Means.cons {x : Node} {xs : List Node} {e : Expr} {es : List Expr} {f g h : Flags}
    (first : x.expr? f = some (e, g)) (rest : Means xs g es h) : Means (x :: xs) f (e :: es) h := by
  have rest : Node.exprs? xs g = some (es, h) := rest
  simp only [Means, Node.exprs?, first, Option.bind_some, rest, Option.map_some]

theorem Means.single {x : Node} {e : Expr} {f g : Flags} (one : x.expr? f = some (e, g)) :
    Means [x] f [e] g :=
  .cons one rfl

theorem Means.append {xs ys : List Node} {es fs : List Expr} {f g h : Flags}
    (first : Means xs f es g) (second : Means ys g fs h) : Means (xs ++ ys) f (es ++ fs) h := by
  induction xs generalizing f es with
  | nil =>
    cases first
    exact second
  | cons x xs ih =>
    rw [Means, Node.exprs?] at first
    obtain ⟨⟨e, f'⟩, one, rest⟩ := Option.bind_eq_some_iff.1 first
    obtain ⟨⟨es', g'⟩, others, same⟩ := Option.map_eq_some_iff.1 rest
    cases same
    exact .cons one (ih others)

theorem Means.sequence {xs : List Node} {es : List Expr} {f g : Flags} (each : Means xs f es g) :
    (Node.sequence xs).expr? f = some (.ofItems es, g) := by
  have each : Node.exprs? xs f = some (es, g) := each
  simp only [Node.expr?, each, Option.map_some]

theorem Means.alternatives {xs : List Node} {es : List Expr} {f g : Flags}
    (each : Means xs f es g) :
    (Node.alternatives xs).expr? f = some (.ofAlternatives es, g) := by
  have each : Node.exprs? xs f = some (es, g) := each
  simp only [Node.expr?, each, Option.map_some]

theorem expr?_scope {n : Node} {e : Expr} {f g : Flags} (inner : n.expr? f = some (e, g)) :
    (Node.scope [] n).expr? f = some (e, f) := by
  have inner : n.expr? (f.change []) = some (e, g) := inner
  simp only [Node.expr?, inner, Option.map_some]

theorem expr?_group {n : Node} {e : Expr} {f g : Flags} (inner : n.expr? f = some (e, g))
    (index : Nat) : (Node.group index n).expr? f = some (.group index e, f) := by
  simp only [Node.expr?, inner, Option.map_some]

def chars (s : Text) : List Expr := s.map fun c => .text [c]

theorem expr?_literal (c : Char) {f : Flags} (cased : f.anyCase = false) :
    (Node.literal ⟨c, false⟩).expr? f = some (.text [c], f) := by
  simp [Node.expr?, Literal.expr?, Flags.fold, cased, Expr.ofSet, CharSet.char, CharSet.range,
    CharSet.single?]

theorem literals_means (s : Text) {f : Flags} (cased : f.anyCase = false) :
    Means (literals s) f (chars s) f := by
  induction s with
  | nil => rfl
  | cons c s ih => exact .cons (expr?_literal c cased) ih

theorem joinTexts_chars {s : Text} (some_ : s ≠ []) {r : List Expr}
    (apart : ∀ t r', Expr.joinTexts r ≠ .text t :: r') :
    Expr.joinTexts (chars s ++ r) = .text s :: Expr.joinTexts r := by
  induction s with
  | nil => exact absurd rfl some_
  | cons c s ih =>
    cases s with
    | nil =>
      rw [chars, List.map_singleton, List.singleton_append, Expr.joinTexts]
      split
      · next t r' same => exact absurd same (apart t r')
      · rfl
    | cons d s =>
      have rest := ih (List.cons_ne_nil d s)
      rw [chars, List.map_cons, List.cons_append, Expr.joinTexts]
      rw [show (d :: s).map (fun c => Expr.text [c]) = chars (d :: s) from rfl, rest]
      rfl

structure Denotes (c : Class) (s : CharSet) : Prop where
  meaning : ∀ dotAll, c.set? { dotAll } = some s
  several : s.single? = none
  small : Expr.setBytes s ≤ 1400

theorem Denotes.expr? {c : Class} {s : CharSet} (h : Denotes c s) (dotAll : Bool) :
    (Node.oneOf c).expr? { dotAll } = some (.set s, { dotAll }) := by
  simp [Node.expr?, h.meaning, Expr.ofSet, h.several]

def outside : CharSet := ⟨#[(0, 9), (11, 58), (60, 122), (124, 124), (126, 1114111)]⟩

def inside : CharSet := ⟨#[(0, 9), (11, 122), (124, 124), (126, 1114111)]⟩

def quotes : CharSet := ⟨#[(34, 34), (39, 39)]⟩

def area : CharSet := ⟨#[(0, 61), (63, 1114111)]⟩

def lineBlanks : CharSet := ⟨#[(9, 9), (11, 13), (32, 32), (133, 133), (160, 160), (5760, 5760),
  (8192, 8202), (8232, 8233), (8239, 8239), (8287, 8287), (12288, 12288)]⟩

def blanks : CharSet := ⟨#[(9, 13), (32, 32), (133, 133), (160, 160), (5760, 5760),
  (8192, 8202), (8232, 8233), (8239, 8239), (8287, 8287), (12288, 12288)]⟩

def sets : List (Class × CharSet) := [
  (anyOf true ['\x7b', '\x7d', ';', '\n'], outside), (anyOf true ['\x7b', '\x7d', '\n'], inside),
  (anyOf false ['\'', '"'], quotes), (anyOf true ['>'], area), (lineBlank, lineBlanks),
  (.shorthand false .blank, blanks)]

-- Where no two ranges begin alike, they come in one order only.
theorem ofRanges_eq {l r : List (Nat × Nat)} {a b : Nat} (same : l.Perm ((a, b) :: r))
    (order : ((a, b) :: r).Pairwise fun x y => x.1 < y.1) :
    CharSet.ofRanges l = ⟨(CharSet.join a b r).toArray⟩ := by
  have perm := (List.mergeSort_perm l fun x y => x.1 ≤ y.1).trans same
  have increasing : (l.mergeSort fun x y => x.1 ≤ y.1).Pairwise fun x y =>
      decide (x.1 ≤ y.1) = true :=
    List.pairwise_mergeSort (fun x y z => by simpa using Nat.le_trans)
      (fun x y => by simpa using Nat.le_total x.1 y.1) l
  have distinct : (((a, b) :: r).map Prod.fst).Nodup :=
    (List.pairwise_map.2 order).imp Nat.ne_of_lt
  have sort := List.Perm.eq_of_pairwise (fun x y inside given below above =>
    List.inj_on_of_nodup_map distinct (perm.mem_iff.1 inside) given
      (Nat.le_antisymm (by simpa using below) (by simpa using above))) increasing
    (order.imp fun below => by simpa using Nat.le_of_lt below) perm
  rw [CharSet.ofRanges, sort]

theorem sets?_literals (dotAll : Bool) (chars : List Char) :
    Class.sets? { dotAll } (chars.map fun c => .literal ⟨c, false⟩) =
      some (chars.map CharSet.char) := by
  induction chars with
  | nil => rfl
  | cons c chars ih => simp [Class.sets?, Class.set?, Flags.admit?, ih]

theorem set?_anyOf (dotAll negated : Bool) (c d : Char) (chars : List Char) :
    (anyOf negated (c :: d :: chars)).set? { dotAll } =
      some (if negated then (CharSet.ofChars (c :: d :: chars)).compl
        else .ofChars (c :: d :: chars)) := by
  have each := sets?_literals dotAll (c :: d :: chars)
  have chars_ : CharSet.unions ((c :: d :: chars).map CharSet.char) =
      .ofChars (c :: d :: chars) := by
    simp [CharSet.unions, CharSet.ofChars, CharSet.char, CharSet.range, List.flatMap_map,
      ← List.map_eq_flatMap]
  rw [List.map_cons, List.map_cons] at each
  simp only [anyOf, Class.ofItems, List.map_cons, Class.set?, each, Option.map_some,
    Option.bind_some, ← chars_]
  rfl

theorem whiteSpace_eq : Unicode.Trait.whiteSpace = blanks :=
  ofRanges_eq (a := 9) (b := 13) (r := blanks.ranges.toList.tail) (by decide +kernel)
    (by decide)

theorem denotes_of_mem {c : Class} {s : CharSet} (known : (c, s) ∈ sets) : Denotes c s := by
  simp only [sets, List.mem_cons, Prod.mk.injEq, List.not_mem_nil, or_false] at known
  rcases known with ⟨rfl, rfl⟩ | ⟨rfl, rfl⟩ | ⟨rfl, rfl⟩ | ⟨rfl, rfl⟩ | ⟨rfl, rfl⟩ | ⟨rfl, rfl⟩
  all_goals refine ⟨fun dotAll => ?_, rfl, by decide +kernel⟩
  · rw [set?_anyOf, CharSet.ofChars, ofRanges_eq (a := 10) (b := 10)
      (r := [(59, 59), (123, 123), (125, 125)]) (by decide) (by decide)]
    rfl
  · rw [set?_anyOf, CharSet.ofChars, ofRanges_eq (a := 10) (b := 10)
      (r := [(123, 123), (125, 125)]) (by decide) (by decide)]
    rfl
  · rw [set?_anyOf, CharSet.ofChars, ofRanges_eq (a := 34) (b := 34)
      (r := [(39, 39)]) (by decide) (by decide)]
    rfl
  · rfl
  · have rest : CharSet.unions [blanks.compl, .char '\n'] = _ :=
      ofRanges_eq (a := 0) (b := 8)
        (r := (10, 10) :: blanks.compl.ranges.toList.tail) (by decide) (by decide)
    change some (CharSet.unions [Unicode.Trait.whiteSpace.compl, .char '\n']).compl = _
    rw [whiteSpace_eq, rest]
    rfl
  · exact congrArg some whiteSpace_eq

theorem expr?_repeated {n : Node} {e : Expr} {f : Flags} (inner : n.expr? f = some (e, f))
    (consumes : e.isEmptyOnly = false) (eager : f.lazy = false) (greedy : Bool) :
    (Node.repeated 0 none greedy n).expr? f = some (.repeated 0 none greedy e, f) := by
  simp [Node.expr?, inner, Expr.ofRepeated, consumes, eager]

def word (s : Text) : Expr := if s = [] then .empty else .text s

theorem flatMap_chars (s : Text) : (chars s).flatMap Expr.parts = chars s := by
  simp only [chars, List.flatMap_map, Expr.parts]
  exact List.map_eq_flatMap.symm

theorem expr?_word (s : Text) {f : Flags} (cased : f.anyCase = false) :
    (Node.ofSequence (literals s)).expr? f = some (word s, f) := by
  have made : Node.exprs? (literals s) f = some (chars s, f) := literals_means s cased
  match s, made with
  | [], _ => rfl
  | [c], _ => exact expr?_literal c cased
  | c :: d :: s, made =>
    have joined := joinTexts_chars (List.cons_ne_nil c (d :: s)) (r := [])
      (by simp [Expr.joinTexts])
    have sequence : Node.ofSequence (literals (c :: d :: s)) = .sequence (literals (c :: d :: s)) :=
      rfl
    rw [List.append_nil, Expr.joinTexts] at joined
    rw [sequence, Node.expr?, made]
    simp [Expr.ofItems, flatMap_chars, joined, word]

theorem depths_append (xs ys : List Node) :
    Node.depths (xs ++ ys) = max (Node.depths xs) (Node.depths ys) := by
  induction xs with
  | nil => simp [Node.depths]
  | cons x xs ih => simp [Node.depths, ih, Nat.max_assoc]

theorem depths_literals (s : Text) : Node.depths (literals s) = 0 := by
  induction s with
  | nil => rfl
  | cons c s ih => simpa [literals, Node.depths, Node.depth] using ih

theorem depth_word_le (s : Text) : (Node.ofSequence (literals s)).depth ≤ 1 := by
  match s with
  | [] => decide
  | [c] => exact Nat.zero_le 1
  | c :: d :: s =>
    have sequence : Node.ofSequence (literals (c :: d :: s)) = .sequence (literals (c :: d :: s)) :=
      rfl
    simp [sequence, Node.depth, depths_literals]

theorem length_bytes_le (s : Text) : (s.flatMap fun c => utf8 c.toNat).length ≤ 4 * s.length := by
  induction s with
  | nil => simp
  | cons c s ih =>
    have one : (utf8 c.toNat).length ≤ 4 := by
      unfold utf8
      dsimp only
      split_ifs <;> simp
    simp only [List.flatMap_cons, List.length_append, List.length_cons]
    omega

theorem cost_word_le (s : Text) (back : Bool) : (word s).cost back ≤ 32 + 128 * s.length := by
  have bytes := length_bytes_le s
  unfold word
  split <;> rw [Expr.cost]
  · omega
  · omega

theorem isForked_word (s : Text) : (word s).isForked = true := by
  unfold word
  split <;> rfl

theorem parse?_isSome {source : Text} {node : Node} {names : List (Text × Nat)} {e : Expr}
    {f : Flags} (read : Node.parse? source = some (node, names)) (shallow : node.depth ≤ deepest)
    (meaning : node.expr? {} = some (e, f)) (small : e.isTooLarge = false) :
    (parse? source).isSome = true := by
  simp [parse?, read, Nat.not_lt.2 shallow, meaning, small]

end ComponentLoader.Regex
