import ComponentLoader.Import.Statement
import ComponentLoader.Proofs.Regex.Meaning

namespace ComponentLoader.ImportStatement

open Regex

def items (module : Text) : List Regex.Node :=
  let outside := Node.oneOf (anyOf true ['\x7b', '\x7d', ';', '\n'])
  let inside := Node.oneOf (anyOf true ['\x7b', '\x7d', '\n'])
  let quote := Node.oneOf (anyOf false ['\'', '"'])
  literals ['i', 'm', 'p', 'o', 'r', 't'] ++ Node.repeated 0 none true outside ::
    Node.literal ⟨'\x7b', false⟩ :: Node.group 1 (.repeated 0 none true inside) ::
    Node.literal ⟨'\x7d', false⟩ :: Node.repeated 0 none false outside ::
    (literals ['f', 'r', 'o', 'm'] ++
      [Node.repeated 0 none true (.oneOf lineBlank), quote,
        Node.group 2 (.ofSequence (literals module)), quote])

theorem reads_pattern (module : Text) : Reads (pattern module) 0 (items module) 2 := by
  have quote (n : Nat) : Reads ['[', '\'', '"', ']'] n [.oneOf (anyOf false ['\'', '"'])] n :=
    reads_of_mem (by simp [classes]) n
  have outside (n : Nat) := reads_of_mem (s := ['^', '\x7b', '\x7d', ';', '\\', 'n', ']'])
    (c := anyOf true ['\x7b', '\x7d', ';', '\n']) (by simp [classes]) n
  have inside := reads_of_mem (s := ['^', '\x7b', '\x7d', '\\', 'n', ']'])
    (c := anyOf true ['\x7b', '\x7d', '\n']) (by simp [classes]) 1
  have blank := reads_of_mem (s := ['^', '\\', 'S', '\\', 'n', ']']) (c := lineBlank)
    (by simp [classes]) 1
  have name := (reads_escapeText module 2).encloses.group (head?_escapeText module)
  have front : "import[^\x7b\x7d;\\n]*\\\x7b([^\x7b\x7d\\n]*)\\\x7d[^\x7b\x7d;\\n]*?".toList =
      ['i', 'm', 'p', 'o', 'r', 't', '[', '^', '\x7b', '\x7d', ';', '\\', 'n', ']', '*', '\\',
       '\x7b', '(', '[', '^', '\x7b', '\x7d', '\\', 'n', ']', '*', ')', '\\', '\x7d', '[', '^',
       '\x7b', '\x7d', ';', '\\', 'n', ']', '*', '?'] := by
    decide
  have middle : "from[^\\S\\n]*['\"](".toList =
      ['f', 'r', 'o', 'm', '[', '^', '\\', 'S', '\\', 'n', ']', '*', '[', '\'', '"', ']', '('] := by
    decide
  have back : ")['\"]".toList = [')', '[', '\'', '"', ']'] := by decide
  have r := (quote 1).cons (name.cons (quote 2) (by decide)) (by decide)
  have r := (reads_word (s := ['f', 'r', 'o', 'm']) (Text.forall_of_all (by decide)) 1).cons
    ((blank.star rfl).cons r (by decide)) (by decide)
  have r := (reads_escaped (c := '\x7d') (by decide) 1).cons
    (((outside 1).lazyStar rfl).cons r (by decide)) (by decide)
  have r := (reads_escaped (c := '\x7b') (by decide) 0).cons
    (((inside.star rfl).encloses.group (m := 0) (by simp)).cons r (by decide)) (by decide)
  have r := (reads_word (s := ['i', 'm', 'p', 'o', 'r', 't']) (Text.forall_of_all (by decide))
    0).cons (((outside 0).star rfl).cons r (by decide)) (by decide)
  convert r using 1
  · refine (congrArg₂ (· ++ ·) (congrArg₂ (· ++ ·) (congrArg₂ (· ++ ·) front middle) rfl)
      back).trans ?_
    simp only [List.append_eq, List.cons_append, List.nil_append, List.append_assoc]
  · rfl

def expr (module : Text) : Expr :=
  .concat [.text ['i', 'm', 'p', 'o', 'r', 't'], .repeated 0 none true (.set outside),
    .text ['\x7b'], .group 1 (.repeated 0 none true (.set inside)), .text ['\x7d'],
    .repeated 0 none false (.set outside), .text ['f', 'r', 'o', 'm'],
    .repeated 0 none true (.set lineBlanks), .set quotes, .group 2 (word module), .set quotes]

theorem items_mean (module : Text) : Means (items module) {}
    (chars ['i', 'm', 'p', 'o', 'r', 't'] ++ Expr.repeated 0 none true (.set outside) ::
      Expr.text ['\x7b'] :: Expr.group 1 (.repeated 0 none true (.set inside)) ::
      Expr.text ['\x7d'] :: Expr.repeated 0 none false (.set outside) ::
      (chars ['f', 'r', 'o', 'm'] ++
        [Expr.repeated 0 none true (.set lineBlanks), .set quotes, .group 2 (word module),
          .set quotes])) {} := by
  have known {c : Regex.Class} {s : CharSet} (known : (c, s) ∈ sets) :
      (Node.oneOf c).expr? {} = some (.set s, {}) := (denotes_of_mem known).expr? false
  have before := known (c := anyOf true ['\x7b', '\x7d', ';', '\n']) (s := outside) (by simp [sets])
  have within := known (c := anyOf true ['\x7b', '\x7d', '\n']) (s := inside) (by simp [sets])
  have blank := known (c := lineBlank) (s := lineBlanks) (by simp [sets])
  have quote := known (c := anyOf false ['\'', '"']) (s := quotes) (by simp [sets])
  have clause := expr?_group (expr?_repeated within rfl rfl true) 1
  have name := expr?_group (expr?_word module (f := {}) rfl) 2
  have path := Means.cons (expr?_repeated blank rfl rfl true)
    (.cons quote (.cons name (.single quote)))
  have rest := (literals_means ['f', 'r', 'o', 'm'] rfl).append path
  exact (literals_means _ rfl).append (.cons (expr?_repeated before rfl rfl true)
    (.cons (expr?_literal '\x7b' rfl) (.cons clause (.cons (expr?_literal '\x7d' rfl)
      (.cons (expr?_repeated before rfl rfl false) rest)))))

theorem expr?_items (module : Text) :
    (Node.ofSequence (items module)).expr? {} = some (expr module, {}) := by
  have sequence : Node.ofSequence (items module) = .sequence (items module) := rfl
  rw [sequence, (items_mean module).sequence]
  rfl

theorem depth_items_le (module : Text) : (Node.ofSequence (items module)).depth ≤ deepest := by
  have name := depth_word_le module
  have sequence : Node.ofSequence (items module) = .sequence (items module) := rfl
  rw [sequence]
  simp only [Node.depth, items, depths_append, depths_literals, Node.depths, anyOf, lineBlank,
    Class.depth, Class.ofItems, Class.depths, List.map_cons, List.map_nil, deepest]
  omega

theorem cost_expr_le (module : Text) (back : Bool) :
    (expr module).cost back ≤ 40000 + 128 * module.length := by
  have name := cost_word_le module back
  have small {c : Regex.Class} {s : CharSet} (known : (c, s) ∈ sets) := (denotes_of_mem known).small
  have before := small (c := anyOf true ['\x7b', '\x7d', ';', '\n']) (s := outside) (by simp [sets])
  have within := small (c := anyOf true ['\x7b', '\x7d', '\n']) (s := inside) (by simp [sets])
  have blank := small (c := lineBlank) (s := lineBlanks) (by simp [sets])
  have quote := small (c := anyOf false ['\'', '"']) (s := quotes) (by simp [sets])
  have letters := length_bytes_le ['i', 'm', 'p', 'o', 'r', 't']
  have braces := length_bytes_le ['\x7b']
  have braces' := length_bytes_le ['\x7d']
  have letters' := length_bytes_le ['f', 'r', 'o', 'm']
  simp only [List.length_cons, List.length_nil] at letters letters' braces braces'
  simp only [expr, Expr.cost, Expr.costs, List.sum_cons, List.sum_nil, List.length_cons,
    List.length_nil, Option.getD_none, Nat.zero_mul, Nat.add_zero, Nat.zero_add]
  generalize Expr.setBytes outside = a, Expr.setBytes inside = b, Expr.setBytes lineBlanks = c,
    Expr.setBytes quotes = d at *
  generalize (List.flatMap _ ['i', 'm', 'p', 'o', 'r', 't']).length = e,
    (List.flatMap _ ['f', 'r', 'o', 'm']).length = f, (List.flatMap _ ['\x7b']).length = g,
    (List.flatMap _ ['\x7d']).length = h at *
  omega

theorem isForked_expr (module : Text) : (expr module).isForked = true := by
  simp [expr, Expr.isForked, Expr.allForked, isForked_word]

theorem isTooLarge_expr {module : Text} (short : module.length ≤ 80000) :
    (expr module).isTooLarge = false := by
  refine Expr.isTooLarge_eq_false (isForked_expr module) fun back => ?_
  have cost := cost_expr_le module back
  have limit : Tally.limit = 10485760 := rfl
  omega

-- Only a very long name keeps the pattern from compiling.
theorem compiles_of_length_le {module : Text} (short : module.length ≤ 80000) :
    compiles (some module) = true := by
  rw [compiles, Option.all_some]
  exact parse?_isSome (reads_pattern module).parse? (depth_items_le module) (expr?_items module)
    (isTooLarge_expr short)

end ComponentLoader.ImportStatement
