import ComponentLoader.Markup.Tag
import ComponentLoader.Proofs.Regex.Meaning

namespace ComponentLoader.Tag

open Regex

def attributeNodes : List Regex.Node :=
  [.oneOf (.shorthand false .blank), .repeated 0 none false (.oneOf (anyOf true ['>']))]

def pairedNodes (name : Text) : List Regex.Node :=
  literals ['>'] ++ Node.group 1 (.repeated 0 none false .dot) ::
    literals ('<' :: '/' :: name ++ ['>'])

def items (name : Text) : List Regex.Node :=
  Node.flags [(.dotAll, true)] :: (literals ('<' :: name) ++
    [Node.repeated 0 (some 1) true (.scope [] (.sequence attributeNodes)),
      Node.scope [] (.alternatives [.sequence (literals ['/', '>']), .sequence (pairedNodes name)])])

theorem reads_pattern (name : Text) : Reads (pattern name) 0 (items name) 1 := by
  have opening := reads_escapeText ('<' :: name) 0
  have closing := reads_escapeText ('<' :: '/' :: name ++ ['>']) 1
  have blanks := ((reads_blank 0).cons ((reads_of_mem (s := ['^', '>', ']'])
    (c := anyOf true ['>']) (by simp [classes]) 0).lazyStar rfl) (by decide)).encloses.optional
  have inner := ((reads_dot 1).lazyStar rfl).encloses.group (m := 0) (by simp)
  have usual : '<' ∉ specials ∧ '/' ∉ specials ∧ '>' ∉ specials := by decide
  have front : "(?s)<".toList = ['(', '?', 's', ')', '<'] := by decide
  have middle : "(?:\\s[^>]*?)?(?:/>|>(.*?)</".toList =
      ['(', '?', ':', '\\', 's', '[', '^', '>', ']', '*', '?', ')', '?', '(', '?', ':', '/', '>',
       '|', '>', '(', '.', '*', '?', ')', '<', '/'] := by
    decide
  have back : ">)".toList = ['>', ')'] := by decide
  have opened : escapeText ('<' :: name) = '<' :: escapeText name := by
    simp [escapeText, escapeChar, usual]
  have closed : escapeText ('<' :: '/' :: name ++ ['>']) =
      '<' :: '/' :: escapeText name ++ ['>'] := by
    simp [escapeText, escapeChar, usual]
  rw [opened] at opening
  rw [closed] at closing
  have paired := (reads_word (s := ['>']) (Text.forall_of_all (by decide)) 0).cons
    (inner.cons closing (by decide)) (by decide)
  have single := reads_word (s := ['/', '>']) (Text.forall_of_all (by decide)) 0
  have either := (single.encloses_or paired).scope
  have r := (reads_dotAll 0).cons (opening.cons (blanks.cons either (by decide)) (by decide))
    (by decide)
  convert r using 1
  · refine (congrArg₂ (· ++ ·) (congrArg₂ (· ++ ·) (congrArg₂ (· ++ ·) (congrArg₂ (· ++ ·)
      front rfl) middle) rfl) back).trans ?_
    simp only [List.append_eq, List.cons_append, List.nil_append, List.append_assoc]
  · rfl

def attributesExpr : Expr := .concat [.set blanks, .repeated 0 none false (.set area)]

def pairedExpr (name : Text) : Expr :=
  .concat [.text ['>'], .group 1 (.repeated 0 none false (.set .all)),
    .text ('<' :: '/' :: name ++ ['>'])]

def expr (name : Text) : Expr :=
  .concat [.text ('<' :: name), .repeated 0 (some 1) true attributesExpr,
    .alternation [.text ['/', '>'], pairedExpr name]]

theorem expr?_attributes (dotAll : Bool) :
    (Node.sequence attributeNodes).expr? { dotAll } = some (attributesExpr, { dotAll }) := by
  have blank := (denotes_of_mem (c := .shorthand false .blank) (s := blanks)
    (by simp [sets])).expr? dotAll
  have inside := (denotes_of_mem (c := anyOf true ['>']) (s := area) (by simp [sets])).expr? dotAll
  exact (Means.cons blank (.single (expr?_repeated inside rfl rfl false))).sequence

theorem expr?_paired (name : Text) : (Node.sequence (pairedNodes name)).expr? { dotAll := true } =
    some (pairedExpr name, { dotAll := true }) := by
  have dot : Node.dot.expr? { dotAll := true } = some (.set .all, { dotAll := true }) := rfl
  have inner := expr?_group (expr?_repeated dot rfl rfl false) 1
  have each := (literals_means ['>'] rfl).append
    (.cons inner (literals_means ('<' :: '/' :: name ++ ['>']) rfl))
  have last := joinTexts_chars (s := '<' :: '/' :: name ++ ['>']) (List.cons_ne_nil _ _) (r := [])
    (by simp [Expr.joinTexts])
  rw [List.append_nil, Expr.joinTexts] at last
  rw [pairedNodes, each.sequence, Expr.ofItems]
  simp only [List.flatMap_append, List.flatMap_cons, flatMap_chars]
  rw [Expr.parts, List.singleton_append, joinTexts_chars (List.cons_ne_nil _ _)
    (by simp [Expr.joinTexts]), Expr.joinTexts, last]
  · rfl
  all_goals simp

theorem expr?_items (name : Text) :
    (Node.ofSequence (items name)).expr? {} = some (expr name, { dotAll := true }) := by
  have flags : (Node.flags [(.dotAll, true)]).expr? {} = some (.empty, { dotAll := true }) := rfl
  have opening : (Node.repeated 0 (some 1) true (.scope [] (.sequence attributeNodes))).expr?
      { dotAll := true } = some (.repeated 0 (some 1) true attributesExpr, { dotAll := true }) := by
    rw [Node.expr?, expr?_scope (expr?_attributes true)]
    rfl
  have single : (Node.sequence (literals ['/', '>'])).expr? { dotAll := true } =
      some (.text ['/', '>'], { dotAll := true }) := rfl
  have either := expr?_scope
    (Means.cons single (.single (expr?_paired name))).alternatives
  have each := Means.cons flags ((literals_means ('<' :: name) rfl).append
    (.cons opening (.single either)))
  have sequence : Node.ofSequence (items name) = .sequence (items name) := rfl
  have alternatives : Expr.ofAlternatives [.text ['/', '>'], pairedExpr name] =
      .alternation [.text ['/', '>'], pairedExpr name] := rfl
  rw [alternatives] at each
  have joined : Expr.joinTexts (chars ('<' :: name) ++
      [.repeated 0 (some 1) true attributesExpr, .alternation [.text ['/', '>'], pairedExpr name]]) =
      [.text ('<' :: name), .repeated 0 (some 1) true attributesExpr,
        .alternation [.text ['/', '>'], pairedExpr name]] := by
    rw [joinTexts_chars (List.cons_ne_nil _ _) (by simp [Expr.joinTexts])]
    rfl
  rw [sequence, items, each.sequence, Expr.ofItems]
  simp only [List.flatMap_append, List.flatMap_cons, List.flatMap_nil, flatMap_chars, Expr.parts,
    List.cons_append, List.nil_append, joined]
  rfl

theorem depth_items_le (name : Text) : (Node.ofSequence (items name)).depth ≤ deepest := by
  have sequence : Node.ofSequence (items name) = .sequence (items name) := rfl
  rw [sequence]
  simp only [Node.depth, items, attributeNodes, pairedNodes, depths_append, depths_literals,
    Node.depths, anyOf, Class.depth, Class.ofItems, List.map_cons, List.map_nil, deepest]
  omega

theorem isForked_expr (name : Text) : (expr name).isForked = true := by
  simp [expr, attributesExpr, pairedExpr, Expr.isForked, Expr.allForked]

theorem cost_expr_le (name : Text) (back : Bool) :
    (expr name).cost back ≤ 40000 + 256 * name.length := by
  have blank := (denotes_of_mem (c := .shorthand false .blank) (s := blanks) (by simp [sets])).small
  have inside := (denotes_of_mem (c := anyOf true ['>']) (s := area) (by simp [sets])).small
  have any : Expr.setBytes .all ≤ 1400 := by decide +kernel
  have front := length_bytes_le ('<' :: name)
  have back_ := length_bytes_le ('<' :: '/' :: name ++ ['>'])
  have single := length_bytes_le ['/', '>']
  have bracket := length_bytes_le ['>']
  have words : Expr.words? [.text ['/', '>'], pairedExpr name] = none := rfl
  simp only [List.length_append, List.length_cons, List.length_nil] at front back_ single bracket
  simp only [expr, attributesExpr, Expr.cost, words, Expr.costs, List.sum_cons, List.sum_nil,
    List.length_cons, List.length_nil, Option.getD_none, Option.getD_some, Nat.zero_mul,
    Nat.add_zero, Nat.zero_add, Nat.one_mul]
  simp only [pairedExpr, Expr.cost, Expr.costs, List.sum_cons, List.sum_nil,
    List.length_cons, List.length_nil, Option.getD_none, Nat.zero_mul, Nat.add_zero, Nat.zero_add]
  generalize Expr.setBytes blanks = a, Expr.setBytes area = b, Expr.setBytes .all = c at *
  generalize (List.flatMap _ ('<' :: name)).length = d,
    (List.flatMap _ ('<' :: '/' :: name ++ ['>'])).length = e,
    (List.flatMap _ ['/', '>']).length = f, (List.flatMap _ ['>']).length = g at *
  omega

theorem isTooLarge_expr {name : Text} (short : name.length ≤ 40000) :
    (expr name).isTooLarge = false := by
  refine Expr.isTooLarge_eq_false (isForked_expr name) fun back => ?_
  have cost := cost_expr_le name back
  have limit : Tally.limit = 10485760 := rfl
  omega

-- The name stands twice in the pattern.
theorem compiles_of_length_le {name : Text} (short : name.length ≤ 40000) :
    compiles name = true :=
  parse?_isSome (reads_pattern name).parse? (depth_items_le name) (expr?_items name)
    (isTooLarge_expr short)

end ComponentLoader.Tag
