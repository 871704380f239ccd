import ComponentLoader.Proofs.OrderedMap
import ComponentLoader.Proofs.Text.Replacement
import ComponentLoader.Proofs.Text.Words
import ComponentLoader.Theme.Variables

namespace ComponentLoader
namespace ThemeVariables

def marks : List Text := [['/', '/'], ['/', '*']]

def Unmarked (t : Text) : Prop := ∀ mark ∈ marks, ¬mark <:+: t

structure IsName (t : Text) : Prop where
  some_ : t ≠ []
  trimmed : Text.Ends (fun c => isBlank c = false) t
  unmarked : Unmarked t
  colon : ':' ∉ t
  at_ : '@' ∉ t.head?
  single : '\n' ∉ t

structure IsValue (t : Text) : Prop where
  trimmed : Text.Ends (fun c => isBlank c = false) t
  unmarked : Unmarked t
  semicolon : ';' ∉ t.getLast?
  single : '\n' ∉ t

abbrev Gap := { t : Text // ∀ c ∈ t, isBlank c = true ∧ c ≠ '\n' }

abbrev Remark := { t : Text // (∃ mark ∈ marks, mark <+: t) ∧ '\n' ∉ t }

-- `@name: value;`
structure Declaration where
  indent : Gap
  name : { t : Text // IsName t }
  beforeColon : Gap
  behindColon : Gap
  value : { t : Text // IsValue t }
  beforeEnd : Gap
  behindEnd : Gap
  remark : Option Remark

inductive Line where
  | declaration (d : Declaration)
  | comment (indent : Gap) (remark : Remark)
  | other (t : { t : Text // ':' ∉ t ∧ '\n' ∉ t })

inductive LineEnd where
  | lineFeed
  | returnAndLineFeed

namespace Declaration

def front (d : Declaration) : Text := '@' :: (d.name.val ++ d.beforeColon.val)

def back (d : Declaration) : Text :=
  d.behindColon.val ++ (d.value.val ++ (d.beforeEnd.val ++ [';']))

def body (d : Declaration) : Text := d.front ++ ':' :: d.back

def trailing (d : Declaration) : Text := d.behindEnd.val ++ (d.remark.map Subtype.val).getD []

def text (d : Declaration) : Text := d.indent.val ++ (d.body ++ d.trailing)

end Declaration

namespace Line

def text : Line → Text
  | declaration d => d.text
  | comment indent remark => indent.val ++ remark.val
  | other t => t.val

def declared? : Line → Option (Text × Text)
  | declaration d => some (d.name.val, d.value.val)
  | _ => none

end Line

def LineEnd.rest : LineEnd → Text
  | lineFeed => []
  | returnAndLineFeed => ['\r']

def fileText (lines : List (Line × LineEnd)) (last : Option Line) : Text :=
  lines.flatMap (fun (line, ending) => line.text ++ (ending.rest ++ ['\n'])) ++
    (last.map Line.text).getD []

theorem mark_cases {mark : Text} (known : mark ∈ marks) :
    ∃ x, mark = ['/', x] ∧ x ≠ ':' ∧ x ≠ '@' ∧ x ≠ ';' ∧ isBlank x = false := by
  simp only [marks, List.mem_cons, List.not_mem_nil, or_false] at known
  rcases known with rfl | rfl
  · exact ⟨'/', rfl, by decide⟩
  · exact ⟨'*', rfl, by decide⟩

theorem Gap.blank (gap : Gap) : ∀ c ∈ gap.val, isBlank c = true := fun c member =>
  (gap.property c member).1

theorem Gap.single (gap : Gap) : '\n' ∉ gap.val := fun member => (gap.property _ member).2 rfl

theorem Gap.apart (gap : Gap) {mark : Text} (known : mark ∈ marks) : ∀ c ∈ gap.val, c ∉ mark := by
  intro c member inside
  have blank := gap.blank c member
  obtain ⟨x, rfl, -, -, -, solid⟩ := mark_cases known
  rcases List.mem_cons.1 inside with rfl | last
  · exact absurd blank (by decide)
  · rw [List.mem_singleton.1 last, solid] at blank
    cases blank

theorem Gap.last (gap : Gap) {t : Text} {c : Char} (last : c ∈ (t ++ gap.val).getLast?) :
    c ∈ t.getLast? ∨ isBlank c = true := by
  by_cases none_ : gap.val = []
  · rw [none_, List.append_nil] at last
    exact .inl last
  · rw [List.getLast?_append_of_ne_nil _ none_] at last
    exact .inr (gap.blank c (List.mem_of_mem_getLast? last))

theorem unmarked_nil : Unmarked [] := by
  intro mark known
  obtain ⟨x, rfl, -⟩ := mark_cases known
  simp

theorem unmarked_append_cons {a b : Text} {x : Char} (apart : ∀ mark ∈ marks, x ∉ mark) :
    Unmarked (a ++ x :: b) ↔ Unmarked a ∧ Unmarked b := by
  unfold Unmarked
  rw [← forall₂_and]
  apply forall₂_congr
  intro mark known
  rw [Text.infix_append_cons (apart mark known), not_or]

theorem unmarked_append_gap {t : Text} (gap : Gap) : Unmarked (t ++ gap.val) ↔ Unmarked t := by
  apply forall₂_congr
  intro mark known
  obtain ⟨x, rfl, -⟩ := mark_cases known
  exact not_congr (Text.infix_append_of_disjoint_right (by simp) (gap.apart known))

theorem unmarked_gap_append {t : Text} (gap : Gap) : Unmarked (gap.val ++ t) ↔ Unmarked t := by
  apply forall₂_congr
  intro mark known
  obtain ⟨x, rfl, -⟩ := mark_cases known
  exact not_congr (Text.infix_append_of_disjoint (by simp) (gap.apart known))

namespace Declaration

variable (d : Declaration)

theorem unmarked_body : Unmarked d.body := by
  have apart : ∀ x ∈ ['@', ':', ';'], ∀ mark ∈ marks, x ∉ mark :=
    Text.forall_of_all rfl
  have front : Unmarked d.front := by
    apply (unmarked_append_cons (a := []) (apart '@' (by simp))).2
    exact ⟨unmarked_nil, (unmarked_append_gap _).2 d.name.property.unmarked⟩
  have back : Unmarked d.back := by
    apply (unmarked_gap_append _).2
    rw [← List.append_assoc]
    apply (unmarked_append_cons (apart ';' (by simp))).2
    exact ⟨(unmarked_append_gap _).2 d.value.property.unmarked, unmarked_nil⟩
  exact (unmarked_append_cons (apart ':' (by simp))).2 ⟨front, back⟩

theorem exists_between : ∃ between, d.body = ['@'] ++ between ++ [';'] :=
  ⟨d.name.val ++ d.beforeColon.val ++ ':' ::
    (d.behindColon.val ++ (d.value.val ++ d.beforeEnd.val)), by simp [body, front, back]⟩

theorem getLast?_body : d.body.getLast? = some ';' := by
  obtain ⟨between, spelled⟩ := d.exists_between
  rw [spelled, List.getLast?_concat]

theorem body_ne_nil : d.body ≠ [] := List.cons_ne_nil _ _

theorem body_ends : Text.Ends (fun c => isBlank c = false) d.body := by
  obtain ⟨between, spelled⟩ := d.exists_between
  rw [spelled]
  exact Text.ends_append (by simp) (by simp) (Text.forall_of_all rfl) (Text.forall_of_all rfl)

theorem inert_body {mark : Text} (known : mark ∈ marks) (gap : Gap) (r : Text) :
    Text.Inert (mark <+: ·) r (d.body ++ gap.val) := by
  have absent := (unmarked_append_gap gap).2 d.unmarked_body mark known
  obtain ⟨x, rfl, -⟩ := mark_cases known
  apply Text.inert_of_pair absent
  intro last
  rcases gap.last last with own | blank
  · rw [getLast?_body] at own
    cases own
  · exact absurd blank (by decide)

end Declaration

theorem dropComment_append {mark a t : Text} (inert : Text.Inert (mark <+: ·) t a) (some_ : a ≠ []) :
    dropComment mark (a ++ t) =
      ((Text.cut? mark t).map fun found => Text.trim (a ++ found.1)).getD (a ++ t) := by
  obtain ⟨c, a, rfl⟩ := List.exists_cons_of_ne_nil some_
  rw [dropComment, Text.cut?_append_of_inert inert]
  cases Text.cut? mark t with
  | none => rfl
  | some found => rfl

namespace Declaration

variable (d : Declaration)

theorem dropComment_body {mark : Text} (known : mark ∈ marks) : dropComment mark d.body = d.body := by
  have inert := d.inert_body known ⟨[], by simp⟩ []
  have whole := dropComment_append inert (by simp [d.body_ne_nil])
  have nothing : Text.cut? mark [] = none := by
    obtain ⟨x, rfl, -⟩ := mark_cases known
    rfl
  simpa [nothing] using whole

theorem dropComment_own {mark : Text} (known : mark ∈ marks) (gap : Gap) (r : Text) :
    dropComment mark (d.body ++ (gap.val ++ (mark ++ r))) = d.body := by
  have found := dropComment_append (d.inert_body known gap (mark ++ r)) (by simp [d.body_ne_nil])
  have kept := Text.trim_append (a := []) (by simp) d.body_ends gap.blank
  rw [Text.cut?_self_append, List.append_assoc] at found
  simpa using found.trans (by simpa using kept)

-- In a comment of the other kind a mark cuts off an end at most.
theorem dropComment_other (gap : Gap) (r : Text) :
    ∃ r', dropComment ['/', '/'] (d.body ++ (gap.val ++ (['/', '*'] ++ r))) =
      d.body ++ (gap.val ++ (['/', '*'] ++ r')) := by
  have inert : Text.Inert (['/', '/'] <+: ·) r (d.body ++ gap.val ++ ['/', '*']) := by
    apply Text.inert_append.2
    exact ⟨d.inert_body (by decide) gap _, by simp [Text.Inert]⟩
  have found := dropComment_append inert (by simp)
  cases cut : Text.cut? ['/', '/'] r with
  | none =>
    rw [cut] at found
    exact ⟨r, by simpa using found⟩
  | some parts =>
    have mark : Text.Ends (fun c => isBlank c = false) ['/', '*'] :=
      Text.ends_of_forall (Text.forall_of_all rfl)
    have ends := d.body_ends.append d.body_ne_nil mark (by simp) gap.val
    have kept := Text.trim_append_front (a := []) (by simp) ends (by simp) parts.1
    rw [cut] at found
    exact ⟨Text.trimEnd parts.1, by simpa using found.trans (by simpa using kept)⟩

theorem trimEnd_trailing : Text.trimEnd d.trailing = [] ∨
    ∃ mark ∈ marks, ∃ r, Text.trimEnd d.trailing = d.behindEnd.val ++ (mark ++ r) := by
  unfold trailing
  cases d.remark with
  | none => exact .inl (Text.trimEnd_eq_nil_iff.2 (by simpa using d.behindEnd.blank))
  | some remark =>
    obtain ⟨⟨mark, known, r, spelled⟩, -⟩ := remark.property
    refine .inr ⟨mark, known, Text.trimEnd r, ?_⟩
    obtain ⟨x, rfl, -, -, -, solid⟩ := mark_cases known
    have last : ∀ c ∈ (d.behindEnd.val ++ ['/', x]).getLast?, isBlank c = false := by
      intro c last
      rw [List.getLast?_append_of_ne_nil _ (by simp)] at last
      cases last
      exact solid
    have kept := Text.trimEnd_append last (by simp) r
    rw [Option.map_some, Option.getD_some, ← spelled, ← List.append_assoc, kept, List.append_assoc]

theorem trim_text : Text.trim d.text = d.body ++ Text.trimEnd d.trailing :=
  Text.trim_append_front d.indent.blank d.body_ends d.body_ne_nil _

theorem uncommented_text :
    dropComment ['/', '*'] (dropComment ['/', '/'] (Text.trim d.text)) = d.body := by
  rw [trim_text]
  rcases d.trimEnd_trailing with none_ | ⟨mark, known, r, trailing⟩
  · rw [none_, List.append_nil, dropComment_body _ (by decide), dropComment_body _ (by decide)]
  · rw [trailing]
    simp only [marks, List.mem_cons, List.not_mem_nil, or_false] at known
    rcases known with rfl | rfl
    · rw [dropComment_own _ (by decide), dropComment_body _ (by decide)]
    · obtain ⟨r', kept⟩ := d.dropComment_other d.behindEnd r
      rw [kept, dropComment_own _ (by decide)]

theorem trim_front : Text.trim d.front = '@' :: d.name.val := by
  have name := d.name.property
  have at_ : Text.Ends (fun c => isBlank c = false) ['@'] :=
    Text.ends_of_forall (Text.forall_of_all rfl)
  have ends := at_.append (by simp) name.trimmed name.some_ []
  exact Text.trim_append (a := []) (by simp) ends d.beforeColon.blank

theorem trim_back : ∃ gap : Gap, Text.trim d.back = d.value.val ++ gap.val ++ [';'] := by
  have semicolon : Text.Ends (fun c => isBlank c = false) [';'] :=
    Text.ends_of_forall (Text.forall_of_all rfl)
  by_cases none_ : d.value.val = []
  · have blank : ∀ c ∈ d.behindColon.val ++ d.beforeEnd.val, isBlank c = true :=
      List.forall_mem_append.2 ⟨d.behindColon.blank, d.beforeEnd.blank⟩
    have kept := Text.trim_append (b := []) blank semicolon (by simp)
    refine ⟨⟨[], by simp⟩, ?_⟩
    simpa [back, none_] using kept
  · have ends := d.value.property.trimmed.append none_ semicolon (by simp) d.beforeEnd.val
    have kept := Text.trim_append (b := []) d.behindColon.blank ends (by simp)
    refine ⟨d.beforeEnd, ?_⟩
    simpa [back] using kept

theorem value_back :
    Text.trim (Text.dropEndWhile (· == ';') (Text.trim d.back)) = d.value.val := by
  have value := d.value.property
  obtain ⟨gap, kept⟩ := d.trim_back
  have last : ∀ c ∈ (d.value.val ++ gap.val).getLast?, (c == ';') = false := by
    intro c last
    rw [beq_eq_false_iff_ne]
    rintro rfl
    rcases gap.last last with own | blank
    · exact value.semicolon own
    · exact absurd blank (by decide)
  rw [kept, Text.dropEndWhile_concat last rfl]
  exact Text.trim_append (a := []) (by simp) value.trimmed gap.blank

theorem declaration?_text : declaration? d.text = some (d.name.val, d.value.val) := by
  have name := d.name.property
  have front : isComment (Text.trim d.text) = false := by
    rw [trim_text]
    rfl
  have colon : ':' ∉ d.front := by
    simp only [Declaration.front, List.mem_cons, List.mem_append, not_or]
    refine ⟨by decide, name.colon, ?_⟩
    intro member
    exact absurd (d.beforeColon.blank _ member) (by decide)
  have cut : Text.cut? [':'] d.body = some (d.front, d.back) :=
    Text.cut?_of_inert (Text.inert_of_not_mem (fun s => Text.head?_of_prefix) colon)
  have at_ : ('@' :: d.name.val).dropWhile (· == '@') = d.name.val := by
    obtain ⟨c, rest, spelled⟩ := List.exists_cons_of_ne_nil name.some_
    have other : c ≠ '@' := by
      rintro rfl
      exact name.at_ (by simp [spelled])
    simp [spelled, other]
  have uncommented : dropComment "/*".toList (dropComment "//".toList (Text.trim d.text)) = d.body :=
    d.uncommented_text
  simp only [declaration?, front, uncommented, cut, d.trim_front, at_, d.value_back, name.some_]
  rfl

end Declaration

theorem mem_of_mem_dropComment {mark t : Text} {c : Char} (member : c ∈ dropComment mark t) :
    c ∈ t := by
  unfold dropComment at member
  split at member
  · next x before behind cut =>
    rw [Text.eq_of_cut? cut, List.append_assoc]
    exact List.mem_append_left _ (Text.mem_of_mem_trim member)
  · exact member

theorem declaration?_of_not_mem {t : Text} (absent : ':' ∉ t) : declaration? t = none := by
  have gone : ':' ∉ dropComment "/*".toList (dropComment "//".toList (Text.trim t)) := by
    intro member
    exact absent (Text.mem_of_mem_trim (mem_of_mem_dropComment (mem_of_mem_dropComment member)))
  have cut : Text.cut? [':'] (dropComment "/*".toList (dropComment "//".toList (Text.trim t))) =
      none := by
    rw [Option.eq_none_iff_forall_ne_some]
    rintro ⟨a, b⟩ found
    rw [Text.eq_of_cut? found] at gone
    exact gone (by simp)
  simp only [declaration?, cut]
  split <;> rfl

theorem declaration?_of_remark (indent : Gap) (remark : Remark) :
    declaration? (indent.val ++ remark.val) = none := by
  obtain ⟨⟨mark, known, r, spelled⟩, -⟩ := remark.property
  have solid : ∀ c ∈ mark, isBlank c = false := by
    obtain ⟨x, rfl, -, -, -, solid⟩ := mark_cases known
    simpa [solid] using (by decide : isBlank '/' = false)
  have some_ : mark ≠ [] := by
    obtain ⟨x, rfl, -⟩ := mark_cases known
    simp
  have kept := Text.trim_append_front indent.blank (Text.ends_of_forall solid) some_ r
  have front : isComment (Text.trim (indent.val ++ remark.val)) = true := by
    rw [← spelled, kept]
    simp only [marks, List.mem_cons, List.not_mem_nil, or_false] at known
    rcases known with rfl | rfl <;> rfl
  simp only [declaration?, front]
  rfl

theorem declaration?_append_blank {b : Text} (blank : ∀ c ∈ b, isBlank c = true) (t : Text) :
    declaration? (t ++ b) = declaration? t := by
  unfold declaration?
  rw [Text.trim_append_blank blank]

theorem Declaration.single (d : Declaration) : '\n' ∉ d.text := by
  have remark : '\n' ∉ (d.remark.map Subtype.val).getD [] := by
    cases d.remark with
    | none => simp
    | some remark => exact remark.property.2
  simp only [Declaration.text, Declaration.body, Declaration.front, Declaration.back,
    Declaration.trailing, List.mem_append, List.mem_cons, List.not_mem_nil, not_or]
  exact ⟨d.indent.single, ⟨⟨by decide, d.name.property.single, d.beforeColon.single⟩, by decide,
    d.behindColon.single, d.value.property.single, d.beforeEnd.single, by decide, id⟩,
    d.behindEnd.single, remark⟩

namespace Line

theorem declaration?_text (line : Line) : declaration? line.text = line.declared? := by
  cases line with
  | declaration d => exact d.declaration?_text
  | comment indent remark => exact declaration?_of_remark indent remark
  | other t => exact declaration?_of_not_mem t.property.1

theorem single (line : Line) : '\n' ∉ line.text := by
  cases line with
  | declaration d => exact d.single
  | comment indent remark => simpa [text] using ⟨indent.single, remark.property.2⟩
  | other t => exact t.property.2

end Line

-- A carriage return in front of a line feed makes no difference, nor does the lack of the last end.
theorem filterMap_lines (content : Text) :
    (Text.lines content).filterMap declaration? =
      (Text.splitOn '\n' content).filterMap declaration? := by
  have kept : ∀ l : Text, declaration? (if Text.endsWith ['\r'] l then l.dropLast else l) =
      declaration? l := by
    intro l
    split
    · next ending =>
      obtain ⟨r, spelled⟩ := Text.dropPrefix?_isSome.1 ending
      have whole : l = r.reverse ++ ['\r'] := by
        rw [← List.reverse_reverse l, ← spelled]
        simp
      rw [whole, List.dropLast_concat, declaration?_append_blank (Text.forall_of_all rfl)]
    · rfl
  unfold Text.lines
  cases back : (Text.splitOn '\n' content).reverse with
  | nil => exact absurd (List.reverse_eq_nil_iff.1 back) (Text.splitOn_ne_nil _ _)
  | cons last ended =>
    have parts : Text.splitOn '\n' content = ended.reverse ++ [last] := by
      rw [← List.reverse_reverse (Text.splitOn '\n' content), back, List.reverse_cons]
    have same : (ended.reverse.map fun l => if Text.endsWith ['\r'] l then l.dropLast else l).filterMap
        declaration? = ended.reverse.filterMap declaration? := by
      rw [List.filterMap_map]
      exact congrArg (List.filterMap · _) (funext kept)
    rw [parts, List.filterMap_append, ← same]
    dsimp only
    split
    · next empty =>
      rw [List.isEmpty_iff.1 empty]
      exact (List.append_nil _).symm
    · rw [List.filterMap_append]

theorem splitOn_fileText (lines : List (Line × LineEnd)) (last : Option Line) :
    Text.splitOn '\n' (fileText lines last) =
      lines.map (fun line => line.1.text ++ line.2.rest) ++ [(last.map Line.text).getD []] := by
  unfold fileText
  induction lines with
  | nil =>
    have single : '\n' ∉ (last.map Line.text).getD [] := by
      cases last with
      | none => simp
      | some line => exact line.single
    exact Text.splitOn_of_not_mem single
  | cons line lines ih =>
    have single : '\n' ∉ line.1.text ++ line.2.rest := by
      rw [List.mem_append, not_or]
      refine ⟨line.1.single, ?_⟩
      cases line.2 <;> decide
    have spelled (r : Text) : line.1.text ++ (line.2.rest ++ ['\n']) ++ r =
        line.1.text ++ line.2.rest ++ '\n' :: r := by
      simp
    rw [List.flatMap_cons, List.append_assoc, spelled, Text.splitOn_append_cons,
      Text.splitOn_of_not_mem single, ih]
    rfl

-- A theme file is read as what its lines declare, each name at its first place and with its last
-- value.
theorem entries_parse_fileText (lines : List (Line × LineEnd)) (last : Option Line) :
    (parse (fileText lines last)).entries =
      OrderedMap.settled ((lines.map Prod.fst ++ last.toList).filterMap Line.declared?) := by
  have ended (line : Line × LineEnd) :
      declaration? (line.1.text ++ line.2.rest) = line.1.declared? := by
    have blank : ∀ c ∈ line.2.rest, isBlank c = true := by
      cases line.2 with
      | lineFeed => exact Text.forall_of_all rfl
      | returnAndLineFeed => exact Text.forall_of_all rfl
    rw [declaration?_append_blank blank, line.1.declaration?_text]
  have unended : [(last.map Line.text).getD []].filterMap declaration? =
      last.toList.filterMap Line.declared? := by
    cases last with
    | none => rfl
    | some line =>
      change [line.text].filterMap declaration? = [line].filterMap Line.declared?
      rw [List.filterMap_cons, List.filterMap_cons, line.declaration?_text]
      rfl
  rw [parse, OrderedMap.entries_ofList, filterMap_lines, splitOn_fileText, List.filterMap_append,
    List.filterMap_append, List.filterMap_map, List.filterMap_map, unended]
  congr 2
  exact congrArg (List.filterMap · lines) (funext ended)

theorem solid {t : Text} (all : (t.all fun c => decide (isBlank c = false)) = true) :
    Text.Ends (fun c => isBlank c = false) t := Text.ends_of_forall (Text.forall_of_all all)

theorem entries_parse_fileText_five_lines :
    let none_ : Gap := ⟨[], Text.forall_of_all rfl⟩
    let space : Gap := ⟨[' '], Text.forall_of_all (by decide)⟩
    let a : { t : Text // IsName t } := ⟨['a'], by decide, solid (by decide),
      by unfold Unmarked; decide, by decide, by decide, by decide⟩
    let b : { t : Text // IsName t } := ⟨['b'], by decide, solid (by decide),
      by unfold Unmarked; decide, by decide, by decide, by decide⟩
    let hover : { t : Text // IsValue t } := ⟨"a:hover".toList, solid (by decide),
      by unfold Unmarked; decide, by decide, by decide⟩
    let list : { t : Text // IsValue t } := ⟨"1;2".toList, solid (by decide),
      by unfold Unmarked; decide, by decide, by decide⟩
    let nothing : { t : Text // IsValue t } := ⟨[], solid rfl,
      by unfold Unmarked; decide, by decide, by decide⟩
    let remark : Remark := ⟨"/* x: // y */".toList, by decide, by decide⟩
    let lines : List (Line × LineEnd) := [
      (.declaration ⟨none_, b, space, space, hover, none_, space, some remark⟩, .returnAndLineFeed),
      (.other ⟨"none".toList, by decide, by decide⟩, .lineFeed),
      (.comment space remark, .lineFeed),
      (.declaration ⟨none_, a, none_, none_, list, none_, none_, none⟩, .lineFeed)]
    let last : Line := .declaration ⟨space, b, none_, none_, nothing, none_, none_, none⟩
    fileText lines (some last) = Text.join ['\n'] ["@b : a:hover; /* x: // y */\r".toList,
        "none".toList, " /* x: // y */".toList, "@a:1;2;".toList, " @b:;".toList] ∧
      (parse (fileText lines (some last))).entries =
        [("b".toList, []), ("a".toList, "1;2".toList)] := by
  intro none_ space a b hover list nothing remark lines last
  exact ⟨by decide, (entries_parse_fileText lines (some last)).trans (by decide)⟩

end ThemeVariables
end ComponentLoader
