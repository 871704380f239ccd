import ComponentLoader.Template.Process
import ComponentLoader.Proofs.Markup.Compiles
import ComponentLoader.Proofs.Markup.Tag

namespace ComponentLoader

-- A template as it is written: texts, feature blocks around templates and self-closing blocks.
inductive FeatureMarkup where
  | nil
  | text (t : Text) (rest : FeatureMarkup)
  | block (on : Bool) (feature : Text) (content rest : FeatureMarkup)
  | selfClosing (on : Bool) (feature : Text) (rest : FeatureMarkup)

namespace FeatureFlags

def tagName : Bool → Text
  | true => "on".toList
  | false => "off".toList

-- An `on` block stays when its feature is on, an `off` block when it is off or unset.
def keeps (flags : FeatureFlags) : Bool → Text → Bool
  | true, feature => flags.get? feature == some true
  | false, feature => flags.get? feature != some true

def pass (flags : FeatureFlags) (on : Bool) (source : Text) : Text :=
  Tag.replace source (tagName on) fun _ tag =>
    if flags.isOn tag = on then tag.inner.getD [] else []

theorem compiles_tagName (on : Bool) : Tag.compiles (tagName on) = true :=
  Tag.compiles_of_length_le (by cases on <;> decide)

theorem strip_eq (flags : FeatureFlags) (source : Text) :
    flags.strip source = flags.pass false (flags.pass true source) := rfl

theorem strip_of_not_mayOccur (flags : FeatureFlags) {source : Text}
    (absent : ¬mayOccur source = true) : flags.strip source = source := by
  rw [mayOccur, Bool.or_eq_true, not_or] at absent
  have pass_eq : ∀ on, ¬Tag.mayOccur (tagName on) source = true → flags.pass on source = source := by
    intro on nothing
    rw [pass, Tag.replace_eq, if_pos (compiles_tagName on)]
    exact Scanner.replace_eq_self (Tag.inert_of_not_mayOccur nothing)
  rw [strip_eq, pass_eq true absent.1, pass_eq false absent.2]

theorem isOn_eq_iff {flags : FeatureFlags} {feature : Text} {inner : Option Text} {on : Bool} :
    flags.isOn ⟨.ofList [("feature".toList, feature)], inner⟩ = on ↔
      flags.keeps on feature = true := by
  have found : flags.isOn ⟨.ofList [("feature".toList, feature)], inner⟩ =
      (flags.get? feature).getD false := rfl
  rw [found]
  cases value : flags.get? feature with
  | none => cases on <;> simp [keeps, value]
  | some v => cases on <;> cases v <;> simp [keeps, value]

end FeatureFlags

namespace FeatureMarkup
open FeatureFlags

def area (feature : Text) : Text := ' ' :: Attributes.written "feature".toList feature

def opening (on : Bool) (feature : Text) : Text := '<' :: tagName on ++ area feature

def render : FeatureMarkup → Text
  | nil => []
  | text t rest => t ++ rest.render
  | block on feature content rest =>
    opening on feature ++ '>' :: content.render ++ Tag.closing (tagName on) ++ rest.render
  | selfClosing on feature rest => opening on feature ++ "/>".toList ++ rest.render

def eval (flags : FeatureFlags) : FeatureMarkup → Text
  | nil => []
  | text t rest => t ++ rest.eval flags
  | block on feature content rest =>
    (if flags.keeps on feature then content.eval flags else []) ++ rest.eval flags
  | selfClosing _ _ rest => rest.eval flags

def Lacks (on : Bool) : FeatureMarkup → Prop
  | nil => True
  | text _ rest => rest.Lacks on
  | block kind _ content rest => kind ≠ on ∧ content.Lacks on ∧ rest.Lacks on
  | selfClosing kind _ rest => kind ≠ on ∧ rest.Lacks on

def Plain (t : Text) : Prop :=
  ∀ on, Tag.Unopened (tagName on) t ∧ Tag.Unclosed (tagName on) t

def IsFeature (feature : Text) : Prop := '"' ∉ feature ∧ '<' ∉ feature ∧ '>' ∉ feature

-- Blocks of one kind do not lie inside one another.
def Proper : FeatureMarkup → Prop
  | nil => True
  | text t rest => Plain t ∧ rest.Proper
  | block on feature content rest =>
    IsFeature feature ∧ content.Lacks on ∧ content.Proper ∧ rest.Proper
  | selfClosing _ feature rest => IsFeature feature ∧ rest.Proper

theorem plain_of_not_mem {t : Text} (absent : '<' ∉ t) : Plain t := by
  have apart : ∀ p q : Text, p ≠ [] → p <+: '<' :: q → ¬p <:+ t := by
    intro p q some_ front part
    obtain ⟨c, p, rfl⟩ := List.exists_cons_of_ne_nil some_
    rw [List.cons_prefix_cons] at front
    exact absent (part.subset (by simp [front.1]))
  intro on
  refine ⟨⟨fun c _ found => absent (found.subset (by simp)), fun p => apart p _⟩,
    ⟨fun found => absent (found.subset (by simp [Tag.closing])), fun p => apart p _⟩⟩

def append : FeatureMarkup → FeatureMarkup → FeatureMarkup
  | nil, more => more
  | text t rest, more => text t (rest.append more)
  | block on feature content rest, more => block on feature content (rest.append more)
  | selfClosing on feature rest, more => selfClosing on feature (rest.append more)

def resolve (flags : FeatureFlags) (on : Bool) : FeatureMarkup → FeatureMarkup
  | nil => nil
  | text t rest => text t (rest.resolve flags on)
  | block kind feature content rest =>
    if kind = on then
      if flags.keeps on feature then content.append (rest.resolve flags on)
      else rest.resolve flags on
    else block kind feature (content.resolve flags on) (rest.resolve flags on)
  | selfClosing kind feature rest =>
    if kind = on then rest.resolve flags on
    else selfClosing kind feature (rest.resolve flags on)

theorem render_append (a b : FeatureMarkup) : (a.append b).render = a.render ++ b.render := by
  induction a with
  | nil => rfl
  | text t rest ih => simp only [append, render, ih, List.append_assoc]
  | block on feature content rest _ ih => simp only [append, render, ih, List.append_assoc]
  | selfClosing on feature rest ih => simp only [append, render, ih, List.append_assoc]

theorem eval_append (flags : FeatureFlags) (a b : FeatureMarkup) :
    (a.append b).eval flags = a.eval flags ++ b.eval flags := by
  induction a with
  | nil => rfl
  | text t rest ih => rw [append, eval, ih, eval, List.append_assoc]
  | block on feature content rest _ ih => rw [append, eval, ih, eval, List.append_assoc]
  | selfClosing on feature rest ih => rw [append, eval, ih, eval]

theorem lacks_append {on : Bool} {a b : FeatureMarkup} (left : a.Lacks on) (right : b.Lacks on) :
    (a.append b).Lacks on := by
  induction a with
  | nil => exact right
  | text t rest ih => exact ih left
  | block kind feature content rest _ ih => exact ⟨left.1, left.2.1, ih left.2.2⟩
  | selfClosing kind feature rest ih => exact ⟨left.1, ih left.2⟩

theorem proper_append {a b : FeatureMarkup} (left : a.Proper) (right : b.Proper) :
    (a.append b).Proper := by
  induction a with
  | nil => exact right
  | text t rest ih => exact ⟨left.1, ih left.2⟩
  | block on feature content rest _ ih =>
    exact ⟨left.1, left.2.1, left.2.2.1, ih left.2.2.2⟩
  | selfClosing on feature rest ih => exact ⟨left.1, ih left.2⟩

theorem eval_resolve (flags : FeatureFlags) (on : Bool) (m : FeatureMarkup) :
    (m.resolve flags on).eval flags = m.eval flags := by
  induction m with
  | nil => rfl
  | text t rest ih => rw [resolve, eval, ih, eval]
  | block kind feature content rest inner ih =>
    rw [resolve]
    by_cases same : kind = on
    · subst same
      rw [if_pos rfl, eval]
      by_cases kept : flags.keeps kind feature = true
      · rw [if_pos kept, if_pos kept, eval_append, ih]
      · rw [if_neg kept, if_neg kept, ih, List.nil_append]
    · rw [if_neg same, eval, eval, inner, ih]
  | selfClosing kind feature rest ih =>
    rw [resolve, eval]
    split
    · exact ih
    · rw [eval, ih]

theorem lacks_resolve_self (flags : FeatureFlags) {on : Bool} {m : FeatureMarkup}
    (proper : m.Proper) : (m.resolve flags on).Lacks on := by
  induction m with
  | nil => trivial
  | text t rest ih => exact ih proper.2
  | block kind feature content rest inner ih =>
    obtain ⟨-, apart, within, later⟩ := proper
    rw [resolve]
    by_cases same : kind = on
    · subst same
      rw [if_pos rfl]
      split
      · exact lacks_append apart (ih later)
      · exact ih later
    · rw [if_neg same]
      exact ⟨same, inner within, ih later⟩
  | selfClosing kind feature rest ih =>
    rw [resolve]
    by_cases same : kind = on
    · rw [if_pos same]
      exact ih proper.2
    · rw [if_neg same]
      exact ⟨same, ih proper.2⟩

theorem lacks_resolve (flags : FeatureFlags) (on : Bool) {other : Bool} {m : FeatureMarkup}
    (lacks : m.Lacks other) : (m.resolve flags on).Lacks other := by
  induction m with
  | nil => trivial
  | text t rest ih => exact ih lacks
  | block kind feature content rest inner ih =>
    obtain ⟨differs, within, later⟩ := lacks
    rw [resolve]
    split
    · split
      · exact lacks_append within (ih later)
      · exact ih later
    · exact ⟨differs, inner within, ih later⟩
  | selfClosing kind feature rest ih =>
    rw [resolve]
    split
    · exact ih lacks.2
    · exact ⟨lacks.1, ih lacks.2⟩

theorem proper_resolve (flags : FeatureFlags) (on : Bool) {m : FeatureMarkup} (proper : m.Proper) :
    (m.resolve flags on).Proper := by
  induction m with
  | nil => trivial
  | text t rest ih => exact ⟨proper.1, ih proper.2⟩
  | block kind feature content rest inner ih =>
    obtain ⟨named, apart, within, later⟩ := proper
    rw [resolve]
    split
    · split
      · exact proper_append within (ih later)
      · exact ih later
    · exact ⟨named, lacks_resolve flags on apart, inner within, ih later⟩
  | selfClosing kind feature rest ih =>
    rw [resolve]
    split
    · exact ih proper.2
    · exact ⟨proper.1, ih proper.2⟩

theorem render_eq_eval (flags : FeatureFlags) {m : FeatureMarkup} (lacks : ∀ on, m.Lacks on) :
    m.render = m.eval flags := by
  induction m with
  | nil => rfl
  | text t rest ih => rw [render, eval, ih lacks]
  | block kind feature content rest _ _ => exact absurd rfl (lacks kind).1
  | selfClosing kind feature rest _ => exact absurd rfl (lacks kind).1

-- A tag of the other kind is passed over.
theorem inert_opening {begins : Text → Prop} {on : Bool} {feature mark r : Text}
    (front : ∀ s, begins s → s.head? = some '<')
    (other : ∀ t, ¬begins ('<' :: tagName on ++ t)) (named : IsFeature feature)
    (single : '<' ∉ mark) :
    Text.Inert begins r (opening on feature ++ mark) := by
  have absent : '<' ∉ tagName on ++ (area feature ++ mark) := by
    have name : '<' ∉ tagName on := by cases on <;> decide
    simp only [area, Attributes.written, List.mem_append, List.mem_cons, not_or]
    exact ⟨name, by simp [named.2.1], single⟩
  have spelled : opening on feature ++ mark = '<' :: (tagName on ++ (area feature ++ mark)) := by
    simp [opening]
  rw [spelled]
  refine ⟨?_, Text.inert_of_not_mem front absent⟩
  rw [List.append_assoc, ← List.cons_append]
  exact other _

theorem inert_closing {begins : Text → Prop} {on : Bool} {r : Text}
    (front : ∀ s, begins s → s.head? = some '<')
    (other : ∀ t, ¬begins (Tag.closing (tagName on) ++ t)) :
    Text.Inert begins r (Tag.closing (tagName on)) := by
  have absent : '<' ∉ '/' :: tagName on ++ ['>'] := by cases on <;> decide
  exact ⟨other r, Text.inert_of_not_mem front absent⟩

theorem head?_of_closing {name s : Text} (begins : Tag.closing name <+: s) :
    s.head? = some '<' := by
  obtain ⟨t, rfl⟩ := begins
  rfl

theorem inert_render {on : Bool} {m : FeatureMarkup} (proper : m.Proper) (lacks : m.Lacks on)
    (r : Text) : Text.Inert (Tag.closing (tagName on) <+: ·) r m.render := by
  have opens : ∀ kind t, ¬Tag.closing (tagName on) <+: '<' :: tagName kind ++ t := by
    intro kind t front
    cases kind <;> simp [Tag.closing, tagName] at front
  have closes : ∀ kind, kind ≠ on → ∀ t,
      ¬Tag.closing (tagName on) <+: Tag.closing (tagName kind) ++ t := by
    intro kind differs t front
    cases kind <;> cases on <;> simp [Tag.closing, tagName] at differs front
  induction m generalizing r with
  | nil => trivial
  | text t rest ih =>
    exact Text.inert_append.2 ⟨Tag.inert_of_unclosed (proper.1 on).2, ih proper.2 lacks r⟩
  | block kind feature content rest inner ih =>
    obtain ⟨named, -, within, later⟩ := proper
    obtain ⟨differs, lacksWithin, lacksLater⟩ := lacks
    have spelled : (block kind feature content rest).render = (opening kind feature ++ ['>']) ++
        (content.render ++ (Tag.closing (tagName kind) ++ rest.render)) := by
      simp [render]
    rw [spelled]
    refine Text.inert_append.2 ⟨?_, Text.inert_append.2 ⟨?_, Text.inert_append.2 ⟨?_, ?_⟩⟩⟩
    · exact inert_opening (fun s => head?_of_closing) (opens kind) named (by decide)
    · exact inner within lacksWithin _
    · exact inert_closing (fun s => head?_of_closing) (closes kind differs)
    · exact ih later lacksLater r
  | selfClosing kind feature rest ih =>
    rw [render, Text.inert_append]
    exact ⟨inert_opening (fun s => head?_of_closing) (opens kind) proper.1 (by decide),
      ih proper.2 lacks.2 r⟩

theorem isOpeningArea_area (feature : Text) : Tag.isOpeningArea (area feature) = true := by
  have blank : isBlank ' ' = true := by decide
  simp [Tag.isOpeningArea, area, blank]

theorem getLast?_area (feature : Text) : (area feature).getLast? ≠ some '/' := by
  simp [area, Attributes.written, List.getLast?_cons, List.getLast?_append]

theorem not_mem_area {feature : Text} (named : IsFeature feature) : '>' ∉ area feature := by
  simp [area, Attributes.written, named.2.2]

theorem parse_opening {on : Bool} {feature : Text} (rest : Text) (named : IsFeature feature) :
    Attributes.parse (opening on feature ++ '>' :: rest) =
      .ofList [("feature".toList, feature)] := by
  have front : ∀ c ∈ '<' :: tagName on, isBlank c = false := by
    cases on <;> exact Text.forall_of_all (by decide)
  have inside : '>' ∉ '<' :: tagName on ++ area feature := by
    have start : '>' ∉ '<' :: tagName on := by cases on <;> decide
    rw [List.mem_append, not_or]
    exact ⟨start, not_mem_area named⟩
  have plain : ∀ c ∈ "feature".toList, isAttributeNameChar c = true :=
    Text.forall_of_all (by decide)
  exact Attributes.parse_single front (by simp) plain named.1 (by decide) inside

theorem replace_render (flags : FeatureFlags) (on : Bool) {m : FeatureMarkup} (proper : m.Proper)
    (r : Text) :
    (Tag.scanner (tagName on)).replace
        (fun _ tag => if flags.isOn tag = on then tag.inner.getD [] else []) (m.render ++ r) =
      (m.resolve flags on).render ++ (Tag.scanner (tagName on)).replace
        (fun _ tag => if flags.isOn tag = on then tag.inner.getD [] else []) r := by
  have opens : ∀ kind, kind ≠ on → ∀ t,
      ¬(Tag.scanner (tagName on)).Begins ('<' :: tagName kind ++ t) := by
    intro kind differs t begins
    obtain ⟨c, -, front⟩ := Tag.prefix_of_begins begins
    cases kind <;> cases on <;> simp [tagName] at differs front
  have closes : ∀ kind t,
      ¬(Tag.scanner (tagName on)).Begins (Tag.closing (tagName kind) ++ t) := by
    intro kind t begins
    obtain ⟨c, -, front⟩ := Tag.prefix_of_begins begins
    cases on <;> simp [Tag.closing, tagName] at front
  have bracket : ∀ s, (Tag.scanner (tagName on)).Begins s → s.head? = some '<' :=
    fun _ => Tag.head?_of_begins
  induction m generalizing r with
  | nil => rfl
  | text t rest ih =>
    rw [render, List.append_assoc,
      Scanner.replace_append_of_inert (Tag.inert_of_unopened (proper.1 on).1), ih proper.2,
      resolve, render, List.append_assoc]
  | block kind feature content rest inner ih =>
    obtain ⟨named, apart, within, later⟩ := proper
    rw [resolve]
    by_cases same : kind = on
    · subst same
      have closed := inert_render within apart (Tag.closing (tagName kind) ++ (rest.render ++ r))
      have found := Tag.scanner_paired (rest.render ++ r) (isOpeningArea_area feature)
        (not_mem_area named) (getLast?_area feature) closed
      have spelled : (block kind feature content rest).render ++ r =
          ('<' :: tagName kind ++ area feature ++ '>' :: content.render ++
            Tag.closing (tagName kind)) ++ (rest.render ++ r) := by
        simp [render, opening]
      have parsed : Attributes.parse ('<' :: tagName kind ++ area feature ++
          '>' :: content.render ++ Tag.closing (tagName kind) ++ (rest.render ++ r)) =
            .ofList [("feature".toList, feature)] := by
        have found := @parse_opening kind feature
          (content.render ++ Tag.closing (tagName kind) ++ (rest.render ++ r)) named
        simpa [opening] using found
      rw [parsed] at found
      rw [if_pos rfl, spelled, Scanner.replace_of_some (by simp) found, ih later]
      by_cases kept : flags.keeps kind feature = true
      · rw [if_pos (isOn_eq_iff.2 kept), if_pos kept, render_append, List.append_assoc]
        rfl
      · rw [if_neg (fun on => kept (isOn_eq_iff.1 on)), if_neg kept, List.nil_append]
    · have spelled : (block kind feature content rest).render ++ r =
          (opening kind feature ++ ['>']) ++
            (content.render ++ (Tag.closing (tagName kind) ++ (rest.render ++ r))) := by
        simp [render]
      rw [if_neg same, spelled,
        Scanner.replace_append_of_inert (inert_opening bracket (opens kind same) named (by decide)),
        inner within, Scanner.replace_append_of_inert (inert_closing bracket (closes kind)),
        ih later, render]
      simp only [List.append_assoc, List.cons_append, List.nil_append]
  | selfClosing kind feature rest ih =>
    rw [resolve]
    by_cases same : kind = on
    · subst same
      have opening_ : Tag.isOpeningArea (area feature ++ ['/']) = true := by
        simp [Tag.isOpeningArea, area, (by decide : isBlank ' ' = true)]
      have found := @Tag.scanner_selfClosing (tagName kind) _ (rest.render ++ r) opening_
        (not_mem_area proper.1)
      have spelled : (selfClosing kind feature rest).render ++ r =
          ('<' :: tagName kind ++ area feature ++ "/>".toList) ++ (rest.render ++ r) := by
        simp [render, opening]
      rw [if_pos rfl, spelled, Scanner.replace_of_some (by simp) found, ih proper.2]
      simp
    · have spelled : (selfClosing kind feature rest).render ++ r =
          (opening kind feature ++ "/>".toList) ++ (rest.render ++ r) := by
        simp [render]
      rw [if_neg same, spelled, Scanner.replace_append_of_inert
        (inert_opening bracket (opens kind same) proper.1 (by decide)), ih proper.2, render]
      simp only [List.append_assoc]

theorem pass_render (flags : FeatureFlags) (on : Bool) {m : FeatureMarkup} (proper : m.Proper) :
    flags.pass on m.render = (m.resolve flags on).render := by
  have whole := replace_render flags on proper []
  rw [List.append_nil, Scanner.replace_nil, List.append_nil] at whole
  rw [FeatureFlags.pass, Tag.replace_eq, if_pos (compiles_tagName on), whole]

-- Two flat passes come to what the template means as a tree.
theorem strip_render (flags : FeatureFlags) {m : FeatureMarkup} (proper : m.Proper) :
    flags.strip m.render = m.eval flags := by
  have between := proper_resolve flags true proper
  have lacks : ∀ on, ((m.resolve flags true).resolve flags false).Lacks on := by
    intro on
    cases on with
    | true => exact lacks_resolve flags false (lacks_resolve_self flags proper)
    | false => exact lacks_resolve_self flags between
  rw [strip_eq, pass_render flags true proper, pass_render flags false between,
    render_eq_eval flags lacks, eval_resolve, eval_resolve]

theorem strip_render_nested :
    let flags : FeatureFlags := .ofList [("beta".toList, true), ("old".toList, false)]
    let inner := block true "beta".toList (text "new".toList nil) (selfClosing true [] nil)
    let m := block true "beta".toList (block false "old".toList (text "b > a".toList nil) nil)
      (text "/".toList (block false "gone".toList (text "kept ".toList inner) nil))
    m.Proper ∧ flags.strip m.render = m.eval flags := by
  intro flags inner m
  have feature : ∀ f ∈ ["beta".toList, "old".toList, "gone".toList, []], IsFeature f := by
    unfold IsFeature
    decide
  have plain : ∀ t ∈ ["new".toList, "b > a".toList, "/".toList, "kept ".toList], Plain t := by
    have absent : ∀ t ∈ ["new".toList, "b > a".toList, "/".toList, "kept ".toList], '<' ∉ t := by
      decide
    exact fun t member => plain_of_not_mem (absent t member)
  rw [List.forall_mem_cons, List.forall_mem_cons, List.forall_mem_cons, List.forall_mem_singleton]
    at feature plain
  obtain ⟨beta, old, gone, nameless⟩ := feature
  obtain ⟨new, formula, slash, kept⟩ := plain
  have first : (block false "old".toList (text "b > a".toList nil) nil).Proper :=
    ⟨old, trivial, ⟨formula, trivial⟩, trivial⟩
  have within : inner.Proper := ⟨beta, trivial, ⟨new, trivial⟩, nameless, trivial⟩
  have apart : (text "kept ".toList inner).Lacks false :=
    ⟨Bool.noConfusion, trivial, Bool.noConfusion, trivial⟩
  have proper : m.Proper :=
    ⟨beta, ⟨Bool.noConfusion, trivial, trivial⟩, first, slash, gone, apart, ⟨kept, within⟩, trivial⟩
  exact ⟨proper, strip_render flags proper⟩

end FeatureMarkup
end ComponentLoader
