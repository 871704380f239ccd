import ComponentLoader.Template.Process
import ComponentLoader.Proofs.Markup.Tag
import ComponentLoader.Proofs.Text.Words

namespace ComponentLoader
namespace Template

def token : Text := ['\\', 'n']

def withoutTokens : Text → Text
  | '\\' :: 'n' :: s => withoutTokens s
  | c :: s => c :: withoutTokens s
  | [] => []

theorem not_begins_token {c : Char} {s : Text} (other : ∀ r, c = '\\' → s = 'n' :: r → False) :
    ¬token <+: c :: s := by
  rintro ⟨r, whole⟩
  obtain ⟨rfl, rfl⟩ := List.cons.inj whole
  exact other r rfl rfl

theorem replaceAll_token (s : Text) : Text.replaceAll ['\\', 'n'] [] s = withoutTokens s := by
  fun_induction withoutTokens s with
  | case1 s ih =>
    have gone : Text.replaceAll token [] (token ++ s) = Text.replaceAll token [] s :=
      Text.replaceAll_append (by simp [token]) [] s
    exact gone.trans ih
  | case2 c s other ih =>
    have absent : Text.dropPrefix? ['\\', 'n'] (c :: s) = none :=
      Text.dropPrefix?_eq_none.2 (not_begins_token other)
    rw [Text.replaceAll_cons [] absent, ih]
  | case3 => exact Text.replaceAll_nil _ _

theorem tidy_eq (source : Text) : tidy source = withoutTokens (Text.trimEnd source) :=
  replaceAll_token _

theorem withoutTokens_cons {c : Char} (s : Text) (other : c ≠ '\\') :
    withoutTokens (c :: s) = c :: withoutTokens s := by
  rw [withoutTokens]
  exact fun _ same => absurd same other

-- Two texts of which none spells a token across the place where they meet.
def Apart (a b : Text) : Prop := a.getLast? = some '\\' → b.head? ≠ some 'n'

theorem withoutTokens_append {a b : Text} (apart : Apart a b) :
    withoutTokens (a ++ b) = withoutTokens a ++ withoutTokens b := by
  fun_induction withoutTokens a with
  | case1 s ih =>
    cases s with
    | nil => rfl
    | cons x s => exact ih (by simpa [Apart] using apart)
  | case2 c s other ih =>
    cases s with
    | nil =>
      rw [List.singleton_append, withoutTokens]
      · rfl
      · rintro r rfl rfl
        exact apart rfl rfl
    | cons x s =>
      rw [List.cons_append, withoutTokens, ih (by simpa [Apart] using apart)]
      · rfl
      · intro r quoted rest
        obtain ⟨rfl, -⟩ := List.cons.inj rest
        exact other s quoted rfl
  | case3 => rfl

theorem withoutTokens_sublist (s : Text) : (withoutTokens s).Sublist s := by
  fun_induction withoutTokens s with
  | case1 s ih => exact (ih.cons 'n').cons '\\'
  | case2 c s other ih => exact ih.cons_cons c
  | case3 => exact List.Sublist.slnil

theorem withoutTokens_eq_self_iff {s : Text} : withoutTokens s = s ↔ ¬token <:+: s := by
  fun_induction withoutTokens s with
  | case1 s ih =>
    have shorter := (withoutTokens_sublist s).length_le
    refine iff_of_false (fun kept => ?_) (not_not_intro ⟨[], s, rfl⟩)
    have longer := congrArg List.length kept
    simp only [List.length_cons] at longer
    omega
  | case2 c s other ih =>
    rw [List.infix_cons_iff, not_or, and_iff_right (not_begins_token other), ← ih,
      List.cons.injEq, and_iff_right rfl]
  | case3 => exact iff_of_true rfl (by decide)

def TokensWithin (a b : Text) : Prop := ∀ u, u ++ token <+: a ++ b → u ++ token <+: a

theorem apart_of_absent {a b : Text} (absent : ¬token <:+: a ++ b) : Apart a b := by
  intro quoted first
  obtain ⟨u, rfl⟩ := List.getLast?_eq_some_iff.1 quoted
  obtain ⟨v, rfl⟩ := List.head?_eq_some_iff.1 first
  exact absent ⟨u, v, by simp [token]⟩

theorem tokensWithin_iff {a b : Text} : TokensWithin a b ↔ Apart a b ∧ ¬token <:+: b := by
  constructor
  · refine fun within => ⟨fun quoted first => ?_, fun inside => ?_⟩
    · obtain ⟨u, rfl⟩ := List.getLast?_eq_some_iff.1 quoted
      obtain ⟨v, rfl⟩ := List.head?_eq_some_iff.1 first
      have longer := (within u ⟨v, by simp [token]⟩).length_le
      simp only [token, List.length_append, List.length_cons, List.length_nil] at longer
      omega
    · obtain ⟨u, v, rfl⟩ := inside
      have longer := (within (a ++ u) ⟨v, by simp⟩).length_le
      simp only [token, List.length_append, List.length_cons, List.length_nil] at longer
      omega
  · rintro ⟨apart, absent⟩ u begins
    rcases List.prefix_or_prefix_of_prefix begins (List.prefix_append a b) with inside | longer
    · exact inside
    · have whole : u ++ token = u ++ ['\\'] ++ ['n'] := by simp [token]
      rw [whole, List.prefix_concat_iff, List.prefix_concat_iff] at longer
      rcases longer with same | same | ⟨v, rfl⟩
      · rw [whole, same]
      · subst same
        rw [whole, List.prefix_append_right_inj] at begins
        obtain ⟨r, rfl⟩ := begins
        exact absurd rfl (apart (by simp))
      · rw [List.append_assoc, List.prefix_append_right_inj] at begins
        obtain ⟨r, rfl⟩ := begins
        exact absurd ⟨v, r, rfl⟩ absent

inductive Ending : Text → Prop
  | nil : Ending []
  | blank {c : Char} {s : Text} : isBlank c = true → Ending s → Ending (c :: s)
  | token {s : Text} : Ending s → Ending ('\\' :: 'n' :: s)

inductive Settled : Text → Prop
  | blank {s : Text} : (∀ c ∈ s, isBlank c = true) → Settled s
  | token {s : Text} : Settled s → Settled ('\\' :: 'n' :: s)

theorem ne_backslash {c : Char} (blank : isBlank c = true) : c ≠ '\\' := by
  rintro rfl
  revert blank
  decide

theorem trimEnd_token (s : Text) :
    Text.trimEnd ('\\' :: 'n' :: s) = '\\' :: 'n' :: Text.trimEnd s :=
  Text.trimEnd_append (s := token) (by simp [token]; decide) (by simp [token]) s

theorem Ending.forall_isBlank {s : Text} (ends : Ending s) :
    ∀ c ∈ withoutTokens (Text.trimEnd s), isBlank c = true := by
  induction ends with
  | nil => simp [Text.trimEnd_eq_nil_iff.2, withoutTokens]
  | @blank c s blank ends ih =>
    rw [Text.trimEnd_cons]
    split
    · simp [withoutTokens]
    · rw [withoutTokens_cons _ (ne_backslash blank), List.forall_mem_cons]
      exact ⟨blank, ih⟩
  | @token s ends ih => rwa [trimEnd_token, withoutTokens]

theorem Ending.settled_iff {s : Text} (ends : Ending s) :
    Settled s ↔ withoutTokens (Text.trimEnd s) = [] := by
  induction ends with
  | nil => exact iff_of_true (.blank (by simp)) (by simp [Text.trimEnd_eq_nil_iff.2, withoutTokens])
  | @blank c s blank ends ih =>
    rw [Text.trimEnd_cons]
    split
    · next gone =>
      refine iff_of_true (.blank ?_) rfl
      exact List.forall_mem_cons.2 ⟨blank, Text.trimEnd_eq_nil_iff.1 gone.1⟩
    · next kept =>
      rw [withoutTokens_cons _ (ne_backslash blank)]
      refine iff_of_false (fun settled => kept ⟨?_, blank⟩) (by simp)
      cases settled with
      | blank all => exact Text.trimEnd_eq_nil_iff.2 (List.forall_mem_cons.1 all).2
      | token => exact absurd rfl (ne_backslash blank)
  | @token s ends ih =>
    rw [trimEnd_token, withoutTokens, ← ih]
    refine ⟨fun settled => ?_, .token⟩
    cases settled with
    | blank all => exact absurd rfl (ne_backslash (all _ (by simp)))
    | token settled => exact settled

theorem Ending.not_mem {s : Text} (ends : Ending s) : '>' ∉ s := by
  have solid : isBlank '>' = false := by decide
  induction ends with
  | nil => simp
  | @blank c s blank ends ih =>
    rw [List.mem_cons, not_or]
    refine ⟨?_, ih⟩
    rintro rfl
    rw [solid] at blank
    cases blank
  | @token s ends ih => simp [ih]

def IsTagName : Text → Prop
  | [] => False
  | c :: r => c.isAlpha = true ∧ ∀ x ∈ r, isWordChar x = true ∨ x = '-'

theorem IsTagName.not_mem {name : Text} (named : IsTagName name) : '<' ∉ name := by
  cases name with
  | nil => cases named
  | cons c r =>
    obtain ⟨letter, later⟩ := named
    rw [List.mem_cons, not_or]
    constructor
    · rintro rfl
      revert letter
      decide
    · intro member
      have foreign := later _ member
      revert foreign
      decide

theorem isClosingTag_iff {s : Text} :
    isClosingTag s = true ↔ ∃ name, IsTagName name ∧ s = Tag.closing name := by
  constructor
  · intro closes
    unfold isClosingTag at closes
    split at closes
    · next c r =>
      obtain ⟨letter, behind⟩ := Bool.and_eq_true_iff.1 closes
      have whole := List.takeWhile_append_dropWhile (p := fun c => isWordChar c || c == '-') (l := r)
      refine ⟨c :: r.takeWhile fun c => isWordChar c || c == '-', ⟨letter, ?_⟩, ?_⟩
      · intro x member
        simpa using List.mem_takeWhile_imp member
      · rw [beq_iff_eq.1 behind] at whole
        rw [Tag.closing, List.cons_append, List.cons_append, List.cons_append, whole]
    · cases closes
  · rintro ⟨name, named, rfl⟩
    cases name with
    | nil => cases named
    | cons c r =>
      obtain ⟨letter, later⟩ := named
      have inside : ∀ x ∈ r, (isWordChar x || x == '-') = true := by simpa using later
      have stop : (isWordChar '>' || '>' == '-') = false := by decide
      rw [Tag.closing, List.cons_append, List.cons_append, List.cons_append, isClosingTag, letter,
        Text.dropWhile_append_cons inside stop]
      rfl

theorem closing_front {u a b : Text} (single : '<' ∉ b)
    (whole : u ++ Tag.closing a = Tag.closing b) : u = [] ∧ a = b := by
  cases u with
  | nil => exact ⟨rfl, by simpa [Tag.closing] using whole⟩
  | cons x u =>
    have tail : u ++ Tag.closing a = '/' :: b ++ ['>'] := (List.cons.inj whole).2
    have inside : '<' ∈ '/' :: b ++ ['>'] := by
      rw [← tail]
      simp [Tag.closing]
    simp [single] at inside

variable {name : Text}

theorem getLast?_closing (body : Text) : (body ++ Tag.closing name).getLast? = some '>' := by
  rw [Tag.closing, ← List.append_assoc, List.getLast?_concat]

theorem cutClosingTag?_closing (named : IsTagName name) (body : Text) :
    cutClosingTag? (body ++ Tag.closing name) = some (body, Tag.closing name) := by
  induction body with
  | nil =>
    have tag : isClosingTag (Tag.closing name) = true := isClosingTag_iff.2 ⟨name, named, rfl⟩
    rw [Tag.closing, List.cons_append] at tag
    rw [List.nil_append, Tag.closing, List.cons_append, cutClosingTag?, if_pos tag]
  | cons c body ih =>
    have longer : ¬isClosingTag (c :: (body ++ Tag.closing name)) = true := by
      rw [isClosingTag_iff]
      rintro ⟨n, other, whole⟩
      cases (closing_front (u := c :: body) other.not_mem whole).1
    rw [List.cons_append, cutClosingTag?, if_neg longer, ih]
    rfl

theorem cutClosingTag?_eq_none {s : Text} (none_ : ∀ n, IsTagName n → ¬Tag.closing n <:+ s) :
    cutClosingTag? s = none := by
  induction s with
  | nil => rfl
  | cons c s ih =>
    have untagged : isClosingTag (c :: s) = false := by
      rw [← Bool.not_eq_true, isClosingTag_iff]
      rintro ⟨n, named, whole⟩
      exact none_ n named (whole ▸ List.suffix_refl _)
    rw [cutClosingTag?, untagged, ih fun n named part => none_ n named (part.trans
      (List.suffix_cons c s))]
    rfl

theorem cutClosingTag?_ending {s ending : Text} (some_ : ending ≠ []) (open_ : '>' ∉ ending) :
    cutClosingTag? (s ++ ending) = none := by
  refine cutClosingTag?_eq_none fun n _ part => ?_
  have last : (s ++ ending).getLast? = some '>' := by
    obtain ⟨u, whole⟩ := part
    rw [← whole, getLast?_closing]
  rw [List.getLast?_append_of_ne_nil _ some_] at last
  exact open_ (List.mem_of_getLast? last)

theorem cutClosingTag?_unnamed (single : '<' ∉ name) (unnamed : ¬IsTagName name) (s : Text) :
    cutClosingTag? (s ++ Tag.closing name) = none := by
  refine cutClosingTag?_eq_none fun n named part => ?_
  rcases List.suffix_or_suffix_of_suffix part (List.suffix_append s _) with
    ⟨u, whole⟩ | ⟨u, whole⟩
  · exact unnamed ((closing_front single whole).2 ▸ named)
  · exact unnamed ((closing_front named.not_mem whole).2 ▸ named)

theorem tidy_template (plain : ¬token <:+: Tag.closing name) (body ending : Text) :
    tidy (body ++ Tag.closing name ++ ending) =
      withoutTokens body ++ Tag.closing name ++ withoutTokens (Text.trimEnd ending) := by
  have solid : ∀ c ∈ (body ++ Tag.closing name).getLast?, isBlank c = false := by
    intro c member
    rw [getLast?_closing] at member
    cases member
    decide
  have some_ : body ++ Tag.closing name ≠ [] := by simp [Tag.closing]
  have behind : Apart (body ++ Tag.closing name) (Text.trimEnd ending) := by
    rw [Apart, getLast?_closing]
    exact fun quoted => absurd (Option.some.inj quoted) (by decide)
  have ahead : Apart body (Tag.closing name) := fun _ => by simp [Tag.closing]
  rw [tidy_eq, Text.trimEnd_append solid some_, withoutTokens_append behind,
    withoutTokens_append ahead, withoutTokens_eq_self_iff.2 plain]

theorem append_of_settled (named : IsTagName name) (plain : ¬token <:+: Tag.closing name)
    {ending : Text} (ends : Ending ending) (settled : Settled ending) (body t : Text) :
    append (body ++ Tag.closing name ++ ending) t = withoutTokens body ++ t ++ Tag.closing name := by
  rw [append, tidy_template plain, ends.settled_iff.1 settled, List.append_nil,
    cutClosingTag?_closing named]

theorem append_eq_self (single : '<' ∉ name) (plain : ¬token <:+: Tag.closing name)
    {ending : Text} (ends : Ending ending) (open_ : ¬(IsTagName name ∧ Settled ending))
    (body t : Text) :
    append (body ++ Tag.closing name ++ ending) t = body ++ Tag.closing name ++ ending := by
  have none_ : cutClosingTag? (tidy (body ++ Tag.closing name ++ ending)) = none := by
    rw [tidy_template plain]
    by_cases settled : Settled ending
    · rw [ends.settled_iff.1 settled, List.append_nil]
      exact cutClosingTag?_unnamed single (fun named => open_ ⟨named, settled⟩) _
    · refine cutClosingTag?_ending (mt ends.settled_iff.2 settled) fun member => ?_
      have blank := ends.forall_isBlank _ member
      revert blank
      decide
  rw [append, none_]

def appendAll (body : Text) (texts : List Text) : Text :=
  texts.foldl (fun b t => withoutTokens b ++ t) body

theorem foldl_append_closing (named : IsTagName name) (plain : ¬token <:+: Tag.closing name)
    (body : Text) (texts : List Text) :
    texts.foldl append (body ++ Tag.closing name) = appendAll body texts ++ Tag.closing name := by
  induction texts generalizing body with
  | nil => rfl
  | cons t texts ih =>
    have step := append_of_settled named plain .nil (.blank (by simp)) body t
    rw [List.append_nil] at step
    rw [List.foldl_cons, step, ih, appendAll, appendAll, List.foldl_cons]

theorem foldl_append_eq_self {source : Text} (kept : ∀ t, append source t = source)
    (texts : List Text) : texts.foldl append source = source := by
  induction texts with
  | nil => rfl
  | cons t texts ih => rw [List.foldl_cons, kept, ih]

theorem length_appendAll_le (body : Text) (texts : List Text) :
    (appendAll body texts).length ≤ (body ++ texts.flatten).length := by
  induction texts generalizing body with
  | nil => simp [appendAll]
  | cons t texts ih =>
    have shorter := (withoutTokens_sublist body).length_le
    have later := ih (withoutTokens body ++ t)
    simp only [List.flatten_cons, List.length_append] at later ⊢
    rw [appendAll, List.foldl_cons, ← appendAll]
    omega

theorem appendAll_of_absent {body : Text} {texts : List Text}
    (absent : ¬token <:+: body ++ texts.flatten) : appendAll body texts = body ++ texts.flatten := by
  induction texts generalizing body with
  | nil => simp [appendAll]
  | cons t texts ih =>
    rw [List.flatten_cons] at absent ⊢
    have here : withoutTokens body = body :=
      withoutTokens_eq_self_iff.2 fun inside => absent (inside.trans (List.prefix_append _ _).isInfix)
    rw [← List.append_assoc] at absent ⊢
    rw [appendAll, List.foldl_cons, here, ← appendAll, ih absent]

-- The texts stay as they are, up to the last one, exactly if no token comes about in front of it.
theorem appendAll_eq_iff {body : Text} {texts : List Text} (within : TokensWithin body texts.flatten) :
    appendAll body texts = body ++ texts.flatten ↔ texts = [] ∨ ¬token <:+: body := by
  constructor
  · intro whole
    cases texts with
    | nil => exact .inl rfl
    | cons t texts =>
      refine .inr (withoutTokens_eq_self_iff.1 ((withoutTokens_sublist body).eq_of_length_le ?_))
      have later := length_appendAll_le (withoutTokens body ++ t) texts
      have lengths := congrArg List.length whole
      rw [appendAll, List.foldl_cons, ← appendAll] at lengths
      simp only [List.flatten_cons, List.length_append] at later lengths
      omega
  · rintro (rfl | absent)
    · simp [appendAll]
    · exact appendAll_of_absent fun ⟨u, part⟩ => absent ⟨u, within u part⟩

structure Addition.Generates (resource : Text) (a : Addition) (t : Text) : Prop where
  applies : ∀ test ∈ a.test, test.isMatch resource = true
  generates : a.generate (Path.lastName resource) resource = some t
  some_ : t ≠ []

theorem Addition.apply_of_generates {resource t : Text} {a : Addition}
    (generates : a.Generates resource t) (source : Text) :
    a.apply resource source = Template.append source t := by
  obtain ⟨applies, generates, some_⟩ := generates
  obtain ⟨c, t, rfl⟩ := List.exists_cons_of_ne_nil some_
  have matched : a.test.all (·.isMatch resource) = true := by
    cases test : a.test with
    | none => rfl
    | some r => exact applies r test
  rw [apply, if_pos matched, generates]

theorem Job.append_of_generates {resource : Text} {additions : List Addition} {texts : List Text}
    (generated : List.Forall₂ (Addition.Generates resource) additions texts) (source : Text) :
    additions.foldl (fun s a => a.apply resource s) source = texts.foldl Template.append source := by
  induction generated generalizing source with
  | nil => rfl
  | cons here later ih =>
    rw [List.foldl_cons, List.foldl_cons, Addition.apply_of_generates here, ih]

theorem Addition.ne_nil_of_generates {resource : Text} {additions : List Addition}
    {texts : List Text} (generated : List.Forall₂ (Generates resource) additions texts) :
    ∀ t ∈ texts, t ≠ [] := by
  induction generated with
  | nil => simp
  | cons here later ih => exact List.forall_mem_cons.2 ⟨here.some_, ih⟩

def Lands (body ending : Text) : List Text → Prop
  | [] => ending = [] ∧ ¬token <:+: body
  | t :: texts => Settled ending ∧ (texts = [] ∨ ¬token <:+: withoutTokens body ++ t)

theorem eq_nil_of_closing {body ending x : Text} (open_ : '>' ∉ ending)
    (whole : body ++ Tag.closing name ++ ending = x ++ Tag.closing name) : ending = [] := by
  by_contra some_
  have last := congrArg List.getLast? whole
  rw [List.getLast?_append_of_ne_nil _ some_, getLast?_closing] at last
  exact open_ (List.mem_of_getLast? last)

theorem foldl_append_iff (named : IsTagName name) {body ending : Text} (ends : Ending ending)
    {texts : List Text} (some_ : ∀ t ∈ texts, t ≠ [])
    (within : TokensWithin body (texts.flatten ++ Tag.closing name)) :
    texts.foldl append (body ++ Tag.closing name ++ ending) =
      withoutTokens body ++ texts.flatten ++ Tag.closing name ↔ Lands body ending texts := by
  obtain ⟨-, absent⟩ := tokensWithin_iff.1 within
  have plain : ¬token <:+: Tag.closing name := fun inside =>
    absent (inside.trans (List.suffix_append _ _).isInfix)
  cases texts with
  | nil =>
    rw [List.foldl_nil, List.flatten_nil, List.append_nil, Lands]
    constructor
    · intro whole
      have none_ := eq_nil_of_closing ends.not_mem whole
      rw [none_, List.append_nil, List.append_cancel_right_eq] at whole
      exact ⟨none_, withoutTokens_eq_self_iff.1 whole.symm⟩
    · rintro ⟨rfl, bare⟩
      rw [List.append_nil, withoutTokens_eq_self_iff.2 bare]
  | cons t texts =>
    rw [Lands]
    by_cases settled : Settled ending
    · have joined : ¬token <:+: t ++ texts.flatten := fun inside =>
        absent (inside.trans (List.prefix_append _ _).isInfix)
      have behind : TokensWithin (withoutTokens body ++ t) texts.flatten := by
        refine tokensWithin_iff.2 ⟨fun quoted => apart_of_absent joined ?_, fun inside =>
          joined (inside.trans (List.suffix_append _ _).isInfix)⟩
        rwa [List.getLast?_append_of_ne_nil _ (some_ t (by simp))] at quoted
      rw [List.foldl_cons, append_of_settled named plain ends settled,
        foldl_append_closing named plain, List.append_cancel_right_eq, List.flatten_cons,
        ← List.append_assoc, appendAll_eq_iff behind, and_iff_right settled]
    · have kept := append_eq_self named.not_mem plain ends (fun both => settled both.2) body
      rw [foldl_append_eq_self kept]
      refine iff_of_false (fun whole => settled ?_) fun lands => settled lands.1
      rw [eq_nil_of_closing ends.not_mem whole]
      exact .blank (by simp)

-- Added texts land in front of the closing tag as they were generated, exactly if only blanks
-- follow the tokens behind the tag and the first text leaves no token for those that come after it.
-- Behind a tag that has no name of the kind nothing is added.
theorem run_additions {resource body ending : Text} {additions : List Addition} {texts : List Text}
    (generated : List.Forall₂ (Addition.Generates resource) additions texts)
    (single : '<' ∉ name) (ends : Ending ending)
    (within : TokensWithin body (texts.flatten ++ Tag.closing name)) :
    let job : Job := { resource, additions }
    let source := body ++ Tag.closing name ++ ending
    (IsTagName name →
      (job.run source = ⟨withoutTokens body ++ texts.flatten ++ Tag.closing name, []⟩ ↔
        Lands body ending texts)) ∧
    (¬IsTagName name → job.run source = ⟨source, []⟩) := by
  intro job source
  have some_ := Addition.ne_nil_of_generates generated
  have run : job.run source = ⟨texts.foldl append source, []⟩ := by
    rw [← Job.append_of_generates generated]
    rfl
  rw [run]
  constructor
  · intro named
    rw [Output.mk.injEq, and_iff_left rfl, foldl_append_iff named ends some_ within]
  · intro unnamed
    obtain ⟨-, absent⟩ := tokensWithin_iff.1 within
    have plain : ¬token <:+: Tag.closing name := fun inside =>
      absent (inside.trans (List.suffix_append _ _).isInfix)
    rw [foldl_append_eq_self (append_eq_self single plain ends (fun both => unnamed both.1) body)]

theorem run_additions_two_texts :
    let additions : List Addition :=
      [{ generate := fun basename _ => some ("<a>".toList ++ basename ++ "</a>".toList) },
        { generate := fun _ _ => some "<b/>".toList }]
    let job : Job := { resource := "/p/x.vue".toList, additions }
    job.run "<div>\\n<p>1</p></div>\\n\\n \n".toList =
      ⟨"<div><p>1</p><a>x.vue</a><b/></div>".toList, []⟩ := by
  intro additions job
  have generated : List.Forall₂ (Addition.Generates "/p/x.vue".toList) additions
      ["<a>x.vue</a>".toList, "<b/>".toList] :=
    .cons ⟨by simp, by decide, by decide⟩ (.cons ⟨by simp, by decide, by decide⟩ .nil)
  have ends : Ending "\\n\\n \n".toList :=
    .token (.token (.blank (by decide) (.blank (by decide) .nil)))
  have within : TokensWithin "<div>\\n<p>1</p>".toList
      (["<a>x.vue</a>".toList, "<b/>".toList].flatten ++ Tag.closing "div".toList) :=
    tokensWithin_iff.2 ⟨fun _ => by decide, by decide⟩
  have named : IsTagName "div".toList := ⟨by decide, Text.forall_of_all (by decide)⟩
  have lands : Lands "<div>\\n<p>1</p>".toList "\\n\\n \n".toList
      ["<a>x.vue</a>".toList, "<b/>".toList] :=
    ⟨.token (.token (.blank (Text.forall_of_all (by decide)))), .inr (by decide)⟩
  exact ((run_additions generated (by decide) ends within).1 named).2 lands

-- A token behind a blank keeps the text out.
theorem text_kept_out :
    let job : Job :=
      { resource := "/p/x.vue".toList, additions := [{ generate := fun _ _ => some "T".toList }] }
    let body := "<div>x".toList
    let ending := " \\n".toList
    List.Forall₂ (Addition.Generates job.resource) job.additions ["T".toList] ∧
      IsTagName "div".toList ∧ Ending ending ∧
      TokensWithin body (["T".toList].flatten ++ Tag.closing "div".toList) ∧
      job.run (body ++ Tag.closing "div".toList ++ ending) ≠
        ⟨withoutTokens body ++ ["T".toList].flatten ++ Tag.closing "div".toList, []⟩ := by
  intro job body ending
  have named : IsTagName "div".toList := ⟨by decide, Text.forall_of_all (by decide)⟩
  refine ⟨.cons ⟨by simp [job], by decide, by decide⟩ .nil, named,
    .blank (by decide) (.token .nil), tokensWithin_iff.2 ⟨fun _ => by decide, by decide⟩, ?_⟩
  decide +kernel

end Template
end ComponentLoader
