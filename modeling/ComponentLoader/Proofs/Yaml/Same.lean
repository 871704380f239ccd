import ComponentLoader.Yaml.Value
import Mathlib.Data.List.Forall2

namespace ComponentLoader.Yaml.Value

-- What holds of a collection when it holds of all that is in it holds of every value.
@[elab_as_elim]
theorem induction {P : Value → Prop} (null : P .null) (bool : ∀ b, P (.bool b))
    (number : ∀ n, P (.number n)) (string : ∀ s, P (.string s))
    (sequence : ∀ items, (∀ v ∈ items, P v) → P (.sequence items))
    (mapping : ∀ entries, (∀ e ∈ entries, P e.1 ∧ P e.2) → P (.mapping entries))
    (tagged : ∀ tag v, P v → P (.tagged tag v)) : ∀ v, P v
  | .null => null
  | .bool b => bool b
  | .number n => number n
  | .string s => string s
  | .sequence items => sequence items fun v _ =>
    induction null bool number string sequence mapping tagged v
  | .mapping entries => mapping entries fun e _ =>
    ⟨induction null bool number string sequence mapping tagged e.1,
      induction null bool number string sequence mapping tagged e.2⟩
  | .tagged tag v => tagged tag v (induction null bool number string sequence mapping tagged v)
termination_by v => sizeOf v
decreasing_by
  · have := List.sizeOf_lt_of_mem ‹v ∈ items›
    rw [Value.sequence.sizeOf_spec]
    omega
  · have := List.sizeOf_lt_of_mem ‹e ∈ entries›
    have : sizeOf e = 1 + sizeOf e.1 + sizeOf e.2 := rfl
    rw [Value.mapping.sizeOf_spec]
    omega
  · have := List.sizeOf_lt_of_mem ‹e ∈ entries›
    have : sizeOf e = 1 + sizeOf e.1 + sizeOf e.2 := rfl
    rw [Value.mapping.sizeOf_spec]
    omega
  · rw [Value.tagged.sizeOf_spec]
    omega

theorem sameNumber_iff {a b : Number} : sameNumber a b = true ↔ a = b ∨
    (∃ negative power, a = .double (.finite negative 0 power)) ∧
      ∃ negative power, b = .double (.finite negative 0 power) := by
  unfold sameNumber
  split
  · simp
  · next other =>
    rw [beq_iff_eq, or_iff_left]
    rintro ⟨⟨_, _, rfl⟩, _, _, rfl⟩
    exact other _ _ _ _ rfl rfl

theorem sameItems_iff {a b : List Value} :
    sameItems a b = true ↔ List.Forall₂ (fun v w => v.same w = true) a b := by
  induction a generalizing b with
  | nil => cases b <;> simp [sameItems]
  | cons v a ih => cases b <;> simp [sameItems, ih]

theorem sameEntries_iff {a b : List (Value × Value)} : sameEntries a b = true ↔
    ∀ e ∈ a, ∃ f ∈ b, e.1.same f.1 = true ∧ e.2.same f.2 = true := by
  induction a with
  | nil => simp [sameEntries]
  | cons e a ih =>
    obtain ⟨k, v⟩ := e
    rw [sameEntries, Bool.and_eq_true, ih, List.any_eq_true, List.forall_mem_cons]
    simp

theorem same_sequence_iff {a : List Value} {w : Value} : (sequence a).same w = true ↔
    ∃ b, w = .sequence b ∧ List.Forall₂ (fun v w => v.same w = true) a b := by
  cases w <;> simp [same, sameItems_iff]

theorem same_mapping_iff {a : List (Value × Value)} {w : Value} : (mapping a).same w = true ↔
    ∃ b, w = .mapping b ∧ a.length = b.length ∧
      ∀ e ∈ a, ∃ f ∈ b, e.1.same f.1 = true ∧ e.2.same f.2 = true := by
  cases w <;> simp [same, sameEntries_iff]

theorem same_tagged_iff {tag : Text} {v w : Value} : (tagged tag v).same w = true ↔
    ∃ x, w = .tagged tag x ∧ v.same x = true := by
  cases w with
  | tagged other x =>
    rw [same, Bool.and_eq_true, beq_iff_eq]
    constructor
    · rintro ⟨rfl, equal⟩
      exact ⟨x, rfl, equal⟩
    · rintro ⟨_, equal, inside⟩
      cases equal
      exact ⟨rfl, inside⟩
  | _ => simp [same]

theorem same_refl (v : Value) : v.same v = true := by
  induction v using induction with
  | null => rfl
  | bool b => simp [same]
  | number n => simp [same, sameNumber_iff]
  | string s => simp [same]
  | sequence items each => exact same_sequence_iff.2 ⟨items, rfl, List.forall₂_same.2 each⟩
  | mapping entries each =>
    exact same_mapping_iff.2 ⟨entries, rfl, rfl, fun e member => ⟨e, member, each e member⟩⟩
  | tagged tag v ih => exact same_tagged_iff.2 ⟨v, rfl, ih⟩

theorem same_trans {a b c : Value} (left : a.same b = true) (right : b.same c = true) :
    a.same c = true := by
  induction a using induction generalizing b c with
  | null => cases b <;> simp_all [same]
  | bool x => cases b <;> cases c <;> simp_all [same]
  | string s => cases b <;> cases c <;> simp_all [same]
  | number x =>
    cases b <;> cases c <;> simp only [same, Bool.false_eq_true] at left right ⊢
    rw [sameNumber_iff] at left right ⊢
    rcases left with rfl | ⟨first, second⟩
    · exact right
    · rcases right with rfl | ⟨-, third⟩
      · exact .inr ⟨first, second⟩
      · exact .inr ⟨first, third⟩
  | sequence items each =>
    obtain ⟨between, rfl, first⟩ := same_sequence_iff.1 left
    obtain ⟨last, rfl, second⟩ := same_sequence_iff.1 right
    refine same_sequence_iff.2 ⟨last, rfl, ?_⟩
    clear left right
    induction first generalizing last with
    | nil =>
      cases second
      exact .nil
    | cons here behind ih =>
      cases second with
      | cons there beyond =>
        rw [List.forall_mem_cons] at each
        exact .cons (each.1 here there) (ih each.2 _ beyond)
  | mapping entries each =>
    obtain ⟨between, rfl, length, first⟩ := same_mapping_iff.1 left
    obtain ⟨last, rfl, length', second⟩ := same_mapping_iff.1 right
    refine same_mapping_iff.2 ⟨last, rfl, length.trans length', fun e member => ?_⟩
    obtain ⟨f, inside, key, value⟩ := first e member
    obtain ⟨g, there, key', value'⟩ := second f inside
    exact ⟨g, there, (each e member).1 key key', (each e member).2 value value'⟩
  | tagged tag v ih =>
    obtain ⟨x, rfl, first⟩ := same_tagged_iff.1 left
    obtain ⟨y, rfl, second⟩ := same_tagged_iff.1 right
    exact same_tagged_iff.2 ⟨y, rfl, ih first second⟩

inductive Distinct : Value → Prop where
  | null : Distinct .null
  | bool (b : Bool) : Distinct (.bool b)
  | number (n : Number) : Distinct (.number n)
  | string (s : Text) : Distinct (.string s)
  | sequence {items : List Value} (each : ∀ v ∈ items, Distinct v) : Distinct (.sequence items)
  | mapping {entries : List (Value × Value)} (keys : ∀ e ∈ entries, Distinct e.1)
      (values : ∀ e ∈ entries, Distinct e.2)
      (apart : entries.Pairwise fun e f => f.1.same e.1 = false) : Distinct (.mapping entries)
  | tagged {tag : Text} {v : Value} (inside : Distinct v) : Distinct (.tagged tag v)

theorem sameNumber_symm {a b : Number} (equal : sameNumber a b = true) :
    sameNumber b a = true := by
  rw [sameNumber_iff] at equal ⊢
  rcases equal with rfl | ⟨left, right⟩
  · exact .inl rfl
  · exact .inr ⟨right, left⟩

-- Where each entry has one equal to it among as many others, and no key comes twice, each of the
-- others has one too.
theorem matched {a b : List (Value × Value)} (length : a.length = b.length)
    (back : ∀ e ∈ a, ∀ f ∈ b, (e.1.same f.1 = true → f.1.same e.1 = true) ∧
      (e.2.same f.2 = true → f.2.same e.2 = true))
    (apart : a.Pairwise fun e f => f.1.same e.1 = false)
    (each : ∀ e ∈ a, ∃ f ∈ b, e.1.same f.1 = true ∧ e.2.same f.2 = true) :
    ∀ f ∈ b, ∃ e ∈ a, f.1.same e.1 = true ∧ f.2.same e.2 = true := by
  induction a generalizing b with
  | nil =>
    intro f member
    rw [List.length_nil] at length
    rw [List.length_eq_zero_iff.1 length.symm] at member
    cases member
  | cons e a ih =>
    obtain ⟨first, rest⟩ := List.pairwise_cons.1 apart
    obtain ⟨f, member, key, value⟩ := each e List.mem_cons_self
    obtain ⟨l, r, rfl⟩ := List.append_of_mem member
    have both := back e List.mem_cons_self f member
    have middle : ∀ g, g ∈ l ++ f :: r ↔ g = f ∨ g ∈ l ++ r := by
      intro g
      simp only [List.mem_append, List.mem_cons]
      tauto
    have fewer : a.length = (l ++ r).length := by
      simp only [List.length_cons, List.length_append] at length ⊢
      omega
    -- A later entry is not matched by `f`: it would have the key of `e`.
    have others : ∀ d ∈ a, ∃ g ∈ l ++ r, d.1.same g.1 = true ∧ d.2.same g.2 = true := by
      intro d later
      obtain ⟨g, there, keys, values⟩ := each d (List.mem_cons_of_mem _ later)
      rcases (middle g).1 there with rfl | elsewhere
      · have twice := same_trans keys (both.1 key)
        rw [first d later] at twice
        cases twice
      · exact ⟨g, elsewhere, keys, values⟩
    have remaining := ih fewer (fun d later g there => back d (List.mem_cons_of_mem _ later) g
      ((middle g).2 (.inr there))) rest others
    intro g there
    rcases (middle g).1 there with rfl | elsewhere
    · exact ⟨e, List.mem_cons_self, both.1 key, both.2 value⟩
    · obtain ⟨d, later, keys, values⟩ := remaining g elsewhere
      exact ⟨d, List.mem_cons_of_mem _ later, keys, values⟩

theorem same_symm {a b : Value} (left : a.Distinct) (right : b.Distinct) (equal : a.same b = true) :
    b.same a = true := by
  induction a using induction generalizing b with
  | null => cases b <;> simp_all [same]
  | bool x => cases b <;> simp_all [same]
  | string s => cases b <;> simp_all [same]
  | number x => cases b <;> simp_all [same, sameNumber_symm]
  | sequence items each =>
    obtain ⟨others, rfl, found⟩ := same_sequence_iff.1 equal
    refine same_sequence_iff.2 ⟨items, rfl, ?_⟩
    cases left with
    | sequence first =>
      cases right with
      | sequence second =>
        clear equal
        induction found with
        | nil => exact .nil
        | cons here behind ih =>
          rw [List.forall_mem_cons] at each first second
          exact .cons (each.1 first.1 second.1 here) (ih each.2 first.2 second.2)
  | mapping entries each =>
    obtain ⟨others, rfl, length, found⟩ := same_mapping_iff.1 equal
    cases left with
    | mapping keys values apart =>
      cases right with
      | mapping keys' values' apart' =>
        refine same_mapping_iff.2 ⟨entries, rfl, length.symm, matched length ?_ apart found⟩
        intro e member f there
        exact ⟨(each e member).1 (keys e member) (keys' f there),
          (each e member).2 (values e member) (values' f there)⟩
  | tagged tag v ih =>
    obtain ⟨x, rfl, inside⟩ := same_tagged_iff.1 equal
    cases left with
    | tagged first =>
      cases right with
      | tagged second => exact same_tagged_iff.2 ⟨v, rfl, ih first second inside⟩

theorem distinct_putTag {v : Value} (distinct : v.Distinct) (tag : Option Text) :
    (putTag tag v).Distinct := by
  unfold putTag
  split
  · exact .tagged distinct
  · exact distinct

theorem distinct_ofWhole? {n : Int} {v : Value} (read : ofWhole? n = some v) : v.Distinct := by
  unfold ofWhole? at read
  split at read
  · cases read
    exact .number _
  · cases read

theorem distinct_ofPlain? {s : Text} {v : Value} (read : ofPlain? s = some v) : v.Distinct := by
  unfold ofPlain? at read
  split at read
  · cases read
    exact .null
  · split at read
    · cases read
      exact .bool _
    · split at read
      · exact distinct_ofWhole? read
      · split at read
        · cases read
          exact .number _
        · cases read
          exact .string s

theorem distinct_ofScalar? {tag : Option Text} {plain : Bool} {s : Text} {v : Value}
    (read : ofScalar? tag plain s = some v) : v.Distinct := by
  unfold ofScalar? at read
  split at read
  · split at read
    · exact distinct_ofPlain? read
    · cases read
      exact .string s
  · split at read
    · obtain ⟨b, -, rfl⟩ := Option.map_eq_some_iff.1 read
      exact .bool b
    · split at read
      · obtain ⟨n, -, whole⟩ := Option.bind_eq_some_iff.1 read
        exact distinct_ofWhole? whole
      · split at read
        · obtain ⟨d, -, rfl⟩ := Option.map_eq_some_iff.1 read
          exact .number _
        · split at read
          · split at read
            · cases read
              exact .null
            · cases read
          · cases read
            exact .string s

mutual

theorem distinct_ofTree? : ∀ {t : Tree} {v : Value}, ofTree? t = some v → v.Distinct
  | .scalar tag plain s, v, read => by
    rw [ofTree?] at read
    split at read
    · obtain ⟨inside, scalar, rfl⟩ := Option.map_eq_some_iff.1 read
      exact .tagged (distinct_ofScalar? scalar)
    · exact distinct_ofScalar? read
  | .sequence tag items, v, read => by
    rw [ofTree?] at read
    obtain ⟨vs, found, rfl⟩ := Option.map_eq_some_iff.1 read
    exact distinct_putTag (.sequence (distinct_ofItems? found)) tag
  | .mapping tag entries, v, read => by
    rw [ofTree?] at read
    obtain ⟨vs, found, rfl⟩ := Option.map_eq_some_iff.1 read
    obtain ⟨each, apart, -⟩ := distinct_ofEntries? found
    exact distinct_putTag
      (.mapping (fun e member => (each e member).1) (fun e member => (each e member).2) apart) tag

theorem distinct_ofItems? : ∀ {ts : List Tree} {vs : List Value}, ofItems? ts = some vs →
    ∀ v ∈ vs, v.Distinct
  | [], vs, read => by
    cases read
    simp
  | t :: r, vs, read => by
    rw [ofItems?] at read
    obtain ⟨v, first, read⟩ := Option.bind_eq_some_iff.1 read
    obtain ⟨rest, others, same⟩ := Option.bind_eq_some_iff.1 read
    cases same
    exact List.forall_mem_cons.2 ⟨distinct_ofTree? first, distinct_ofItems? others⟩

theorem distinct_ofEntries? : ∀ {keys : List Value} {ts : List (Tree × Tree)}
    {vs : List (Value × Value)}, ofEntries? keys ts = some vs →
      (∀ e ∈ vs, e.1.Distinct ∧ e.2.Distinct) ∧
        vs.Pairwise (fun e f => f.1.same e.1 = false) ∧
        ∀ e ∈ vs, ∀ k ∈ keys, e.1.same k = false
  | keys, [], vs, read => by
    cases read
    simp
  | keys, (k, v) :: r, vs, read => by
    rw [ofEntries?] at read
    obtain ⟨key, first, read⟩ := Option.bind_eq_some_iff.1 read
    split at read
    · cases read
    · next fresh =>
      obtain ⟨value, second, read⟩ := Option.bind_eq_some_iff.1 read
      obtain ⟨rest, others, same⟩ := Option.bind_eq_some_iff.1 read
      cases same
      obtain ⟨each, apart, other⟩ := distinct_ofEntries? others
      refine ⟨List.forall_mem_cons.2 ⟨⟨distinct_ofTree? first, distinct_ofTree? second⟩, each⟩,
        List.pairwise_cons.2 ⟨fun e member => other e member key List.mem_cons_self, apart⟩,
        List.forall_mem_cons.2 ⟨?_, fun e member k old =>
          other e member k (List.mem_cons_of_mem _ old)⟩⟩
      simpa using fresh

end

def Equal (v w : Value) : Prop := v.same w = true ∧ w.same v = true

instance (v w : Value) : Decidable (Equal v w) := inferInstanceAs (Decidable (_ ∧ _))

theorem Equal.refl (v : Value) : Equal v v := ⟨same_refl v, same_refl v⟩

theorem Equal.symm {v w : Value} (equal : Equal v w) : Equal w v := ⟨equal.2, equal.1⟩

theorem Equal.trans {u v w : Value} (first : Equal u v) (last : Equal v w) : Equal u w :=
  ⟨same_trans first.1 last.1, same_trans last.2 first.2⟩

end ComponentLoader.Yaml.Value
