import ComponentLoader.Json.Parser
import ComponentLoader.Json.Printer
import ComponentLoader.Proofs.Text.Search

namespace ComponentLoader
namespace Json

inductive Free (x : Char) : Text → Prop where
  | nil : Free x []
  | plain (backslash : c ≠ '\\') (other : c ≠ x) (rest : Free x r) : Free x (c :: r)
  | letter (letter : e ≠ 'u') (other : simpleEscape? e ≠ some x) (rest : Free x r) :
      Free x ('\\' :: e :: r)
  | code (coded : ∀ r, unicode? (q ++ r) = some (c, r)) (other : c ≠ x) (rest : Free x r) :
      Free x ('\\' :: 'u' :: (q ++ r))

inductive Lacks (x : Char) : Json → Prop where
  | null : Lacks x null
  | bool (b : Bool) : Lacks x (bool b)
  | number (n : Number) : Lacks x (number n)
  | string (absent : x ∉ s) : Lacks x (string s)
  | array (items : ∀ v ∈ vs, Lacks x v) : Lacks x (array vs)
  | object (names : ∀ m ∈ ms, x ∉ m.1) (values : ∀ m ∈ ms, Lacks x m.2) : Lacks x (object ms)

theorem Free.append {x : Char} {s t : Text} (left : Free x s) (right : Free x t) :
    Free x (s ++ t) := by
  induction left with
  | nil => exact right
  | plain backslash other rest ih => exact .plain backslash other ih
  | letter letter other rest ih => exact .letter letter other ih
  | code coded other rest ih =>
    rw [List.cons_append, List.cons_append, List.append_assoc]
    exact .code coded other ih

theorem Free.of_cons {x c : Char} {r : Text} (other : c ≠ '\\') (free : Free x (c :: r)) :
    Free x r := by
  cases free with
  | plain backslash other rest => exact rest
  | letter => exact absurd rfl other
  | code => exact absurd rfl other

def Behind (s r : Text) : Prop := ∃ p, s = p ++ r ∧ '\\' ∉ p

theorem Behind.refl (s : Text) : Behind s s := ⟨[], rfl, List.not_mem_nil⟩

theorem Behind.trans {s t r : Text} (first : Behind s t) (second : Behind t r) : Behind s r := by
  obtain ⟨p, rfl, plain⟩ := first
  obtain ⟨q, rfl, plain'⟩ := second
  exact ⟨p ++ q, by rw [List.append_assoc], by simp [plain, plain']⟩

theorem behind_cons {c : Char} (other : c ≠ '\\') (s : Text) : Behind (c :: s) s :=
  ⟨[c], rfl, by simpa using other.symm⟩

theorem behind_dropWhile {p : Char → Bool} (stop : p '\\' = false) (s : Text) :
    Behind s (s.dropWhile p) := by
  refine ⟨s.takeWhile p, List.takeWhile_append_dropWhile.symm, fun member => ?_⟩
  have passed := List.mem_takeWhile_imp member
  rw [stop] at passed
  cases passed

theorem behind_dropPrefix? {p s r : Text} (plain : '\\' ∉ p)
    (found : Text.dropPrefix? p s = some r) : Behind s r :=
  ⟨p, Text.dropPrefix?_eq_some.1 found, plain⟩

theorem behind_skip (s : Text) : Behind s (skip s) := behind_dropWhile (by decide) s

theorem behind_digitsOf (s : Text) : Behind s (Number.digitsOf s).2 :=
  behind_dropWhile (by decide) s

theorem Free.behind {x : Char} {s r : Text} (free : Free x s) (behind : Behind s r) :
    Free x r := by
  obtain ⟨p, rfl, plain⟩ := behind
  induction p with
  | nil => exact free
  | cons c p ih =>
    rw [List.mem_cons, not_or] at plain
    exact ih plain.2 (free.of_cons (Ne.symm plain.1))

theorem behind_signOf (s : Text) : Behind s (Number.signOf s).2 := by
  unfold Number.signOf
  split
  · exact behind_cons (by decide) _
  · exact .refl _

theorem behind_powerSignOf (s : Text) : Behind s (Number.powerSignOf s).2 := by
  unfold Number.powerSignOf
  split
  · exact behind_cons (by decide) _
  · exact behind_signOf _

theorem behind_fraction? {s r : Text} {fraction : Option Text}
    (read : Number.fraction? s = some (fraction, r)) : Behind s r := by
  unfold Number.fraction? at read
  split at read
  · split at read
    · cases read
    · cases read
      exact (behind_cons (by decide) _).trans (behind_digitsOf _)
  · cases read
    exact .refl _

theorem behind_power? {s r : Text} {power : Option Int}
    (read : Number.power? s = some (power, r)) : Behind s r := by
  unfold Number.power? at read
  split at read
  · cases read
    exact .refl _
  · next c s =>
    split at read
    · next mark =>
      have other : c ≠ '\\' := by
        rcases mark with rfl | rfl <;> decide
      dsimp only at read
      split at read
      · cases read
      · cases read
        exact (behind_cons other _).trans ((behind_powerSignOf _).trans (behind_digitsOf _))
    · cases read
      exact .refl _

theorem behind_number {s r : Text} {n : Number} (read : Number.read? s = some (n, r)) :
    Behind s r := by
  unfold Number.read? at read
  dsimp only at read
  split at read
  · cases read
  · obtain ⟨⟨fraction, t⟩, first, read⟩ := Option.bind_eq_some_iff.1 read
    obtain ⟨⟨power, u⟩, second, read⟩ := Option.bind_eq_some_iff.1 read
    obtain ⟨m, -, same⟩ := Option.map_eq_some_iff.1 read
    cases same
    exact (behind_signOf s).trans ((behind_digitsOf _).trans
      ((behind_fraction? first).trans (behind_power? second)))

theorem free_of_readString {x : Char} {fuel : Nat} {s t r done : Text}
    (read : readString fuel s done = some (t, r)) (free : Free x s) (absent : x ∉ done) :
    x ∉ t ∧ Free x r := by
  induction fuel generalizing s done with
  | zero => simp [readString] at read
  | succ fuel ih =>
    cases free with
    | nil => simp [readString] at read
    | @plain c s backslash other rest =>
      simp only [readString, backslash, if_false] at read
      split at read
      · cases read
        exact ⟨by simpa using absent, rest⟩
      · split at read
        · cases read
        · exact ih read rest (by simp [absent, other.symm])
    | @letter e s letter other rest =>
      simp only [readString, letter, if_false, Char.reduceEq, if_true] at read
      split at read
      · next y meant =>
        have differs : x ≠ y := fun same => other (same ▸ meant)
        exact ih read rest (by simp [absent, differs])
      · cases read
    | code coded other rest =>
      simp only [readString, Char.reduceEq, if_false, if_true, coded] at read
      exact ih read rest (by simp [absent, other.symm])

-- What is read at one fuel, for the three functions that call each other.
structure ReadsFree (x : Char) (fuel : Nat) : Prop where
  value : ∀ {s v r}, readValue fuel s = some (v, r) → Free x s → Lacks x v ∧ Free x r
  items : ∀ {s done vs r}, readItems fuel s done = some (vs, r) → Free x s →
    (∀ v ∈ done, Lacks x v) → (∀ v ∈ vs, Lacks x v) ∧ Free x r
  members : ∀ {s done ms r}, readMembers fuel s done = some (ms, r) → Free x s →
    (∀ m ∈ done, x ∉ m.1 ∧ Lacks x m.2) → (∀ m ∈ ms, x ∉ m.1 ∧ Lacks x m.2) ∧ Free x r

theorem Free.skipped {x c : Char} {s r : Text} (free : Free x s) (next : skip s = c :: r)
    (other : c ≠ '\\') : Free x r := by
  have whole := free.behind (behind_skip s)
  rw [next] at whole
  exact whole.of_cons other

theorem readsFree_items {x : Char} {fuel : Nat} (ih : ReadsFree x fuel) {s r : Text}
    {done vs : List Json} (read : readItems (fuel + 1) s done = some (vs, r)) (free : Free x s)
    (lacks : ∀ v ∈ done, Lacks x v) : (∀ v ∈ vs, Lacks x v) ∧ Free x r := by
  rw [readItems] at read
  split at read
  · cases read
  · next v t first =>
    obtain ⟨here, free⟩ := ih.value first free
    have all : ∀ w ∈ v :: done, Lacks x w := List.forall_mem_cons.2 ⟨here, lacks⟩
    split at read
    · next u next =>
      exact ih.items read (free.skipped next (by decide)) all
    · next u next =>
      cases read
      exact ⟨fun w member => all w (List.mem_reverse.1 member), free.skipped next (by decide)⟩
    · cases read

theorem readsFree_members {x : Char} {fuel : Nat} (ih : ReadsFree x fuel) {s r : Text}
    {done ms : List (Text × Json)} (read : readMembers (fuel + 1) s done = some (ms, r))
    (free : Free x s) (lacks : ∀ m ∈ done, x ∉ m.1 ∧ Lacks x m.2) :
    (∀ m ∈ ms, x ∉ m.1 ∧ Lacks x m.2) ∧ Free x r := by
  rw [readMembers] at read
  split at read
  · next t quote =>
    split at read
    · cases read
    · next k u key =>
      obtain ⟨absent, free⟩ :=
        free_of_readString key (free.skipped quote (by decide)) List.not_mem_nil
      split at read
      · next w colon =>
        split at read
        · cases read
        · next v y value =>
          obtain ⟨here, free⟩ := ih.value value (free.skipped colon (by decide))
          have all : ∀ m ∈ (k, v) :: done, x ∉ m.1 ∧ Lacks x m.2 :=
            List.forall_mem_cons.2 ⟨⟨absent, here⟩, lacks⟩
          split at read
          · next z next =>
            exact ih.members read (free.skipped next (by decide)) all
          · next z next =>
            cases read
            exact ⟨fun m member => all m (List.mem_reverse.1 member),
              free.skipped next (by decide)⟩
          · cases read
      · cases read
  · cases read

theorem readsFree_value {x : Char} {fuel : Nat} (ih : ReadsFree x fuel) {s r : Text} {v : Json}
    (read : readValue (fuel + 1) s = some (v, r)) (free : Free x s) : Lacks x v ∧ Free x r := by
  rw [readValue] at read
  have whole := free.behind (behind_skip s)
  split at read
  · cases read
  · next c t next =>
    rw [next] at whole
    split at read
    · next quote =>
      obtain ⟨⟨w, u⟩, string, same⟩ := Option.map_eq_some_iff.1 read
      cases same
      obtain ⟨absent, free⟩ := free_of_readString string (whole.of_cons (by simp [quote]))
        List.not_mem_nil
      exact ⟨.string absent, free⟩
    · split at read
      · next bracket =>
        have inside := whole.of_cons (by simp [bracket])
        split at read
        · next u close =>
          cases read
          exact ⟨.array (by simp), inside.skipped close (by decide)⟩
        · obtain ⟨⟨vs, u⟩, items, same⟩ := Option.map_eq_some_iff.1 read
          cases same
          obtain ⟨all, free⟩ := ih.items items (inside.behind (behind_skip t)) (by simp)
          exact ⟨.array all, free⟩
      · split at read
        · next brace =>
          have inside := whole.of_cons (by simp [brace])
          split at read
          · next u close =>
            cases read
            exact ⟨.object (by simp) (by simp), inside.skipped close (by decide)⟩
          · obtain ⟨⟨ms, u⟩, members, same⟩ := Option.map_eq_some_iff.1 read
            cases same
            obtain ⟨all, free⟩ := ih.members members (inside.behind (behind_skip t)) (by simp)
            exact ⟨.object (fun m member => (all m member).1) fun m member => (all m member).2,
              free⟩
        · split at read
          · next u word =>
            cases read
            exact ⟨.null, whole.behind (behind_dropPrefix? (by decide) word)⟩
          · split at read
            · next u word =>
              cases read
              exact ⟨.bool true, whole.behind (behind_dropPrefix? (by decide) word)⟩
            · split at read
              · next u word =>
                cases read
                exact ⟨.bool false, whole.behind (behind_dropPrefix? (by decide) word)⟩
              · obtain ⟨⟨n, u⟩, number, same⟩ := Option.map_eq_some_iff.1 read
                cases same
                exact ⟨.number n, whole.behind (behind_number number)⟩

theorem readsFree (x : Char) (fuel : Nat) : ReadsFree x fuel := by
  induction fuel with
  | zero =>
    exact ⟨fun read => by simp [readValue] at read, fun read => by simp [readItems] at read,
      fun read => by simp [readMembers] at read⟩
  | succ fuel ih => exact ⟨readsFree_value ih, readsFree_items ih, readsFree_members ih⟩

theorem lacks_of_parse? {x : Char} {s : Text} {v : Json} (read : parse? s = some v)
    (free : Free x s) : Lacks x v := by
  unfold parse? at read
  split at read
  · next w rest value =>
    split at read
    · cases read
      exact ((readsFree x _).value value free).1
    · cases read
  · cases read

end Json
end ComponentLoader
