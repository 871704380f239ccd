import ComponentLoader.Proofs.Script.Strings
import ComponentLoader.Proofs.Template.Localization

namespace ComponentLoader
namespace ScriptDialect

variable (d : ScriptDialect)

def escaped (t : Text) : Text := t.flatMap fun c => if c = '\'' then ['\\', '\''] else [c]

theorem escaped_cons_quote (t : Text) : escaped ('\'' :: t) = '\\' :: '\'' :: escaped t := by
  rw [escaped, List.flatMap_cons, if_pos rfl]
  rfl

theorem escaped_cons {c : Char} (other : c ≠ '\'') (t : Text) :
    escaped (c :: t) = c :: escaped t := by
  rw [escaped, List.flatMap_cons, if_neg other]
  rfl

theorem eq_append_of_escaped {t p rest : Text} (plain : Plain p)
    (whole : escaped t ++ ['\''] = p ++ rest) : ∃ u, t = p ++ u ∧ rest = escaped u ++ ['\''] := by
  induction p generalizing t with
  | nil => exact ⟨t, rfl, whole.symm⟩
  | cons x p ih =>
    obtain ⟨first, later⟩ := plain_cons.1 plain
    simp only [Plain, List.mem_singleton] at first
    cases t with
    | nil => exact absurd (List.cons.inj whole).1 first.1
    | cons c t =>
      by_cases quote : c = '\''
      · rw [quote, escaped_cons_quote] at whole
        exact absurd (List.cons.inj whole).1 first.2
      · rw [escaped_cons quote] at whole
        obtain ⟨rfl, tail⟩ := List.cons.inj whole
        obtain ⟨u, rfl, behind⟩ := ih later tail
        exact ⟨u, rfl, behind⟩

-- An escape that begins at a backslash of the text takes a part of the text along, unless it takes
-- the backslash of a quote: the quote then ends the string early.
theorem append_of_escape? {t rest : Text} {v w : List Nat}
    (found : d.escape? (escaped t ++ ['\'']) = some (v, rest)) (read : d.read? rest = some w) :
    ∃ p u, t = p ++ u ∧ rest = escaped u ++ ['\''] ∧ v.length ≤ p.units.length := by
  obtain ⟨p, whole, enough, kind⟩ := d.spends_escape? found
  rcases kind with rfl | rfl | plain
  · cases t with
    | nil =>
      obtain ⟨-, rfl⟩ := List.cons.inj whole
      rw [read?] at read
      cases read
    | cons c t =>
      by_cases quote : c = '\''
      · rw [quote, escaped_cons_quote] at whole
        exact absurd (List.cons.inj whole).1 (by decide)
      · rw [escaped_cons quote] at whole
        exact absurd (List.cons.inj whole).1 quote
  · cases t with
    | nil => exact absurd (List.cons.inj whole).1 (by decide)
    | cons c t =>
      by_cases quote : c = '\''
      · rw [quote, escaped_cons_quote] at whole
        have behind : '\'' :: (escaped t ++ ['\'']) = rest := (List.cons.inj whole).2
        rw [← behind, read?_quote, if_neg (by simp)] at read
        cases read
      · rw [escaped_cons quote] at whole
        obtain ⟨rfl, rfl⟩ := List.cons.inj whole
        exact ⟨['\\'], t, rfl, rfl, enough⟩
  · obtain ⟨u, split, behind⟩ := eq_append_of_escaped plain whole
    exact ⟨p, u, split, behind, enough⟩

-- A backslash of the text is lost, and nothing is added for it.
theorem length_of_read? {t : Text} {u : List Nat}
    (read : d.read? (escaped t ++ ['\'']) = some u) :
    u.length ≤ t.units.length ∧ ('\\' ∈ t → u.length < t.units.length) := by
  induction size : t.length using Nat.strongRecOn generalizing t u with
  | ind n ih =>
    subst size
    cases t with
    | nil =>
      rw [escaped, List.flatMap_nil, List.nil_append, read?_quote, if_pos rfl] at read
      cases read
      simp
    | cons c t =>
      have shorter : t.length < (c :: t).length := Nat.lt_succ_self _
      by_cases quote : c = '\''
      · subst quote
        rw [escaped_cons_quote, List.cons_append, List.cons_append, read?_escaped_quote] at read
        obtain ⟨w, later, rfl⟩ := Option.map_eq_some_iff.1 read
        obtain ⟨most, strict⟩ := ih t.length shorter later rfl
        rw [Text.units_cons, List.length_append, List.length_append, List.mem_cons,
          or_iff_right (by decide)]
        exact ⟨Nat.add_le_add_left most _, fun inside => Nat.add_lt_add_left (strict inside) _⟩
      rw [escaped_cons quote, List.cons_append] at read
      by_cases backslash : c = '\\'
      · subst backslash
        obtain ⟨v, rest, w, found, later, rfl⟩ := d.read?_escape read
        obtain ⟨p, r, rfl, rfl, enough⟩ := d.append_of_escape? found later
        have part : r.length < ('\\' :: (p ++ r)).length := by
          rw [List.length_cons, List.length_append]
          omega
        have bound := ih r.length part later rfl
        have one := (length_codeUnits '\\'.toNat).1
        rw [Text.units_cons, Text.units_append, List.length_append, List.length_append,
          List.length_append]
        omega
      · rw [read?_cons d quote backslash] at read
        split at read
        · cases read
        · obtain ⟨w, later, rfl⟩ := Option.map_eq_some_iff.1 read
          obtain ⟨most, strict⟩ := ih t.length shorter later rfl
          rw [Text.units_cons, List.length_append, List.length_append, List.mem_cons,
            or_iff_right (Ne.symm backslash)]
          exact ⟨Nat.add_le_add_left most _, fun inside => Nat.add_lt_add_left (strict inside) _⟩

theorem read?_of_not_mem {t : Text} (absent : '\\' ∉ t) :
    d.read? (escaped t ++ ['\'']) = if t.any d.breaksLine then none else some t.units := by
  induction t with
  | nil =>
    rw [escaped, List.flatMap_nil, List.nil_append, read?_quote, if_pos rfl]
    rfl
  | cons c t ih =>
    rw [List.mem_cons, not_or] at absent
    by_cases quote : c = '\''
    · have kept : d.breaksLine '\'' = false := by simp [breaksLine]
      rw [quote, escaped_cons_quote, List.cons_append, List.cons_append, read?_escaped_quote,
        ih absent.2, List.any_cons, kept, Bool.false_or, Text.units_cons]
      split <;> rfl
    · rw [escaped_cons quote, List.cons_append, read?_cons d quote (Ne.symm absent.1), ih absent.2,
        List.any_cons, Text.units_cons]
      by_cases breaks : d.breaksLine c = true
      · simp [breaks]
      · rw [if_neg breaks, Bool.not_eq_true _ |>.mp breaks, Bool.false_or]
        split <;> rfl

end ScriptDialect

namespace Localization

variable {t : Localization}

theorem quote_eq_escaped (text : Text) : quote text = '\'' :: (ScriptDialect.escaped text ++ ['\'']) :=
  quote_eq text

theorem value?_quote_iff (d : ScriptDialect) (text : Text) :
    d.value? (quote text) = some text.units ↔
      '\\' ∉ text ∧ ∀ c ∈ text, d.breaksLine c = false := by
  rw [quote_eq_escaped, ScriptDialect.value?]
  by_cases backslash : '\\' ∈ text
  · refine iff_of_false (fun read => ?_) fun both => both.1 backslash
    exact absurd ((d.length_of_read? read).2 backslash) (Nat.lt_irrefl _)
  · rw [d.read?_of_not_mem backslash, and_iff_right backslash]
    simp

theorem built_key {key text raw : Text} (known : t.table.lookup? (t.fullKey key) t.locale = some text) :
    t.built (.item raw (.key key)) = quote text := by
  rw [LocaleTable.lookup?_eq_written?, fullKey_eq] at known
  rw [built, keyOf?, keyIn?, Option.map_some, Option.bind_some, known, quote_eq]

-- Where a key with a text is called for, its text is spliced in between quotes, and what stands
-- there means that text exactly if no backslash is in it and nothing that ends the line.
theorem spliced_value_iff (d : ScriptDialect) {source raw key text : Text}
    {ps qs : List (Piece TextCall)}
    (reading : Scanner.Reading TextCall.Written source (ps ++ .item raw (.key key) :: qs))
    (known : t.table.lookup? (t.fullKey key) t.locale = some text) :
    { t with mode := .buildTime }.apply source =
      ps.flatMap t.built ++ quote text ++ qs.flatMap t.built ∧
    (d.value? (quote text) = some text.units ↔
      '\\' ∉ text ∧ ∀ c ∈ text, d.breaksLine c = false) := by
  refine ⟨?_, value?_quote_iff d text⟩
  have pieces := TextCall.scanner_takes.eq_pieces reading
  have rewritten : { t with mode := .buildTime }.apply source =
      (TextCall.scanner.pieces source).flatMap t.built := by
    rw [apply_eq, ← rewritten_buildTime]
    rfl
  rw [rewritten, ← pieces, List.flatMap_append, List.flatMap_cons, built_key known,
    List.append_assoc]

theorem spliced_value_iff_quotes :
    let text := "it's 'ok' 👍".toList
    let t : Localization :=
      { module := "m".toList, component := "c".toList, locale := "en".toList, mode := .buildTime
        table := .ofList [("m.c.k".toList, .ofList [("en".toList, text)])] }
    t.apply "a $t( 'k')$t(k)".toList = "a 'it\\'s \\'ok\\' 👍'$t(k)".toList ∧
      ∀ d : ScriptDialect, d.value? "'it\\'s \\'ok\\' 👍'".toList = some (Text.units text) := by
  intro text t
  have pieces : TextCall.scanner.pieces "a $t( 'k')$t(k)".toList =
      [.char 'a', .char ' '] ++ .item "$t( 'k')".toList (.key "k".toList) ::
        [.item "$t(k)".toList (.identifier "k".toList)] := by
    decide +kernel
  have reading := TextCall.scanner_takes.reading "a $t( 'k')$t(k)".toList
  rw [pieces] at reading
  have known : t.table.lookup? (t.fullKey "k".toList) t.locale = some text := by decide
  have quoted : quote text = "'it\\'s \\'ok\\' 👍'".toList := by decide +kernel
  have plain : ∀ d : ScriptDialect, '\\' ∉ text ∧ ∀ c ∈ text, d.breaksLine c = false := by
    rintro ⟨octal, separated⟩
    refine ⟨by decide, Text.forall_of_all ?_⟩
    cases octal <;> cases separated <;> decide
  have spliced (d : ScriptDialect) := spliced_value_iff d reading known
  rw [quoted] at spliced
  exact ⟨(spliced ⟨true, true⟩).1, fun d => (spliced d).2.2 (plain d)⟩

theorem spliced_otherwise :
    let text := "a\\b".toList
    let t : Localization :=
      { module := "m".toList, component := "c".toList, locale := "en".toList, mode := .buildTime
        table := .ofList [("m.c.k".toList, .ofList [("en".toList, text)])] }
    t.apply "$t('k')".toList = quote text ∧
      ∀ octal separated,
        ScriptDialect.value? ⟨octal, separated⟩ (quote text) ≠ some (Text.units text) ∧
          ∀ broken ∈ ["\\'".toList, "\\".toList, "a\nb".toList],
            ScriptDialect.value? ⟨octal, separated⟩ (quote broken) = none := by
  decide +kernel

end Localization
end ComponentLoader
