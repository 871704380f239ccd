import ComponentLoader.Proofs.Locale.Overrides
import ComponentLoader.Proofs.Template.Calls

namespace ComponentLoader
namespace Localization

def keyIn? : Piece TextCall → Option Text
  | .item _ (.key k) => some k
  | _ => none

def keyOf? (t : Localization) (p : Piece TextCall) : Option Text :=
  (keyIn? p).map fun k => Text.join ['.'] [t.module, t.component, k]

def literal (text : Text) : Text :=
  '\'' :: (text.flatMap fun c => if c = '\'' then ['\\', '\''] else [c]) ++ ['\'']

def built (t : Localization) (p : Piece TextCall) : Text :=
  match (t.keyOf? p).bind (t.table.written? · t.locale) with
  | some text => literal text
  | none => p.raw

def missing? (t : Localization) (p : Piece TextCall) : Option Warning :=
  match t.keyOf? p with
  | none => none
  | some key =>
    match t.table.written? key t.locale with
    | some _ => none
    | none => some (.missingText key t.locale)

-- The piece as it is left to run time.
def completed (t : Localization) (p : Piece TextCall) : Piece TextCall :=
  match t.keyOf? p with
  | some key => .item ("$t('".toList ++ key ++ "')".toList) (.key key)
  | none => p

-- Neither part of the keys ends a key, and the first ends no call.
structure Clean (t : Localization) : Prop where
  keyed : ∀ c ∈ t.module ++ t.component, TextCall.isKeyChar c = true
  closing : ')' ∉ t.module

variable {t : Localization}

theorem fullKey_eq (t : Localization) (key : Text) :
    t.fullKey key = Text.join ['.'] [t.module, t.component, key] := by
  simp [fullKey, Text.join]

theorem quote_eq (text : Text) : quote text = literal text := by
  have inner : Text.replaceAll ['\''] ['\\', '\''] text =
      text.flatMap fun c => if c = '\'' then ['\\', '\''] else [c] := by
    induction text with
    | nil => exact Text.replaceAll_nil _ _
    | cons c text ih =>
      rw [List.flatMap_cons, ← ih]
      by_cases mark : c = '\''
      · rw [mark, if_pos rfl]
        exact Text.replaceAll_append (by simp) _ text
      · rw [if_neg mark]
        refine Text.replaceAll_cons _ (Text.dropPrefix?_eq_none.2 fun found => mark ?_)
        exact (List.cons_prefix_cons.1 found).1.symm
  rw [quote, inner, literal]

theorem inert_of_not_mayOccur {source : Text} (nothing : mayOccur source = false) :
    Text.Inert TextCall.scanner.Begins [] source := by
  refine Text.inert_of_suffix fun s part _ begins => ?_
  obtain ⟨⟨call, rest⟩, found⟩ := Option.isSome_iff_exists.1 begins
  obtain ⟨raw, ⟨gap₁, gap₂, -, -, -, rfl⟩, whole⟩ := TextCall.eq_of_scanner found
  rw [List.append_nil] at whole
  have front : "$t(".toList <+: s := by
    rw [whole, TextCall.text, List.append_assoc]
    exact List.prefix_append _ _
  have present : mayOccur source = true :=
    Text.contains_iff.2 (front.isInfix.trans part.isInfix)
  rw [nothing] at present
  cases present

theorem apply_eq (t : Localization) (source : Text) :
    t.apply source = TextCall.scanner.replace t.render source := by
  unfold apply
  split
  · rfl
  · next nothing =>
    exact (Scanner.replace_eq_self (inert_of_not_mayOccur (by simpa using nothing))).symm

theorem warnings_eq (t : Localization) (source : Text) :
    t.warnings source = (TextCall.scanner.items source).filterMap t.warning? := by
  unfold warnings
  split
  · rfl
  · next nothing =>
    have chars := Scanner.pieces_append_of_inert (inert_of_not_mayOccur (by simpa using nothing))
    rw [List.append_nil, Scanner.pieces_nil, List.append_nil] at chars
    rw [Scanner.items, chars, List.filterMap_map]
    simp [Function.comp_def, Piece.value?]

theorem rewritten_buildTime (t : Localization) :
    Piece.rewritten { t with mode := .buildTime }.render = t.built := by
  funext p
  cases p with
  | char c => rfl
  | item raw call =>
    cases call with
    | identifier name => rfl
    | key k =>
      simp only [Piece.rewritten, render, text?, fullKey_eq, LocaleTable.lookup?_eq_written?, built,
        keyOf?, keyIn?, Option.map_some, Option.bind_some, quote_eq]
      rfl

theorem rewritten_runTime (t : Localization) :
    Piece.rewritten { t with mode := .runTime }.render = fun p => (t.completed p).raw := by
  funext p
  cases p with
  | char c => rfl
  | item raw call =>
    cases call with
    | identifier name => rfl
    | key k =>
      simp only [Piece.rewritten, render, fullKey_eq, completed, keyOf?, keyIn?, Option.map_some]
      rfl

theorem warning?_buildTime (t : Localization) (p : Piece TextCall) :
    p.value?.bind { t with mode := .buildTime }.warning? = t.missing? p := by
  cases p with
  | char c => rfl
  | item raw call =>
    cases call with
    | identifier name => rfl
    | key k =>
      simp only [Piece.value?, Option.bind_some, warning?, text?, fullKey_eq,
        LocaleTable.lookup?_eq_written?, missing?, keyOf?, keyIn?, Option.map_some]
      cases t.table.written? (Text.join ['.'] [t.module, t.component, k]) t.locale with
      | none => rfl
      | some text => rfl

theorem warning?_runTime (t : Localization) (call : TextCall) :
    { t with mode := .runTime }.warning? call = none := by
  cases call with
  | key k => rfl
  | identifier name => rfl

theorem keyIn?_completed (t : Localization) (p : Piece TextCall) :
    keyIn? (t.completed p) = t.keyOf? p := by
  unfold completed
  split
  · next key same => rw [same, keyIn?]
  · next none_ =>
    rw [none_]
    exact Option.map_eq_none_iff.1 none_

theorem completed_key (t : Localization) (raw k : Text) :
    t.completed (.item raw (.key k)) =
      .item (TextCall.text [] (.key (t.fullKey k)) []) (.key (t.fullKey k)) := by
  rw [fullKey_eq]
  simp [completed, keyOf?, keyIn?, TextCall.text, TextCall.argumentText]

theorem Clean.valid (clean : t.Clean) {k : Text} (valid : TextCall.Valid (.key k)) :
    TextCall.Valid (.key (t.fullKey k)) := by
  intro c member
  simp only [fullKey, List.mem_append, List.mem_cons] at member
  rcases member with (inside | rfl | inside) | rfl | inside
  · exact clean.keyed c (List.mem_append_left _ inside)
  · decide
  · exact clean.keyed c (List.mem_append_right _ inside)
  · decide
  · exact valid c inside

-- By induction on the reading, from any place in front: what reads as a call there once the keys
-- behind are complete does so in the source.
theorem Clean.prefix_of_completed (clean : t.Clean) {s raw : Text} {ps : List (Piece TextCall)}
    {call : TextCall} (here : TextCall.Written raw call)
    (reading : Scanner.Reading TextCall.Written s ps) {q : Text} (some_ : q ≠ [])
    (found : raw <+: q ++ (ps.map t.completed).flatMap Piece.raw) : raw <+: q ++ s := by
  induction reading generalizing q with
  | nil => exact found
  | @char c s ps nothing rest ih =>
    rw [List.map_cons, List.flatMap_cons, ← List.append_assoc] at found
    rw [List.append_cons]
    exact ih (List.append_ne_nil_of_left_ne_nil some_ _) found
  | @item raw' call' s ps written rest ih =>
    cases call' with
    | identifier name =>
      rw [List.map_cons, List.flatMap_cons, ← List.append_assoc] at found
      rw [← List.append_assoc]
      exact ih (List.append_ne_nil_of_left_ne_nil some_ _) found
    | key k =>
      obtain ⟨gap₁, gap₂, -, -, -, rfl⟩ := written
      have spelled : ((Piece.item (TextCall.text gap₁ (.key k) gap₂) (.key k) :: ps).map
          t.completed).flatMap Piece.raw = "$t(".toList ++ '\'' :: (t.module ++ '.' ::
            (t.component ++ '.' :: (k ++ ('\'' :: ')' :: (ps.map t.completed).flatMap Piece.raw)))) := by
        rw [List.map_cons, List.flatMap_cons, completed_key]
        simp [Piece.raw, TextCall.text, TextCall.argumentText, fullKey]
      rw [spelled] at found
      have short := TextCall.prefix_of_longer_key here some_ clean.closing found
      rw [TextCall.text, List.append_assoc, ← List.append_assoc]
      exact short.trans (List.prefix_append _ _)

theorem Clean.reading_completed (clean : t.Clean) {s : Text} {ps : List (Piece TextCall)}
    (reading : Scanner.Reading TextCall.Written s ps) :
    Scanner.Reading TextCall.Written ((ps.map t.completed).flatMap Piece.raw)
      (ps.map t.completed) := by
  induction reading with
  | nil => exact .nil
  | @char c s ps nothing rest ih =>
    refine .char ?_ ih
    intro raw call here found
    exact nothing raw call here (clean.prefix_of_completed here rest (q := [c]) (by simp) found)
  | @item raw call s ps written rest ih =>
    cases call with
    | identifier name => exact .item written ih
    | key k =>
      obtain ⟨gap₁, gap₂, blank₁, blank₂, valid, -⟩ := written
      rw [List.map_cons, completed_key]
      refine .item ⟨[], [], ?_, ?_, clean.valid valid, rfl⟩ ih
      · intro c member
        cases member
      · intro c member
        cases member

-- A source is read in one way. Built, each key with a text gives way to it, in quotes, and each
-- other key gives a warning. Left to run time, each key is completed and no warning given, and what
-- comes out is read as the same calls with the same keys as were looked up.
theorem apply_reading (t : Localization) (source : Text) :
    ∃ ps, Scanner.Reading TextCall.Written source ps ∧
      (∀ qs, Scanner.Reading TextCall.Written source qs → qs = ps) ∧
      ps.flatMap Piece.raw = source ∧
      { t with mode := .buildTime }.apply source = ps.flatMap t.built ∧
      { t with mode := .buildTime }.warnings source = ps.filterMap t.missing? ∧
      { t with mode := .runTime }.apply source = (ps.map t.completed).flatMap Piece.raw ∧
      { t with mode := .runTime }.warnings source = [] ∧
      (ps.map t.completed).map keyIn? = ps.map t.keyOf? ∧
      (t.Clean → Scanner.Reading TextCall.Written ({ t with mode := .runTime }.apply source)
        (ps.map t.completed)) := by
  have takes := TextCall.scanner_takes
  have reading := takes.reading source
  have static : { t with mode := .buildTime }.apply source =
      (TextCall.scanner.pieces source).flatMap t.built := by
    rw [apply_eq, ← rewritten_buildTime]
    rfl
  have missing : { t with mode := .buildTime }.warnings source =
      (TextCall.scanner.pieces source).filterMap t.missing? := by
    rw [warnings_eq, Scanner.items, List.filterMap_filterMap]
    exact congrArg (List.filterMap · _) (funext (warning?_buildTime t))
  have dynamic : { t with mode := .runTime }.apply source =
      ((TextCall.scanner.pieces source).map t.completed).flatMap Piece.raw := by
    rw [apply_eq, List.flatMap_map]
    exact congrArg (List.flatMap · _) (rewritten_runTime t)
  have silent : { t with mode := .runTime }.warnings source = [] := by
    rw [warnings_eq, List.filterMap_eq_nil_iff]
    exact fun call _ => warning?_runTime t call
  have keys : ((TextCall.scanner.pieces source).map t.completed).map keyIn? =
      (TextCall.scanner.pieces source).map t.keyOf? := by
    rw [List.map_map]
    exact congrArg (List.map · _) (funext (keyIn?_completed t))
  refine ⟨_, reading, fun qs => takes.eq_pieces, Scanner.flatMap_raw_pieces takes.exact source,
    static, missing, dynamic, silent, keys, ?_⟩
  intro clean
  rw [dynamic]
  exact clean.reading_completed reading

theorem apply_reading_nested_calls :
    let table : LocaleTable := .ofList [
      ("vux.x-button.a".toList, .ofList [("zh".toList, ['x']), ("en".toList, "it's".toList)]),
      ("vux.x-button.d".toList, .ofList [("zh".toList, ['d'])])]
    let t : Localization := ⟨"vux".toList, "x-button".toList, "en".toList, .runTime, table⟩
    let source := "$t( 'a' ) $t(b.c) $t($t('d')) $t('e')$t('e')".toList
    t.Clean ∧ ∃ ps, Scanner.Reading TextCall.Written source ps ∧
      ps.flatMap t.built = "'it\\'s' $t(b.c) $t($t('d')) $t('e')$t('e')".toList ∧
      { t with mode := .buildTime }.apply source = ps.flatMap t.built ∧
      ps.filterMap t.missing? = [.missingText "vux.x-button.d".toList "en".toList,
        .missingText "vux.x-button.e".toList "en".toList,
        .missingText "vux.x-button.e".toList "en".toList] ∧
      { t with mode := .buildTime }.warnings source = ps.filterMap t.missing? ∧
      t.apply source = ("$t('vux.x-button.a') $t(b.c) $t($t('vux.x-button.d')) " ++
        "$t('vux.x-button.e')$t('vux.x-button.e')").toList ∧
      t.warnings source = [] ∧
      Scanner.Reading TextCall.Written (t.apply source) (ps.map t.completed) := by
  intro table t source
  have clean : t.Clean := ⟨Text.forall_of_all (by decide), by decide⟩
  obtain ⟨ps, reading, -, -, static, missing, -, silent, -, again⟩ := apply_reading t source
  refine ⟨clean, ps, reading, ?_, static, ?_, missing, by decide +kernel, silent, again clean⟩
  · rw [← static]
    decide +kernel
  · rw [← missing]
    decide +kernel

end Localization
end ComponentLoader
