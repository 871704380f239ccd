import ComponentLoader.Yaml.Token

namespace ComponentLoader.Yaml

inductive Node where
  | scalar (tag : Option Text) (plain : Bool) (text : Text)
  | sequence (tag : Option Text) (items : List Node)
  | mapping (tag : Option Text) (entries : List (Node × Node))
  | alias (anchor : Nat)
  deriving Inhabited

namespace Node

def nothing : Node := scalar none true []

end Node

-- An anchored node; of two with one number the one that began later counts.
structure Anchored where
  number : Nat
  began : Nat
  node : Node

structure Document where
  root : Node
  anchored : List Anchored
  events : Nat

def Document.anchored? (d : Document) (number : Nat) : Option Node :=
  ((d.anchored.filter fun a => a.number == number).foldl (fun best a =>
    match best with
    | some b => if b.began < a.began then some a else some b
    | none => some a) none).map (·.node)

structure Build where
  tokens : List Token
  shorthands : List (Text × Text)
  names : List (Text × Nat) := []
  anchored : List Anchored := []
  began : Nat := 0
  events : Nat := 0

namespace Build

def drop (b : Build) : Build := { b with tokens := b.tokens.drop 1 }

def count (b : Build) : Build := { b with events := b.events + 1 }

def nothing (b : Build) : Node × Build := (.nothing, b.count)

def tag? (b : Build) (handle suffix : Text) : Option Text :=
  if handle = [] then some suffix
  else (b.shorthands.find? fun s => s.1 == handle).map fun s => s.2 ++ suffix

-- A number is how many names there were; a name that comes again does not raise it.
def name (b : Build) (anchor : Text) : Nat × Build :=
  let number := b.names.length
  let names := (b.names.filter fun n => n.1 ≠ anchor) ++ [(anchor, number)]
  (number, { b with names })

def properties (b : Build) : Option (Option Text × Option Text × Build) :=
  match b.tokens with
  | .anchor a :: .tag h s :: r => do
    return (some a, some (← b.tag? h s), { b with tokens := r })
  | .tag h s :: .anchor a :: r => do
    return (some a, some (← b.tag? h s), { b with tokens := r })
  | .anchor a :: r => some (some a, none, { b with tokens := r })
  | .tag h s :: r => do return (none, some (← b.tag? h s), { b with tokens := r })
  | _ => some (none, none, b)

def endsBlockEntry : List Token → Bool
  | .entry :: _ => true
  | .blockEnd :: _ => true
  | _ => false

def endsIndentless : List Token → Bool
  | .key :: _ => true
  | .value :: _ => true
  | t => endsBlockEntry t

def endsBlockPart : List Token → Bool
  | .key :: _ => true
  | .value :: _ => true
  | .blockEnd :: _ => true
  | _ => false

def endsFlowValue (last : Token) : List Token → Bool
  | .comma :: _ => true
  | t :: _ => t == last
  | [] => false

def endsFlowKey (last : Token) : List Token → Bool
  | .value :: _ => true
  | t => endsFlowValue last t

mutual

-- A node. Block collections may begin where `block` holds, and sequences without indentation of
-- their own where `indentless` does.
def node : (fuel : Nat) → (block indentless : Bool) → Build → Option (Node × Build)
  | 0, _, _, _ => none
  | fuel + 1, block, indentless, b =>
    match b.tokens with
    | .alias a :: _ =>
      (b.names.find? fun n => n.1 == a).map fun n => (.alias n.2, b.drop.count)
    | _ =>
      match b.properties with
      | none => none
      | some (anchor, tag, b) =>
        let (number, b) := match anchor with
          | some a => let (n, b) := b.name a; (some n, b)
          | none => (none, b)
        let began := b.began
        let b := { b with began := began + 1 }.count
        let finish (r : Option (Node × Build)) : Option (Node × Build) :=
          r.map fun (n, b) =>
            match number with
            | some number => (n, { b with anchored := ⟨number, began, n⟩ :: b.anchored })
            | none => (n, b)
        match b.tokens with
        | .scalar plain text :: _ =>
          finish (some (.scalar tag plain text, b.drop))
        | .flowSequence :: _ =>
          finish ((flowItems fuel true [] b.drop).map fun (r, b) => (.sequence tag r, b.count))
        | .flowMapping :: _ =>
          finish ((flowEntries fuel true [] b.drop).map fun (r, b) => (.mapping tag r, b.count))
        | .entry :: _ =>
          if indentless then
            finish ((indentlessItems fuel [] b).map fun (r, b) => (.sequence tag r, b.count))
          else if anchor.isSome ∨ tag.isSome then finish (some (.scalar tag true [], b))
          else none
        | .blockSequence :: _ =>
          if block then
            finish ((blockItems fuel [] b.drop).map fun (r, b) => (.sequence tag r, b.count))
          else if anchor.isSome ∨ tag.isSome then finish (some (.scalar tag true [], b))
          else none
        | .blockMapping :: _ =>
          if block then
            finish ((blockEntries fuel [] b.drop).map fun (r, b) => (.mapping tag r, b.count))
          else if anchor.isSome ∨ tag.isSome then finish (some (.scalar tag true [], b))
          else none
        | _ =>
          if anchor.isSome ∨ tag.isSome then finish (some (.scalar tag true [], b)) else none

def blockItems : (fuel : Nat) → (done : List Node) → Build → Option (List Node × Build)
  | 0, _, _ => none
  | fuel + 1, done, b =>
    match b.tokens with
    | .entry :: r =>
      if endsBlockEntry r then
        let (n, b) := b.drop.nothing
        blockItems fuel (n :: done) b
      else
        match node fuel true false b.drop with
        | some (n, b) => blockItems fuel (n :: done) b
        | none => none
    | .blockEnd :: _ => some (done.reverse, b.drop)
    | _ => none

def indentlessItems : (fuel : Nat) → (done : List Node) → Build → Option (List Node × Build)
  | 0, _, _ => none
  | fuel + 1, done, b =>
    match b.tokens with
    | .entry :: r =>
      if endsIndentless r then
        let (n, b) := b.drop.nothing
        indentlessItems fuel (n :: done) b
      else
        match node fuel true false b.drop with
        | some (n, b) => indentlessItems fuel (n :: done) b
        | none => none
    | _ => some (done.reverse, b)

def blockEntries : (fuel : Nat) → (done : List (Node × Node)) → Build →
    Option (List (Node × Node) × Build)
  | 0, _, _ => none
  | fuel + 1, done, b =>
    match b.tokens with
    | .key :: r =>
      match if endsBlockPart r then some b.drop.nothing else node fuel true true b.drop with
      | none => none
      | some (k, b) =>
        match b.tokens with
        | .value :: r =>
          match if endsBlockPart r then some b.drop.nothing else node fuel true true b.drop with
          | some (v, b) => blockEntries fuel ((k, v) :: done) b
          | none => none
        | _ =>
          let (v, b) := b.nothing
          blockEntries fuel ((k, v) :: done) b
    | .blockEnd :: _ => some (done.reverse, b.drop)
    | _ => none

def flowItems : (fuel : Nat) → (first : Bool) → (done : List Node) → Build →
    Option (List Node × Build)
  | 0, _, _, _ => none
  | fuel + 1, first, done, b =>
    match b.tokens, first with
    | .flowSequenceEnd :: _, _ => some (done.reverse, b.drop)
    | .comma :: .flowSequenceEnd :: _, false => some (done.reverse, b.drop.drop)
    | .comma :: _, false => flowItem fuel done b.drop
    | _, true => flowItem fuel done b
    | _, false => none

def flowItem : (fuel : Nat) → (done : List Node) → Build → Option (List Node × Build)
  | 0, _, _ => none
  | fuel + 1, done, b =>
    match b.tokens with
    | .key :: r =>
      let b := b.drop.count
      -- A key of nothing takes the token behind it along.
      match if endsFlowKey .flowSequenceEnd r then some b.drop.nothing
        else node fuel false false b with
      | none => none
      | some (k, b) =>
        match b.tokens with
        | .value :: r =>
          match if endsFlowValue .flowSequenceEnd r then some b.drop.nothing
            else node fuel false false b.drop with
          | some (v, b) => flowItems fuel false (.mapping none [(k, v)] :: done) b.count
          | none => none
        | _ =>
          let (v, b) := b.nothing
          flowItems fuel false (.mapping none [(k, v)] :: done) b.count
    | _ =>
      match node fuel false false b with
      | some (n, b) => flowItems fuel false (n :: done) b
      | none => none

def flowEntries : (fuel : Nat) → (first : Bool) → (done : List (Node × Node)) → Build →
    Option (List (Node × Node) × Build)
  | 0, _, _, _ => none
  | fuel + 1, first, done, b =>
    match b.tokens, first with
    | .flowMappingEnd :: _, _ => some (done.reverse, b.drop)
    | .comma :: .flowMappingEnd :: _, false => some (done.reverse, b.drop.drop)
    | .comma :: _, false => flowEntry fuel done b.drop
    | _, true => flowEntry fuel done b
    | _, false => none

def flowEntry : (fuel : Nat) → (done : List (Node × Node)) → Build →
    Option (List (Node × Node) × Build)
  | 0, _, _ => none
  | fuel + 1, done, b =>
    match b.tokens with
    | .key :: r =>
      match if endsFlowKey .flowMappingEnd r then some b.drop.nothing
        else node fuel false false b.drop with
      | none => none
      | some (k, b) =>
        match b.tokens with
        | .value :: r =>
          match if endsFlowValue .flowMappingEnd r then some b.drop.nothing
            else node fuel false false b.drop with
          | some (v, b) => flowEntries fuel false ((k, v) :: done) b
          | none => none
        | _ =>
          let (v, b) := b.nothing
          flowEntries fuel false ((k, v) :: done) b
    | _ =>
      match node fuel false false b with
      | some (k, b) =>
        let (v, b) := b.nothing
        flowEntries fuel false ((k, v) :: done) b
      | none => none

end

def standard : List (Text × Text) :=
  [(['!'], ['!']), (['!', '!'], "tag:yaml.org,2002:".toList)]

def directives (versioned : Bool) (own : List (Text × Text)) :
    List Token → Option (List (Text × Text) × List Token)
  | .version major minor :: r =>
    if versioned ∨ major ≠ 1 ∨ (minor ≠ 1 ∧ minor ≠ 2) then none else directives true own r
  | .tagShorthand handle start :: r =>
    if own.any fun s => s.1 == handle then none
    else directives versioned (own ++ [(handle, start)]) r
  | r => some (own ++ standard, r)

def endsDocument : List Token → Bool
  | [] => true
  | .documentStart :: _ => true
  | .documentEnd :: _ => true
  | .version _ _ :: _ => true
  | .tagShorthand _ _ :: _ => true
  | _ => false

def opensDocument : List Token → Bool
  | .documentStart :: _ => true
  | .version _ _ :: _ => true
  | .tagShorthand _ _ :: _ => true
  | _ => false

def fuel (tokens : List Token) : Nat := 4 * tokens.length + 16

def body (tokens : List Token) : Option (Node × Build) :=
  if opensDocument tokens then do
    let (shorthands, rest) ← directives false [] tokens
    match rest with
    | .documentStart :: r =>
      let b : Build := { tokens := r, shorthands }
      if endsDocument r then some b.nothing else b.node (fuel r) true false
    | _ => none
  else
    Build.node (fuel tokens) true false { tokens, shorthands := standard }

end Build

def document? (source : Text) : Option (Option Document) := do
  let tokens ← tokens? source
  if tokens = [] then return none
  let (root, b) ← Build.body tokens
  let rest := b.tokens.dropWhile (· == .documentEnd)
  if rest = [] then return some ⟨root, b.anchored, b.events⟩ else none

end ComponentLoader.Yaml
