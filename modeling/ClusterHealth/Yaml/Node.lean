import ClusterHealth.Yaml.Layout

/-!
Documents as trees. A reference stays in the tree as the number of what it refers to, so that a
node may refer to itself and no reading of the tree is longer than its text. Tags are replaced by
their full names.
-/
namespace ClusterHealth.Yaml

inductive Node where
  | scalar (tag : Option String) (style : ScalarStyle) (text : String)
  | sequence (tag : Option String) (items : List Node)
  | mapping (tag : Option String) (entries : List (Node × Node))
  | reference (number : Nat)
  deriving Inhabited

/-- A scalar left out. -/
def Node.absent : Node := .scalar none .plain ""

/-- A tree and the nodes in it that have an anchor, in the order in which they begin, each with its
number. -/
structure Document where
  root : Node
  anchored : Array (Nat × Node) := #[]

/-- What a reference stands for: of all nodes with its number the last one. Any other node stands
for itself. -/
def Document.resolve (d : Document) : Node → Node
  | .reference number =>
    ((d.anchored.findRev? (·.1 == number)).map (·.2)).getD (.reference number)
  | node => node

/-- What a document's directives and anchors say so far. -/
structure Bindings where
  handles : List (String × String)
  /-- Names of anchors, with the numbers that they stand for. -/
  names : List (String × Nat) := []
  anchored : Array (Nat × Node) := #[]

def defaultHandles : List (String × String) := [("!", "!"), ("!!", "tag:yaml.org,2002:")]

/-- A part of a document that has been read, the bindings known behind it, and the rest. -/
abbrev Part (α : Type) := α × Bindings × List Token

/-- The full name of a tag. -/
def Bindings.tag? (b : Bindings) (handle suffix : String) : Option String :=
  if handle.isEmpty then some suffix
  else (b.handles.find? (·.1 == handle)).map fun (_, stem) => stem ++ suffix

/-- An anchor and a tag in front of a node, in either order. -/
structure Properties where
  anchor : Option String := none
  tag : Option String := none

def Properties.present (p : Properties) : Bool := p.anchor.isSome || p.tag.isSome

def readProperties (b : Bindings) : List Token → Option (Properties × List Token)
  | .anchor name :: .tag handle suffix :: rest
  | .tag handle suffix :: .anchor name :: rest => do
    some (⟨some name, some (← b.tag? handle suffix)⟩, rest)
  | .anchor name :: rest => some (⟨some name, none⟩, rest)
  | .tag handle suffix :: rest => do some (⟨none, some (← b.tag? handle suffix)⟩, rest)
  | tokens => some ({}, tokens)

/-- A node begins. Its number is how many names are known; a name given anew adds none, so that the
next new name has that number, too. -/
def Bindings.enter (b : Bindings) : Option String → Bindings
  | some name =>
    let number := b.names.length
    { b with
      names := (name, number) :: b.names.filter (·.1 != name)
      anchored := b.anchored.push (number, .absent) }
  | none => b

/-- The node with an anchor that was the `i`th to begin is complete. -/
def Bindings.leave (b : Bindings) (i : Nat) (node : Node) : Option String → Bindings
  | some _ => { b with anchored := b.anchored.modify i fun (number, _) => (number, node) }
  | none => b

def endsBlockItem : List Token → Bool
  | .blockEntry :: _ | .blockEnd :: _ => true
  | _ => false

def endsIndentlessItem : List Token → Bool
  | .blockEntry :: _ | .key :: _ | .value :: _ | .blockEnd :: _ => true
  | _ => false

def endsBlockField : List Token → Bool
  | .key :: _ | .value :: _ | .blockEnd :: _ => true
  | _ => false

def endsFlowKey : List Token → Bool
  | .value :: _ | .flowEntry :: _ | .flowMappingEnd :: _ => true
  | _ => false

def endsFlowValue : List Token → Bool
  | .flowEntry :: _ | .flowSequenceEnd :: _ | .flowMappingEnd :: _ => true
  | _ => false

/-- A comma stands in front of every item but the first. -/
def skipComma (first : Bool) (tokens : List Token) : Option (List Token) :=
  if first then some tokens
  else match tokens with
    | .flowEntry :: rest => some rest
    | _ => none

mutual

/-- Reads one node. `block` admits block collections, `indentless` a sequence whose entries stand
at the column of the mapping around it. -/
def readNode : Nat → Bool → Bool → Bindings → List Token → Option (Part Node)
  | 0, _, _, _, _ => none
  | _ + 1, _, _, b, .reference name :: rest =>
    (b.names.find? (·.1 == name)).map fun (_, number) => (.reference number, b, rest)
  | fuel + 1, block, indentless, b, tokens => do
    let (p, tokens) ← readProperties b tokens
    let (node, after, rest) ←
      readContent fuel block indentless p (b.enter p.anchor) tokens
    some (node, after.leave b.anchored.size node p.anchor, rest)

def readContent : Nat → Bool → Bool → Properties → Bindings → List Token → Option (Part Node)
  | 0, _, _, _, _, _ => none
  | fuel + 1, block, indentless, p, b, tokens =>
    match tokens with
    | .scalar style text :: rest => some (.scalar p.tag style text, b, rest)
    | .flowSequenceStart :: rest => do
      let (items, b, rest) ← readFlowItems fuel true b rest
      some (.sequence p.tag items, b, rest)
    | .flowMappingStart :: rest => do
      let (entries, b, rest) ← readFlowEntries fuel true b rest
      some (.mapping p.tag entries, b, rest)
    | tokens =>
      match block, indentless, tokens with
      | _, true, .blockEntry :: _ => do
        let (items, b, rest) ← readIndentless fuel b tokens
        some (.sequence p.tag items, b, rest)
      | true, _, .blockSequenceStart :: rest => do
        let (items, b, rest) ← readBlockItems fuel b rest
        some (.sequence p.tag items, b, rest)
      | true, _, .blockMappingStart :: rest => do
        let (entries, b, rest) ← readBlockEntries fuel b rest
        some (.mapping p.tag entries, b, rest)
      | _, _, tokens =>
        if p.present then some (.scalar p.tag .plain "", b, tokens) else none

/-- Reads a node unless its place is empty. -/
def readOr : Nat → Bool → Bool → Bool → Bindings → List Token → Option (Part Node)
  | 0, _, _, _, _, _ => none
  | fuel + 1, empty, block, indentless, b, tokens =>
    if empty then some (.absent, b, tokens) else readNode fuel block indentless b tokens

def readBlockItems : Nat → Bindings → List Token → Option (Part (List Node))
  | 0, _, _ => none
  | fuel + 1, b, .blockEntry :: rest => do
    let (item, b, rest) ← readOr fuel (endsBlockItem rest) true false b rest
    let (items, b, rest) ← readBlockItems fuel b rest
    some (item :: items, b, rest)
  | _ + 1, b, .blockEnd :: rest => some ([], b, rest)
  | _ + 1, _, _ => none

def readIndentless : Nat → Bindings → List Token → Option (Part (List Node))
  | 0, _, _ => none
  | fuel + 1, b, .blockEntry :: rest => do
    let (item, b, rest) ← readOr fuel (endsIndentlessItem rest) true false b rest
    let (items, b, rest) ← readIndentless fuel b rest
    some (item :: items, b, rest)
  | _ + 1, b, rest => some ([], b, rest)

def readBlockEntries : Nat → Bindings → List Token → Option (Part (List (Node × Node)))
  | 0, _, _ => none
  | _ + 1, b, .blockEnd :: rest => some ([], b, rest)
  | fuel + 1, b, .key :: rest => do
    let (key, b, rest) ← readOr fuel (endsBlockField rest) true true b rest
    let (value, b, rest) ← readBlockValue fuel b rest
    let (entries, b, rest) ← readBlockEntries fuel b rest
    some ((key, value) :: entries, b, rest)
  | _ + 1, _, _ => none

def readBlockValue : Nat → Bindings → List Token → Option (Part Node)
  | 0, _, _ => none
  | fuel + 1, b, .value :: rest => readOr fuel (endsBlockField rest) true true b rest
  | _ + 1, b, rest => some (.absent, b, rest)

/-- Reads the items of a flow sequence. A pair of key and value among them is a mapping of its
own. -/
def readFlowItems : Nat → Bool → Bindings → List Token → Option (Part (List Node))
  | 0, _, _, _ => none
  | _ + 1, _, b, .flowSequenceEnd :: rest => some ([], b, rest)
  | fuel + 1, first, b, tokens => do
    let rest ← skipComma first tokens
    match rest with
    | .flowSequenceEnd :: rest => some ([], b, rest)
    | .key :: rest => do
      let (key, b, rest) ← readPairKey fuel b rest
      let (value, b, rest) ← readFlowValue fuel b rest
      let (items, b, rest) ← readFlowItems fuel false b rest
      some (.mapping none [(key, value)] :: items, b, rest)
    | rest => do
      let (item, b, rest) ← readNode fuel false false b rest
      let (items, b, rest) ← readFlowItems fuel false b rest
      some (item :: items, b, rest)

/-- Reads the key of a pair in a flow sequence. If it is left out, the mark that stands in its place
goes with it. -/
def readPairKey : Nat → Bindings → List Token → Option (Part Node)
  | 0, _, _ => none
  | _ + 1, b, .value :: rest | _ + 1, b, .flowEntry :: rest
  | _ + 1, b, .flowSequenceEnd :: rest => some (.absent, b, rest)
  | fuel + 1, b, rest => readNode fuel false false b rest

def readFlowEntries : Nat → Bool → Bindings → List Token → Option (Part (List (Node × Node)))
  | 0, _, _, _ => none
  | _ + 1, _, b, .flowMappingEnd :: rest => some ([], b, rest)
  | fuel + 1, first, b, tokens => do
    let rest ← skipComma first tokens
    match rest with
    | .flowMappingEnd :: rest => some ([], b, rest)
    | .key :: rest => do
      let (key, b, rest) ← readOr fuel (endsFlowKey rest) false false b rest
      let (value, b, rest) ← readFlowValue fuel b rest
      let (entries, b, rest) ← readFlowEntries fuel false b rest
      some ((key, value) :: entries, b, rest)
    | rest => do
      let (key, b, rest) ← readNode fuel false false b rest
      let (entries, b, rest) ← readFlowEntries fuel false b rest
      some ((key, .absent) :: entries, b, rest)

def readFlowValue : Nat → Bindings → List Token → Option (Part Node)
  | 0, _, _ => none
  | fuel + 1, b, .value :: rest => readOr fuel (endsFlowValue rest) false false b rest
  | _ + 1, b, rest => some (.absent, b, rest)

end

/-- Directives in front of a document: at most one version, and each handle once. -/
def readDirectives (versioned : Bool) (handles : List (String × String)) :
    List Token → Option (List (String × String) × List Token)
  | .versionDirective :: rest => if versioned then none else readDirectives true handles rest
  | .tagDirective handle stem :: rest =>
    if handles.any (·.1 == handle) then none
    else readDirectives versioned ((handle, stem) :: handles) rest
  | tokens => some (handles, tokens)

def endsDocument : List Token → Bool
  | .versionDirective :: _ | .tagDirective _ _ :: _ | .documentStart :: _ | .documentEnd :: _
  | .streamEnd :: _ => true
  | _ => false

def onlyDocumentEnds : List Token → Bool
  | .documentEnd :: rest => onlyDocumentEnds rest
  | [.streamEnd] => true
  | _ => false

/-- The one document of `tokens`. Where nothing is written at all, the root is left out. -/
def documentOf? (tokens : List Token) : Option Document := do
  if tokens = [.streamEnd] then some { root := .absent }
  else
    let (handles, rest) ← readDirectives false [] tokens
    let marked := rest.head? = some .documentStart
    if !marked && rest.length ≠ tokens.length then none
    let rest := if marked then rest.tail else rest
    let b : Bindings := { handles := handles ++ defaultHandles }
    let (root, b, rest) ←
      readOr (4 * rest.length + 4) (marked && endsDocument rest) true false b rest
    if onlyDocumentEnds rest then some { root, anchored := b.anchored } else none

/-- The one document that `text` holds. -/
def parse? (text : String) : Option Document := do documentOf? (← tokens? text)

mutual

/-- How many steps a walk through a tree takes: two for a collection, beside what is in it, and one
for everything else. -/
def Node.steps : Node → Nat
  | .scalar .. | .reference _ => 1
  | .sequence _ items => itemSteps items + 2
  | .mapping _ entries => entrySteps entries + 2

def itemSteps : List Node → Nat
  | [] => 0
  | item :: rest => item.steps + itemSteps rest

def entrySteps : List (Node × Node) → Nat
  | [] => 0
  | (key, value) :: rest => key.steps + value.steps + entrySteps rest

end

end ClusterHealth.Yaml
