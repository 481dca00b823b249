import LineScript.Config.Placing
import LineScript.Yaml.Tagged

/-!
# Nodes

The structure of a document is a tree of nodes: texts, lists and mappings, each perhaps with a tag. A node may stand
inside itself, by the name of its anchor.

An entry of a mapping whose key is the merge word gives way to the entries of its value, which is a mapping or a list of
mappings, the earlier ones first. A key that comes again replaces the value and keeps its place.
-/

namespace LineScript.Yaml

open LineScript.Config (Datum)

inductive Node where
  | plain (text : List Char)
  | quoted (text : List Char)
  | tagged (tag : Tag) (text : List Char)
  | list (items : List Node)
  | mapping (entries : List (Node × Node))
  | marked (tag : Tag) (content : Node)
  | outer (name : List Char)
  deriving Repr, Inhabited, BEq

def Node.entries? : Node → Option (List (Node × Node))
  | .mapping entries => some entries
  | .marked _ (.mapping entries) => some entries
  | _ => none

def Node.items? : Node → Option (List Node)
  | .list items => some items
  | .marked _ (.list items) => some items
  | _ => none

mutual

def Node.count : Node → Nat
  | .list items => countItems items + 1
  | .mapping entries => countEntries entries + 1
  | .marked _ content => content.count + 1
  | .plain _ | .quoted _ | .tagged _ _ | .outer _ => 1

def countItems : List Node → Nat
  | [] => 0
  | item :: items => item.count + countItems items

def countEntries : List (Node × Node) → Nat
  | [] => 0
  | (key, value) :: entries => key.count + value.count + countEntries entries

end

/-! ## Merging -/

/-- A key; the word for a default value stands for itself. -/
def plainKey : Node → Node
  | .plain text => if text = fallbackWord then .quoted text else .plain text
  | .tagged tag text => if tag = .fallback then .quoted text else .tagged tag text
  | .marked tag content => if tag = .fallback then .marked .text content else .marked tag content
  | node => node

def isMergeKey : Node → Bool
  | .plain text => text = mergeWord
  | .tagged tag _ => tag = .merge
  | .marked tag _ => tag = .merge
  | _ => false

def isFallbackKey : Node → Bool
  | .plain text => text = fallbackWord
  | .tagged tag _ => tag = .fallback
  | .marked tag _ => tag = .fallback
  | _ => false

mutual

def splitEntries : List (Node × Node) → Except Fault (List (Node × Node) × List (Node × Node))
  | [] => .ok ([], [])
  | (key, value) :: entries => do
    if isMergeKey key then
      let source ← mergeSource value
      let (merged, own) ← splitEntries entries
      return (source ++ merged, own)
    else
      let (merged, own) ← splitEntries entries
      return (merged, (plainKey key, value) :: own)

def mergeSource : Node → Except Fault (List (Node × Node))
  | .mapping entries => do
    let (merged, own) ← splitEntries entries
    return merged ++ own
  | .list items => mergeSources items
  | .marked _ content => mergeSource content
  | .outer _ => .ok []
  | _ => .error .badMerge

/-- The entries that mappings give, those of the last one first. -/
def mergeSources : List Node → Except Fault (List (Node × Node))
  | [] => .ok []
  | .mapping entries :: items => do
    let (merged, own) ← splitEntries entries
    return (← mergeSources items) ++ merged ++ own
  | .marked _ (.mapping entries) :: items => do
    let (merged, own) ← splitEntries entries
    return (← mergeSources items) ++ merged ++ own
  | .outer _ :: items => mergeSources items
  | _ :: _ => .error .badMerge

end

def allEntries (entries : List (Node × Node)) : Except Fault (List (Node × Node)) := do
  let (merged, own) ← splitEntries entries
  return merged ++ own

/-! ## Texts -/

mutual

/-- The text that a node amounts to: a mapping amounts to its default value. -/
def Node.textContent? : Node → Option (List Char)
  | .plain text => some text
  | .quoted text => some text
  | .tagged _ text => some text
  | .list _ => none
  | .mapping entries => fallbackText? entries
  | .marked _ content => content.textContent?
  | .outer _ => none

def fallbackText? : List (Node × Node) → Option (List Char)
  | [] => none
  | (key, value) :: entries => if isFallbackKey key then value.textContent? else fallbackText? entries

end

/-- The data of a node that is a text, or is said to be one; nothing for a collection. -/
def Node.textDatum? : Node → Except Fault (Option Datum)
  | .plain text => (plainDatum text).map some
  | .quoted text => .ok (some (.text (String.ofList text)))
  | .tagged tag text => if tag.isCollection then .ok none else (taggedDatum tag text).map some
  | .list _ | .mapping _ | .outer _ => .ok none
  | .marked tag content =>
    if tag.isCollection then .ok none
    else if tag.isScalar then
      match content.textContent? with
      | some text => (taggedDatum tag text).map some
      | none => .error .wrongKind
    else (taggedDatum tag []).map some

/-! ## The first fault -/

/-- A node that is part of a level is looked at: a text has to stand for data, and a collection is left for
the next level, unless it is around the level. -/
def checkPart (node : Node) : Except Fault (List Node) := do
  match ← node.textDatum?, node with
  | some _, _ | none, .outer _ => return []
  | none, node => return [node]

def checkPair (entry : Node × Node) : Except Fault (List Node) := do
  return (← checkPart entry.1) ++ (← checkPart entry.2)

def checkEntry (entry : Node × Node) : Except Fault (List Node) := do
  if (← entry.1.textDatum?).isNone then .error .collectionKey else checkPart entry.2

def onlyEntry (item : Node) : Except Fault (Node × Node) :=
  match item.entries? with
  | some [entry] => .ok entry
  | _ => .error .wrongKind

def checkOnlyEntry (item : Node) : Except Fault (List Node) := do
  checkPair (← onlyEntry item)

def Node.kind : Node → Tag
  | .list _ => .list
  | .mapping _ => .mapping
  | .tagged tag _ => tag
  | .marked tag _ => tag
  | .plain _ | .quoted _ => .text
  | .outer _ => .unknown

/-- The parts of a collection are looked at; the result has the collections among them. -/
def checkParts (node : Node) : Except Fault (List Node) :=
  match node.kind, node.items?, node.entries? with
  | .list, some items, _ => do return (← items.mapM checkPart).flatten
  | .mapping, _, some entries => do return (← (← allEntries entries).mapM checkEntry).flatten
  | .set, _, some entries => do return (← (← allEntries entries).mapM checkEntry).flatten
  | .pairs, some items, _ => do return (← items.mapM checkOnlyEntry).flatten
  | .ordered, some items, _ => do return (← items.mapM checkOnlyEntry).flatten
  | _, _, _ => .error .wrongKind

def checkLevels : Nat → List Node → Except Fault Unit
  | 0, _ => .ok ()
  | _ + 1, [] => .ok ()
  | fuel + 1, node :: nodes => do checkLevels fuel (nodes ++ (← checkParts node))

/-! ## Data -/

/-- Two pieces of data are the same key. Booleans count as numbers. -/
def sameKey : Datum → Datum → Bool
  | .null, .null => true
  | .text left, .text right => left = right
  | .moment left, .moment right => left.same right
  | .bytes left, .bytes right => left = right
  | .number left, .number right => left == right
  | .number left, right => sameNumber left right
  | left, .number right => sameNumber right left
  | left, right =>
    match whole? left, whole? right with
    | some left, some right => left = right
    | _, _ => false
where
  whole? : Datum → Option Int
    | .boolean value => some (if value then 1 else 0)
    | .integer value => some value
    | _ => none
  sameNumber (x : Float) (datum : Datum) : Bool :=
    match whole? datum with
    | some n => Number.isInteger x && Number.truncate? x = some n
    | none => false

def setEntry (key value : Datum) : List (Datum × Datum) → List (Datum × Datum)
  | [] => [(key, value)]
  | entry :: entries =>
    if sameKey entry.1 key then (entry.1, value) :: entries else entry :: setEntry key value entries

/-- The entries of data without those whose keys come again. -/
def setEntries (entries : List (Datum × Datum)) : List (Datum × Datum) :=
  entries.foldl (fun done entry => setEntry entry.1 entry.2 done) []

/-- The data of entries, each part of which gives data by itself. -/
def entryData (datum : Node → Except Fault Datum) (entries : List (Node × Node)) :
    Except Fault (List (Datum × Datum)) :=
  entries.mapM fun entry => return (← datum entry.1, ← datum entry.2)

def collectionDatum (datum : Node → Except Fault Datum) (node : Node) : Except Fault Datum :=
  match node.kind, node.items?, node.entries? with
  | .list, some items, _ => return .list (← items.mapM datum)
  | .mapping, _, some entries => do return .mapping (setEntries (← entryData datum (← allEntries entries)))
  | .set, _, some entries => do
    return .set (Config.setOrder ((setEntries (← entryData datum (← allEntries entries))).map Prod.fst))
  | .pairs, some items, _ | .ordered, some items, _ => do
    let entries ← entryData datum (← items.mapM onlyEntry)
    return .list (entries.map fun entry => .pair entry.1 entry.2)
  | _, _, _ => .error .wrongKind

/-- The nodes that have anchors, by their names, if one of them stands inside itself. -/
abbrev Anchored := List (List Char × Node)

/-- The data that a node stands for, inside the data of the nodes around it. A node inside itself is not built again. -/
def Node.datumWithin (anchored : Anchored) : Nat → List Node → Node → Except Fault Datum
  | 0, _, _ => .error .badStructure
  | depth + 1, around, node => do
    match ← node.textDatum?, node with
    | some datum, _ => return datum
    | none, .outer name =>
      match anchored.lookup name with
      | some found => datumWithin anchored depth around found
      | none => throw .unknownAlias
    | none, node =>
      if !anchored.isEmpty && around.contains node then return .again node.entries?.isSome
      else collectionDatum (datumWithin anchored depth (node :: around)) node

/-- The number that bounds how deeply the data of a node nests: each node with an anchor is entered at most
once more. -/
def Node.depthBound (anchored : Anchored) (node : Node) : Nat :=
  (anchored.foldl (fun total entry => total + entry.2.count) node.count + 1) * (anchored.length + 2)

/-- The data that a node stands for. The parts of the outermost node are built as if they stood alone. -/
def Node.datum (anchored : Anchored) (node : Node) : Except Fault Datum := do
  checkLevels node.count (← checkPart node)
  match ← node.textDatum? with
  | some datum => return datum
  | none => collectionDatum (datumWithin anchored (node.depthBound anchored) []) node

end LineScript.Yaml
