import LineScript.Yaml.Node
import LineScript.Yaml.Token

/-!
# Documents

A document is one node, and a node is a text, a list or a mapping, in a block or in brackets. Where nothing stands,
there is an empty text, which stands for null. Before a node stand perhaps its anchor and its tag, and an alias stands
for the node that has the anchor of its name, even inside that node.
-/

namespace LineScript.Yaml

open LineScript.Config (Datum)

/-! ## Reading tokens -/

structure Reader where
  tokens : List Token
  fault? : Option Fault
  handles : List (List Char × List Char)
  anchors : List (List Char)
  nodes : List (List Char × Node)
  nested : Bool

abbrev ReadM := StateT Reader (Except Fault)

def next? : ReadM (Option Token) := do
  let reader ← get
  match reader.tokens, reader.fault? with
  | token :: _, _ => return some token
  | [], some reason => throw reason
  | [], none => return none

def nextIn (tokens : List Token) : ReadM Bool := do
  match ← next? with
  | some token => return tokens.contains token
  | none => return false

def take : ReadM Unit :=
  modify fun reader => { reader with tokens := reader.tokens.tail }

def takeIf (token : Token) : ReadM Bool := do
  let found ← nextIn [token]
  if found then take
  return found

def expect (token : Token) : ReadM Unit := do
  if !(← takeIf token) then throw .badStructure

/-- A reader of nodes: whether blocks may stand there, and whether entries of a list may that open no
block. -/
abbrev NodeReader := Bool → Bool → ReadM Node

def emptyNode : Node :=
  .plain []

def unlessNext (tokens : List Token) (node : ReadM Node) : ReadM Node := do
  if ← nextIn tokens then return emptyNode else node

def readWhile {α : Type} (item? : ReadM (Option α)) : Nat → ReadM (List α)
  | 0 => throw .badStructure
  | fuel + 1 => do
    match ← item? with
    | none => return []
    | some item => return item :: (← readWhile item? fuel)

def itemBound : ReadM Nat := do
  return (← get).tokens.length + 1

/-- The entries of a list in a block; an entry ends before these tokens. -/
def readEntries (node : NodeReader) (stops : List Token) : ReadM (List Node) := do
  readWhile (do
    if ← takeIf .blockEntry then return some (← unlessNext stops (node true false))
    else return none) (← itemBound)

/-- The part of an entry behind its mark, or the empty node without the mark. -/
def readAfter (mark : Token) (stops : List Token) (node : ReadM Node) : ReadM Node := do
  if ← takeIf mark then unlessNext stops node else return emptyNode

def readBlockMapping (node : NodeReader) : ReadM (List (Node × Node)) := do
  let stops : List Token := [.key, .value, .blockEnd]
  readWhile (do
    if ← takeIf .key then
      let key ← unlessNext stops (node true true)
      return some (key, ← readAfter .value stops (node true true))
    else return none) (← itemBound)

/-- Items in brackets with commas between them, up to the closing bracket. -/
def readFlow {α : Type} (closing : Token) (item : ReadM α) : ReadM (List α) := do
  if ← takeIf closing then return []
  else
    let first ← item
    let rest ← readWhile (do
      if ← takeIf closing then return none
      else
        expect .flowEntry
        if ← takeIf closing then return none else return some (← item)) (← itemBound)
    return first :: rest

def readFlowEntry (node : NodeReader) (closing : Token) : ReadM (Node × Node) := do
  let key ← unlessNext [.value, .flowEntry, closing] (node false false)
  return (key, ← readAfter .value [.flowEntry, closing] (node false false))

/-- An item of a list in brackets: a node, or a key and its value, which are a mapping of their own. -/
def readFlowItem (node : NodeReader) : ReadM Node := do
  if ← takeIf .key then return .mapping [← readFlowEntry node .flowListEnd]
  else node false false

/-- An entry of a mapping in brackets; without the mark of a key its value is the empty node. -/
def readFlowPair (node : NodeReader) : ReadM (Node × Node) := do
  if ← takeIf .key then readFlowEntry node .flowMappingEnd
  else return (← node false false, emptyNode)

/-! ## Anchors and tags -/

/-- The anchor at the front of the tokens is taken, if there is one. It must not have come before. -/
def takeAnchor? : ReadM (Option (List Char)) := do
  match ← next? with
  | some (.anchor name) => do
    take
    if (← get).anchors.contains name then throw .repeatedAnchor
    modify fun reader => { reader with anchors := name :: reader.anchors }
    return some name
  | _ => return none

def fullName (tag : TagText) : ReadM (List Char) := do
  match tag.handle with
  | none => return tag.name
  | some handle =>
    match (← get).handles.lookup handle with
    | some start => return start ++ tag.name
    | none => throw .unknownHandle

def takeTag? : ReadM (Option (List Char)) := do
  match ← next? with
  | some (.tag tag) => do
    take
    return some (← fullName tag)
  | _ => return none

/-- What stands before a node: an anchor and the full name of a tag, in either order. -/
def takeProperties : ReadM (Option (List Char) × Option (List Char)) := do
  match ← takeAnchor? with
  | some anchor => return (some anchor, ← takeTag?)
  | none =>
    let tag ← takeTag?
    return (← if tag.isSome then takeAnchor? else pure none, tag)

def remember (anchor : Option (List Char)) (node : Node) : ReadM Node := do
  match anchor with
  | some name => modify fun reader => { reader with nodes := (name, node) :: reader.nodes }
  | none => pure ()
  return node

def bareTag : List Char :=
  ['!']

/-- A node with the tag of a full name. Under the bare tag a text counts as plain, and a collection is what it
is. -/
def Node.withTag (node : Node) (name : List Char) : Node :=
  match node with
  | .plain text | .quoted text => if name = bareTag then .plain text else .tagged (.ofName name) text
  | .list items =>
    if name = bareTag ∨ Tag.ofName name = .list then .list items else .marked (.ofName name) (.list items)
  | .mapping entries =>
    if name = bareTag ∨ Tag.ofName name = .mapping then .mapping entries
    else .marked (.ofName name) (.mapping entries)
  | node => node

/-! ## Nodes -/

/-- A node without what stands before it. After an anchor or a tag there may be nothing. -/
def readContent (node : NodeReader) (block indentless hasProperties : Bool) : ReadM Node := do
  match ← next? with
  | some (.plain text) => take; return .plain text
  | some (.quoted text) => take; return .quoted text
  | some .flowListStart => take; return .list (← readFlow .flowListEnd (readFlowItem node))
  | some .flowMappingStart => take; return .mapping (← readFlow .flowMappingEnd (readFlowPair node))
  | some .blockEntry =>
    if indentless then return .list (← readEntries node [.blockEntry, .key, .value, .blockEnd]) else nothing
  | some .blockListStart =>
    if block then
      take
      let items ← readEntries node [.blockEntry, .blockEnd]
      expect .blockEnd
      return .list items
    else nothing
  | some .blockMappingStart =>
    if block then
      take
      let entries ← readBlockMapping node
      expect .blockEnd
      return .mapping entries
    else nothing
  | _ => nothing
where
  nothing : ReadM Node :=
    if hasProperties then return emptyNode else throw .badStructure

def repeated (name : List Char) : ReadM Node := do
  let reader ← get
  match reader.nodes.lookup name with
  | some node => return node
  | none =>
    if !reader.anchors.contains name then throw .unknownAlias
    set { reader with nested := true }
    return .outer name

def readNodeWith (node : NodeReader) : NodeReader := fun block indentless => do
  match ← next? with
  | some (.reference name) => take; repeated name
  | _ =>
    let (anchor, tag) ← takeProperties
    let content ← readContent node block indentless (anchor.isSome || tag.isSome)
    remember anchor (match tag with
      | some name => content.withTag name
      | none => content)

def readNode : Nat → NodeReader
  | 0 => fun _ _ => throw .badStructure
  | depth + 1 => readNodeWith (readNode depth)

/-! ## Whole documents -/

def Token.directive? : Token → Option Directive
  | .directive content => some content
  | _ => none

def takeDirectives : ReadM (List Directive) := do
  let tokens := (← get).tokens
  let directives := (tokens.takeWhile fun token => token.directive?.isSome).filterMap Token.directive?
  modify fun reader => { reader with tokens := reader.tokens.drop directives.length }
  return directives

/-- Nothing stands in the document whose start has been taken. -/
def atDocumentEnd : ReadM Bool := do
  match ← next? with
  | none => return true
  | some token => return token.directive?.isSome || [Token.documentStart, .documentEnd].contains token

/-- Marks of the end of a document are skipped, and nothing may follow. -/
def readEnd : ReadM Unit := do
  modify fun reader => { reader with tokens := reader.tokens.dropWhile (· == Token.documentEnd) }
  if (← next?).isSome then throw .secondDocument

/-- The node of a document. Directives have to be followed by the mark of its start. -/
def readDocument : ReadM Node := do
  let depth ← itemBound
  if (← next?).isNone then return emptyNode
  else
    let directives ← takeDirectives
    let handles ← handlesOf directives
    modify fun reader => { reader with handles := handles }
    let marked ← takeIf .documentStart
    if !directives.isEmpty && !marked then throw .badStructure
    let node ← if marked && (← atDocumentEnd) then pure emptyNode else readNode depth true false
    readEnd
    return node

def read (document : String) : Except Fault Datum := do
  let scanned := scan document.toList
  let (node, reader) ← readDocument.run ⟨scanned.tokens, scanned.fault?, commonHandles, [], [], false⟩
  node.datum (if reader.nested then reader.nodes else [])

end LineScript.Yaml
