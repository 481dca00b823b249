import LineScript.Yaml.Block
import LineScript.Yaml.Scalar

/-!
# Tokens of documents

A document is a row of tokens: texts, the marks between them, and the starts and ends of blocks. The first entry or key
in a column further right opens a block, and the next thing further left closes it.

What a key is shows only at the colon after it. So the scanner remembers where a key may have started, and puts the mark
of the key in front of it when the colon comes. A key ends in its first line, and within 1024 characters.
-/

namespace LineScript.Yaml

inductive Token where
  | documentStart
  | documentEnd
  | blockListStart
  | blockMappingStart
  | blockEnd
  | flowListStart
  | flowListEnd
  | flowMappingStart
  | flowMappingEnd
  | blockEntry
  | flowEntry
  | key
  | value
  | directive (directive : Directive)
  | anchor (name : List Char)
  | reference (name : List Char)
  | tag (tag : TagText)
  | plain (text : List Char)
  | quoted (text : List Char)
  deriving Repr, DecidableEq

structure KeyStart where
  position : Nat
  required : Bool
  cursor : Cursor
  deriving Repr, DecidableEq

def KeyStart.isStale (start : KeyStart) (cursor : Cursor) : Bool :=
  start.cursor.line ≠ cursor.line || 1024 < cursor.index - start.cursor.index

structure Scanner where
  cursor : Cursor
  tokens : Array Token
  /-- The columns of the open blocks, innermost first. -/
  indents : List Nat
  keyAllowed : Bool
  outerKey : Option KeyStart
  /-- Where a key may have started at each level of brackets, innermost first. -/
  innerKeys : List (Option KeyStart)
  deriving Repr

abbrev ScanM := StateT Scanner (Except Fault)

namespace Scanner

def start (document : List Char) : Scanner :=
  ⟨.start document, #[], [], true, none, []⟩

def inFlow (scanner : Scanner) : Bool :=
  !scanner.innerKeys.isEmpty

def currentKey (scanner : Scanner) : Option KeyStart :=
  match scanner.innerKeys with
  | [] => scanner.outerKey
  | key :: _ => key

def setKey (scanner : Scanner) (key : Option KeyStart) : Scanner :=
  match scanner.innerKeys with
  | [] => { scanner with outerKey := key }
  | _ :: keys => { scanner with innerKeys := key :: keys }

def push (scanner : Scanner) (token : Token) : Scanner :=
  { scanner with tokens := scanner.tokens.push token }

def insertAt (scanner : Scanner) (position : Nat) (token : Token) : Scanner :=
  { scanner with
    tokens := scanner.tokens.extract 0 position ++ #[token] ++
      scanner.tokens.extract position scanner.tokens.size }

/-- The blocks from a column on are closed, outside brackets. -/
def closeBlocks (scanner : Scanner) (column : Nat) : Scanner :=
  if scanner.inFlow then scanner
  else
    let closed := scanner.indents.takeWhile (column < ·)
    { scanner with
      indents := scanner.indents.drop closed.length
      tokens := scanner.tokens ++ Array.replicate closed.length Token.blockEnd }

def closeAllBlocks (scanner : Scanner) : Scanner :=
  if scanner.inFlow then scanner
  else
    { scanner with
      indents := []
      tokens := scanner.tokens ++ Array.replicate scanner.indents.length Token.blockEnd }

def opensBlock (scanner : Scanner) (column : Nat) : Bool :=
  match scanner.indents with
  | [] => true
  | indent :: _ => indent < column

def openBlock (scanner : Scanner) (column position : Nat) (token : Token) : Scanner :=
  if scanner.opensBlock column then
    { scanner.insertAt position token with indents := column :: scanner.indents }
  else scanner

def textIndent (scanner : Scanner) : Nat :=
  match scanner.indents with
  | [] => 0
  | indent :: _ => indent + 1

def blockIndent (scanner : Scanner) : Nat :=
  max 1 scanner.textIndent

end Scanner

/-! ## Starts of keys -/

def giveUp (isStale : KeyStart → Bool) : Option KeyStart → Except Fault (Option KeyStart)
  | none => .ok none
  | some start =>
    if isStale start then if start.required then .error .keyWithoutColon else .ok none
    else .ok (some start)

def dropStaleKeys : ScanM Unit := do
  let scanner ← get
  let isStale (start : KeyStart) : Bool := start.isStale scanner.cursor
  let outerKey ← giveUp isStale scanner.outerKey
  let innerKeys ← (scanner.innerKeys.mapM (giveUp isStale) : Except Fault (List (Option KeyStart)))
  set { scanner with outerKey := outerKey, innerKeys := innerKeys }

def dropKey : ScanM Unit := do
  let scanner ← get
  set (scanner.setKey (← giveUp (fun _ => true) scanner.currentKey))

def saveKey : ScanM Unit := do
  let scanner ← get
  if scanner.keyAllowed then
    dropKey
    let required := !scanner.inFlow && scanner.indents.head? == some scanner.cursor.column
    modify fun state => state.setKey (some ⟨scanner.tokens.size, required, scanner.cursor⟩)

/-! ## Kinds of tokens -/

def emit (length : Nat) (token : Token) : ScanM Unit :=
  modify fun scanner => { scanner.push token with cursor := scanner.cursor.skip length }

def allowKeys (allowed : Bool) : ScanM Unit :=
  modify fun scanner => { scanner with keyAllowed := allowed }

def scanSeparator (token : Token) : ScanM Unit := do
  modify Scanner.closeAllBlocks
  dropKey
  allowKeys false
  emit 3 token

def scanEnd : ScanM Unit := do
  modify Scanner.closeAllBlocks
  dropKey

def scanOpening (token : Token) : ScanM Unit := do
  saveKey
  modify fun scanner => { scanner with innerKeys := none :: scanner.innerKeys }
  allowKeys true
  emit 1 token

def scanClosing (token : Token) : ScanM Unit := do
  match (← get).innerKeys with
  | [] => throw .unopenedBracket
  | _ :: keys =>
    dropKey
    modify fun scanner => { scanner with innerKeys := keys }
    allowKeys false
    emit 1 token

def scanComma : ScanM Unit := do
  allowKeys true
  dropKey
  emit 1 .flowEntry

/-- Outside brackets, something that starts where a key might opens a block in its column. -/
def startInBlock (token : Token) : ScanM Unit := do
  let scanner ← get
  if !scanner.inFlow then
    if scanner.keyAllowed then set (scanner.openBlock scanner.cursor.column scanner.tokens.size token)
    else throw .misplaced

def scanEntry : ScanM Unit := do
  startInBlock .blockListStart
  allowKeys true
  dropKey
  emit 1 .blockEntry

def scanKey : ScanM Unit := do
  startInBlock .blockMappingStart
  allowKeys (!(← get).inFlow)
  dropKey
  emit 1 .key

/-- The colon of a value. If a key may have started before, it did. -/
def scanValue : ScanM Unit := do
  let scanner ← get
  match scanner.currentKey with
  | some start =>
    let scanner := (scanner.setKey none).insertAt start.position .key
    set (if scanner.inFlow then scanner
      else scanner.openBlock start.cursor.column start.position .blockMappingStart)
    allowKeys false
  | none =>
    startInBlock .blockMappingStart
    allowKeys (!scanner.inFlow)
  emit 1 .value

def scanQuoted (quote : Char) : ScanM Unit := do
  saveKey
  let scanner ← get
  let cursor := scanner.cursor.next
  let (text, after) ← quotedText quote (cursor.rest.length + 1) cursor
  set { scanner.push (.quoted text) with cursor := after, keyAllowed := false }

def scanPlain : ScanM Unit := do
  saveKey
  let scanner ← get
  let found := plainText scanner.inFlow scanner.textIndent (scanner.cursor.rest.length + 1)
    ⟨[], false, scanner.cursor⟩
  set { scanner.push (.plain found.text) with cursor := found.after, keyAllowed := found.broken }

def scanDirective : ScanM Unit := do
  modify Scanner.closeAllBlocks
  dropKey
  let scanner ← get
  let (directive, after) ← takeDirective scanner.cursor
  set { scanner.push (.directive directive) with cursor := after, keyAllowed := false }

def scanProperty (read : Cursor → Except Fault (Token × Cursor)) : ScanM Unit := do
  saveKey
  let scanner ← get
  let (token, after) ← read scanner.cursor
  set { scanner.push token with cursor := after, keyAllowed := false }

def scanAnchor (token : List Char → Token) : ScanM Unit :=
  scanProperty fun cursor => do
    let (name, after) ← anchorName cursor.next
    return (token name, after)

def scanTag : ScanM Unit :=
  scanProperty fun cursor => do
    let (tag, after) ← takeTag cursor
    return (.tag tag, after)

def scanBlock (folded : Bool) : ScanM Unit := do
  dropKey
  let scanner ← get
  let (text, after) ← takeBlock folded scanner.blockIndent scanner.cursor
  set { scanner.push (.quoted text) with cursor := after, keyAllowed := true }

/-! ## Scanning -/

/-- The place of the next token: after blanks, comments and line breaks, with whether there were line breaks. -/
def nextPlace : Nat → Cursor → Bool × Cursor
  | 0, cursor => (false, cursor)
  | fuel + 1, cursor =>
    let cursor := cursor.skipWhile (· = ' ')
    let cursor := if cursor.head? == some '#' then cursor.skipWhile (fun c => !isBreak c) else cursor
    match cursor.rest with
    | c :: _ => if isBreak c then (true, (nextPlace fuel cursor.next).2) else (false, cursor)
    | [] => (false, cursor)

/-- The scanner moves to the next token. Outside brackets a line break allows keys. -/
def moveOn : ScanM Unit :=
  modify fun scanner =>
    let start := scanner.cursor
    let marked := start.index = 0 && start.head? == some orderMark
    let (broken, cursor) := nextPlace (start.rest.length + 1) (if marked then start.next else start)
    { scanner with
      cursor := cursor
      keyAllowed := scanner.keyAllowed || (broken && !scanner.inFlow) }

def indicators : List Char :=
  "-?:,[]\x7b\x7d#&*!|>'\"%@`".toList

/-- A plain text starts here. A dash starts one if no gap follows, and outside brackets a question mark
and a colon do. -/
def startsPlain (flow : Bool) (c : Char) (rest : List Char) : Bool :=
  !(isGap c || indicators.contains c) ||
    (!atGap rest && (c = '-' || (!flow && (c = '?' || c = ':'))))

def scanToken (c : Char) (rest : List Char) : ScanM Unit := do
  let scanner ← get
  let flow := scanner.inFlow
  if scanner.cursor.column = 0 && c = '%' then scanDirective
  else if scanner.cursor.column = 0 && atSeparator (c :: rest) then
    scanSeparator (if c = '-' then .documentStart else .documentEnd)
  else if c = '[' then scanOpening .flowListStart
  else if c = '\x7b' then scanOpening .flowMappingStart
  else if c = ']' then scanClosing .flowListEnd
  else if c = '\x7d' then scanClosing .flowMappingEnd
  else if c = ',' then scanComma
  else if c = '-' && atGap rest then scanEntry
  else if c = '?' && (flow || atGap rest) then scanKey
  else if c = ':' && (flow || atGap rest) then scanValue
  else if c = '*' then scanAnchor .reference
  else if c = '&' then scanAnchor .anchor
  else if c = '!' then scanTag
  else if !flow && (c = '|' || c = '>') then scanBlock (c = '>')
  else if c = '\x27' || c = '\x22' then scanQuoted c
  else if startsPlain flow c rest then scanPlain
  else throw (.unexpectedCharacter c)

/-- The next token is scanned, or the end of the document, which gives true. -/
def scanNext : ScanM Bool := do
  moveOn
  dropStaleKeys
  modify fun scanner => scanner.closeBlocks scanner.cursor.column
  match (← get).cursor.rest with
  | [] => scanEnd; return true
  | c :: rest => scanToken c rest; return false

def Scanner.openKeys (scanner : Scanner) : List Nat :=
  ((scanner.outerKey :: scanner.innerKeys).filterMap id).filterMap fun start =>
    if start.isStale scanner.cursor then none else some start.position

/-- The tokens before the first one that may still turn out to be in a key. -/
def Scanner.settled (scanner : Scanner) : List Token :=
  (scanner.tokens.toList).take (scanner.openKeys.foldl min scanner.tokens.size)

structure Scanned where
  tokens : List Token
  fault? : Option Fault

/-- All tokens from a place on. A fault leaves only the tokens that were settled before it. -/
def scanAll : Nat → Scanner → Scanned
  | 0, scanner => ⟨scanner.tokens.toList, none⟩
  | fuel + 1, scanner =>
    match scanNext.run scanner with
    | .ok (true, done) => ⟨done.tokens.toList, none⟩
    | .ok (false, next) => scanAll fuel next
    | .error reason => ⟨scanner.settled, some reason⟩

def scan (document : List Char) : Scanned :=
  match document.find? fun c => !isAllowed c with
  | some c => ⟨[], some (.forbiddenCharacter c)⟩
  | none => scanAll (document.length + 1) (.start document)

end LineScript.Yaml
