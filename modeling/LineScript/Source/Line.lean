import LineScript.Expression.Operator
import LineScript.Source.Bracket
import LineScript.Source.Name
import LineScript.Text.Quoted

/-!
# Lines

Blank lines and lines that start with `#` are dropped; every other line is an assignment, the end of a block, a line
that starts with a keyword, a line that starts with another name, or no statement at all. The lines of a block end at
the `end` that brings the number of open blocks to zero.
-/

namespace LineScript.Source

open LineScript.Text

inductive Keyword where
  | define
  | defineClass
  | return
  | if
  | else
  | while
  | switch
  | case
  | default
  | try
  | catch
  | throw
  | break
  | nonlocal
  | importModule
  deriving Repr, DecidableEq

namespace Keyword

def all : List Keyword :=
  [.define, .defineClass, .return, .if, .else, .while, .switch, .case, .default, .try, .catch, .throw, .break,
    .nonlocal, .importModule]

def word : Keyword → String
  | .define => "def"
  | .defineClass => "class"
  | .return => "return"
  | .if => "if"
  | .else => "else"
  | .while => "while"
  | .switch => "switch"
  | .case => "case"
  | .default => "default"
  | .try => "try"
  | .catch => "catch"
  | .throw => "throw"
  | .break => "break"
  | .nonlocal => "nonlocal"
  | .importModule => "import"

def ofWord? (word : String) : Option Keyword :=
  all.find? fun keyword => keyword.word == word

def opensBlock : Keyword → Bool
  | .if | .while | .define | .defineClass | .switch | .try => true
  | _ => false

def endsStatements : Keyword → Bool
  | .else | .case | .default | .catch => true
  | _ => false

end Keyword

inductive LineBody where
  /-- An assignment to a dotted path, perhaps with an operator. -/
  | assign (path : List (List Char)) (operator : Option Operator) (value : List Char)
  | endBlock
  | keyword (word : Keyword) (rest : List Char)
  | call (text : List Char)
  | unknown (text : List Char)
  deriving Repr, DecidableEq

structure Line where
  body : LineBody
  location : Location
  text : String
  deriving Repr, DecidableEq

/-! ## Reading lines -/

def splitAssignOperator : List Char → Option Operator × List Char
  | '<' :: '<' :: rest => (some .shiftLeft, rest)
  | '>' :: '>' :: rest => (some .shiftRight, rest)
  | '+' :: rest => (some .add, rest)
  | '-' :: rest => (some .subtract, rest)
  | '*' :: rest => (some .multiply, rest)
  | '/' :: rest => (some .divide, rest)
  | '%' :: rest => (some .modulo, rest)
  | '&' :: rest => (some .bitAnd, rest)
  | '|' :: rest => (some .bitOr, rest)
  | '^' :: rest => (some .bitXor, rest)
  | cs => (none, cs)

def splitAssignment? (cs : List Char) : Option (Option Operator × List Char) :=
  match splitAssignOperator (trimStart cs) with
  | (_, '=' :: '=' :: _) => none
  | (operator, '=' :: rest) => some (operator, trimStart rest)
  | _ => none

def assignment? (cs : List Char) : Option LineBody :=
  match splitPath? cs with
  | none => none
  | some (path, rest) =>
    (splitAssignment? rest).map fun (operator, value) => .assign path operator value

def LineBody.ofText (cs : List Char) : LineBody :=
  match assignment? cs with
  | some body => body
  | none =>
    if cs = "end".toList then .endBlock
    else
      match splitName? cs with
      | none => .unknown cs
      | some (name, rest) =>
        match Keyword.ofWord? (String.ofList name) with
        | some word => .keyword word (trimStart rest)
        | none => .call cs

/-- The line that a row of the text is, unless it is blank or a comment. -/
def Line.ofRow? (file : Option String) (number : Nat) (row : List Char) : Option Line :=
  match trim row with
  | [] => none
  | '#' :: _ => none
  | cs =>
    let column := row.length - (trimStart row).length + 1
    some ⟨.ofText cs, ⟨number, column, file⟩, String.ofList cs⟩

def linesFrom (file : Option String) (number : Nat) : List (List Char) → List Line
  | [] => []
  | row :: rows =>
    match Line.ofRow? file number row with
    | some line => line :: linesFrom file (number + 1) rows
    | none => linesFrom file (number + 1) rows

def readLines (source : String) (file : Option String) : List Line :=
  linesFrom file 1 (splitLines source.toList)

/-! ## The text of lines -/

def Keyword.kindName : Keyword → String
  | .define => "DEF"
  | .defineClass => "CLASS"
  | .return => "RETURN"
  | .if => "IF"
  | .else => "ELSE"
  | .while => "WHILE"
  | .switch => "SWITCH"
  | .case => "CASE"
  | .default => "DEFAULT"
  | .try => "TRY"
  | .catch => "CATCH"
  | .throw => "THROW"
  | .break => "BREAK"
  | .nonlocal => "NONLOCAL"
  | .importModule => "IMPORT"

namespace LineBody

def kindName : LineBody → String
  | .assign _ _ _ => "ASSIGN"
  | .endBlock => "END"
  | .keyword word _ => word.kindName
  | .call _ => "FUNCALL"
  | .unknown _ => "UNKNOWN"

def pieces : LineBody → List String
  | .assign path operator value =>
    [pathText path, (operator.map Operator.symbol).getD "", String.ofList value]
  | .endBlock => []
  | .keyword word rest => [word.word, String.ofList rest]
  | .call text => [String.ofList text]
  | .unknown text => [String.ofList text]

def opensBlock : LineBody → Bool
  | .keyword word _ => word.opensBlock
  | _ => false

def endsStatements : LineBody → Bool
  | .endBlock => true
  | .keyword word _ => word.endsStatements
  | _ => false

end LineBody

namespace Line

def summary (line : Line) : String :=
  line.body.kindName ++ "(" ++ quoted line.text ++ ")"

def error (line : Line) (cause : ReadCause) : ReadError :=
  .reported cause (some ⟨line.location, some line.text⟩)

end Line

/-! ## Blocks -/

def afterBlock? (depth : Int) : List Line → Option (List Line)
  | [] => none
  | line :: rest =>
    if line.body.opensBlock then afterBlock? (depth + 1) rest
    else if line.body = .endBlock then
      if depth = 1 then some rest else afterBlock? (depth - 1) rest
    else afterBlock? depth rest

/-- The position after the block whose first inner line stands at a position. A block without an end is
an error at the line before that position. -/
def blockEnd (lines : List Line) (start : Int) : Except ReadError Int :=
  match scanAt? lines start with
  | none => .error .noSuchLine
  | some met =>
    match afterBlock? 1 met with
    | some after => .ok (scanEnd start met after)
    | none =>
      match elementAt? lines (start - 1) with
      | some opener => .error (opener.error (.missingEnd opener.text))
      | none => .error .noSuchLine

end LineScript.Source
