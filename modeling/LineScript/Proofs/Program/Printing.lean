import LineScript.Program.Reader
import LineScript.Proofs.Expression.RoundTrip

/-!
# Printed programs

A block of statements has many texts. `BlockRows loops block rows` says that the rows, one statement header
or closing line each, are a printed form of the block inside the given number of loops; the number of a row
is the number that its statement carries. `Layout first rows texts` puts the rows into a text from a row
number on, with white space around each of them and with blank rows and comments between them. `ProgramText
block source` joins the two.

As with expressions, what is left open is left open here too: white space inside headers, an empty
alternative or fallback written or left out, methods and other statements of a class in any order.
-/

set_option autoImplicit false

namespace LineScript.Program

open LineScript.Text LineScript.Source LineScript.Expression

/-! ## Rows -/

/-- A row of a program that holds a line, with its number and the white space around the line. -/
structure Row where
  number : Nat
  before : List Char
  text : List Char
  after : List Char

/-- The row as it stands in the program. -/
def Row.written (row : Row) : List Char :=
  row.before ++ row.text ++ row.after

/-- The row is blank or a comment. -/
def Filler (cs : List Char) : Prop :=
  Margin cs ∨ ∃ before comment, Margin before ∧ cs = before ++ '#' :: comment

/-- The rows stand in the texts in order, each at its number, with fillers between them. -/
inductive Layout : Nat → List Row → List (List Char) → Prop where
  | nil (number : Nat) : Layout number [] []
  | filler {number : Nat} {cs : List Char} {rows : List Row} {texts : List (List Char)} (filler : Filler cs)
      (rest : Layout (number + 1) rows texts) : Layout number rows (cs :: texts)
  | row {number : Nat} {row : Row} {rows : List Row} {texts : List (List Char)} (placed : row.number = number)
      (blankBefore : Margin row.before) (solid : Solid row.text) (blankAfter : Margin row.after)
      (rest : Layout (number + 1) rows texts) : Layout number (row :: rows) (row.written :: texts)

/-! ## Parts of headers -/

/-- The operators that an assignment may have. -/
def isAssigning (operator : Operator) : Bool :=
  [.shiftLeft, .shiftRight, .add, .subtract, .multiply, .divide, .modulo, .bitAnd, .bitOr, .bitXor].contains
    operator

/-- The sign of an assignment. -/
def assignSign (operator : Option Operator) : List Char :=
  (operator.elim [] fun operator => operator.symbol.toList) ++ ['=']

/-- The text after the target of an assignment. -/
inductive Assigned (operator : Option Operator) (value : Expr) : List Char → Prop where
  | intro {blank cs : List Char} (margin : Margin blank)
      (assigning : ∀ sign ∈ operator, isAssigning sign = true) (printed : Printed value cs) :
      Assigned operator value (blank ++ assignSign operator ++ cs)

/-- The expression is the dotted path: a variable, perhaps with properties behind it. -/
inductive Dotted : Expr → List (List Char) → Prop where
  | «variable» {name : List Char} (named : isVariableName name = true) :
      Dotted (.variable (String.ofList name)) [name]
  | property {target : Expr} {path : List (List Char)} {name : List Char} (dotted : Dotted target path)
      (named : isName name = true) : Dotted (.property target (String.ofList name)) (path ++ [name])

/-- The text of a dotted path. -/
def dottedText (path : List (List Char)) : List Char :=
  List.intercalate ['.'] path

/-- A name with white space around it. -/
def Padded (name item : List Char) : Prop :=
  isName name = true ∧ ∃ before after, Margin before ∧ Margin after ∧ item = before ++ name ++ after

/-- Names with white space around each and commas between them. -/
inductive NamesText (names : List (List Char)) : List Char → Prop where
  | intro {blank : List Char} {items : List (List Char)} (margin : Margin blank)
      (each : List.Forall₂ Padded names items) : NamesText names (itemsText blank items)

/-- A keyword with the text after it. -/
def headed (word : Keyword) (rest : List Char) : List Char :=
  word.word.toList ++ rest

/-- The text after the keyword of a function. -/
inductive FunctionHeader (name : List Char) (parameters : List (List Char)) : List Char → Prop where
  | intro {gap before inner after : List Char} (apart : Gap gap) (named : isName name = true)
      (blankBefore : Margin before) (listed : NamesText parameters inner) (blankAfter : Margin after) :
      FunctionHeader name parameters
        (gap ++ name ++ before ++ '(' :: (inner ++ ')' :: (after ++ [':'])))

/-- The text after the keyword of a class. A class without parents has the class of all objects as its
parent. -/
inductive ClassHeader (name : List Char) : List String → List Char → Prop where
  | bare {gap after : List Char} (apart : Gap gap) (named : isName name = true) (blankAfter : Margin after) :
      ClassHeader name ["Object"] (gap ++ name ++ after ++ [':'])
  | empty {gap before inner after : List Char} (apart : Gap gap) (named : isName name = true)
      (blankBefore : Margin before) (blankInner : Margin inner) (blankAfter : Margin after) :
      ClassHeader name ["Object"] (gap ++ name ++ before ++ '(' :: (inner ++ ')' :: (after ++ [':'])))
  | parents {gap before inner after : List Char} {parents : List (List Char)} (apart : Gap gap)
      (named : isName name = true) (blankBefore : Margin before) (some : parents ≠ [])
      (listed : NamesText parents inner) (blankAfter : Margin after) :
      ClassHeader name (parents.map String.ofList)
        (gap ++ name ++ before ++ '(' :: (inner ++ ')' :: (after ++ [':'])))

/-- The text after the keyword of a handler. -/
inductive HandlerHeader (name : List Char) : List Char → Prop where
  | intro {blank before after last : List Char} (margin : Margin blank) (named : isName name = true)
      (blankBefore : Margin before) (blankAfter : Margin after) (blankLast : Margin last) :
      HandlerHeader name (blank ++ '(' :: (before ++ name ++ after ++ ')' :: (last ++ [':'])))

/-- The text after the keyword of an import. -/
inductive ImportHeader (path : List (List Char)) : Option (List Char) → List Char → Prop where
  | plain {gap : List Char} (apart : Gap gap) : ImportHeader path none (gap ++ dottedText path)
  | renamed {gap before after name : List Char} (apart : Gap gap) (apartBefore : Gap before)
      (apartAfter : Gap after) (named : isName name = true) :
      ImportHeader path (some name) (gap ++ dottedText path ++ before ++ "as".toList ++ after ++ name)

/-- The text starts with a name that is no keyword. -/
def StartsCall (cs : List Char) : Prop :=
  ∃ name rest, cs = name ++ rest ∧ isName name = true ∧ EndsWord rest ∧
    ∀ word : Keyword, name ≠ word.word.toList

/-- The statement defines a function. -/
def isDefinition : Statement → Bool
  | .assign _ none (.function _) => true
  | _ => false

/-! ## Statements -/

mutual

/-- The rows are a printed form of the statement inside a number of loops. -/
inductive StatementRows : Nat → Statement → List Row → Prop where
  | expression {loops : Nat} {callee : Expr} {arguments : List Expr} {row : Row}
      (printed : Printed (.call callee arguments) row.text) (starts : StartsCall row.text) :
      StatementRows loops (.expression (.call callee arguments)) [row]
  | assign {loops : Nat} {name rest : List Char} {operator : Option Operator} {value : Expr} {row : Row}
      (named : isName name = true) (assigned : Assigned operator value rest) (text : row.text = name ++ rest) :
      StatementRows loops (.assign (String.ofList name) operator value) [row]
  | setProperty {loops : Nat} {target value : Expr} {path : List (List Char)} {name rest : List Char}
      {operator : Option Operator} {row : Row} (dotted : Dotted target path) (named : isName name = true)
      (assigned : Assigned operator value rest) (text : row.text = dottedText (path ++ [name]) ++ rest) :
      StatementRows loops (.setProperty target (String.ofList name) operator value) [row]
  | nonlocal {loops : Nat} {gap name rest : List Char} {operator : Option Operator} {value : Expr} {row : Row}
      (apart : Gap gap) (named : isName name = true) (assigned : Assigned operator value rest)
      (text : row.text = headed .nonlocal (gap ++ name ++ rest)) :
      StatementRows loops (.nonlocal (String.ofList name) operator value) [row]
  | finish {loops : Nat} {row : Row} (text : row.text = headed .return []) :
      StatementRows loops (.return none) [row]
  | return {loops : Nat} {gap cs : List Char} {value : Expr} {row : Row} (apart : Gap gap)
      (printed : Printed value cs) (text : row.text = headed .return (gap ++ cs)) :
      StatementRows loops (.return (some value)) [row]
  | throw {loops : Nat} {gap cs : List Char} {value : Expr} {row : Row} (apart : Gap gap)
      (printed : Printed value cs) (text : row.text = headed .throw (gap ++ cs)) :
      StatementRows loops (.throw value) [row]
  | break {loops : Nat} {row : Row} (inLoop : loops ≠ 0) (text : row.text = headed .break []) :
      StatementRows loops .break [row]
  | importModule {loops : Nat} {path : List (List Char)} {localName : Option (List Char)} {rest : List Char}
      {row : Row} (some : path ≠ []) (named : ∀ name ∈ path, isName name = true)
      (header : ImportHeader path localName rest) (text : row.text = headed .importModule rest) :
      StatementRows loops (.importModule (path.map String.ofList) (localName.map String.ofList)) [row]
  | choose {loops : Nat} {condition : Expr} {gap cs : List Char} {consequent alternative : Block}
      {row stop : Row} {first second : List Row} (apart : Gap gap) (printed : Printed condition cs)
      (text : row.text = headed .if (gap ++ cs ++ [':'])) (body : BlockRows loops consequent first)
      (other : AlternativeRows loops alternative second) (ends : stop.text = "end".toList) :
      StatementRows loops (.choose condition consequent alternative) (row :: (first ++ second ++ [stop]))
  | loop {loops : Nat} {condition : Expr} {gap cs : List Char} {block : Block} {row stop : Row}
      {rows : List Row} (apart : Gap gap) (printed : Printed condition cs)
      (text : row.text = headed .while (gap ++ cs ++ [':'])) (body : BlockRows (loops + 1) block rows)
      (ends : stop.text = "end".toList) : StatementRows loops (.loop condition block) (row :: (rows ++ [stop]))
  | switch {loops : Nat} {subject : Expr} {gap cs : List Char} {cases : List SwitchCase} {fallback : Block}
      {row stop : Row} {rows : List Row} (apart : Gap gap) (printed : Printed subject cs)
      (text : row.text = headed .switch (gap ++ cs ++ [':'])) (branches : CaseRows loops cases fallback rows)
      (ends : stop.text = "end".toList) :
      StatementRows loops (.switch subject cases fallback) (row :: (rows ++ [stop]))
  | guard {loops : Nat} {blank name rest : List Char} {block handler : Block} {row middle stop : Row}
      {first second : List Row} (margin : Margin blank) (text : row.text = headed .try (blank ++ [':']))
      (body : BlockRows loops block first) (header : HandlerHeader name rest)
      (middleText : middle.text = headed .catch rest) (other : BlockRows loops handler second)
      (ends : stop.text = "end".toList) :
      StatementRows loops (.guard block (String.ofList name) handler)
        (row :: (first ++ middle :: (second ++ [stop])))
  | define {loops : Nat} {literal : FunctionLiteral} {rows : List Row} (function : FunctionRows literal rows) :
      StatementRows loops (.assign literal.name none (.function literal)) rows
  | defineClass {loops : Nat} {name rest : List Char} {parents : List String} {methods : List FunctionLiteral}
      {block : Block} {row stop : Row} {rows : List Row} (header : ClassHeader name parents rest)
      (text : row.text = headed .defineClass rest) (distinct : (methods.map (·.name)).Nodup)
      (members : MemberRows methods block rows) (ends : stop.text = "end".toList) :
      StatementRows loops
        (.assign (String.ofList name) none (.class ⟨String.ofList name, parents, methods, block⟩))
        (row :: (rows ++ [stop]))

/-- The rows are a printed form of the statements, each of which carries the number of its first row. -/
inductive BlockRows : Nat → Block → List Row → Prop where
  | nil {loops : Nat} : BlockRows loops [] []
  | cons {loops : Nat} {statement : Statement} {block : Block} {row : Row} {first second : List Row}
      (head : StatementRows loops statement (row :: first)) (rest : BlockRows loops block second) :
      BlockRows loops (⟨row.number, statement⟩ :: block) (row :: (first ++ second))

/-- The rows are the alternative of a choice, which may be left out if it is empty. -/
inductive AlternativeRows : Nat → Block → List Row → Prop where
  | absent {loops : Nat} : AlternativeRows loops [] []
  | present {loops : Nat} {blank : List Char} {block : Block} {row : Row} {rows : List Row}
      (margin : Margin blank) (text : row.text = headed .else (blank ++ [':']))
      (body : BlockRows loops block rows) : AlternativeRows loops block (row :: rows)

/-- The rows are the cases of a switch and its fallback, which may be left out if it is empty. -/
inductive CaseRows : Nat → List SwitchCase → Block → List Row → Prop where
  | nil {loops : Nat} : CaseRows loops [] [] []
  | fallback {loops : Nat} {blank : List Char} {block : Block} {row : Row} {rows : List Row}
      (margin : Margin blank) (text : row.text = headed .default (blank ++ [':']))
      (body : BlockRows loops block rows) : CaseRows loops [] block (row :: rows)
  | case {loops : Nat} {gap item : List Char} {values : List Expr} {items : List (List Char)}
      {block fallback : Block} {cases : List SwitchCase} {row : Row} {first second : List Row}
      (apart : Gap gap) (printed : Items values (item :: items))
      (text : row.text = headed .case (gap ++ List.intercalate [','] (item :: items) ++ [':']))
      (body : BlockRows loops block first) (rest : CaseRows loops cases fallback second) :
      CaseRows loops (⟨values, block⟩ :: cases) fallback (row :: (first ++ second))

/-- The rows are a printed form of the function. No loop around the function is around its body. -/
inductive FunctionRows : FunctionLiteral → List Row → Prop where
  | intro {name rest : List Char} {parameters : List (List Char)} {block : Block} {row stop : Row}
      {rows : List Row} (header : FunctionHeader name parameters rest)
      (text : row.text = headed .define rest) (body : BlockRows 0 block rows)
      (ends : stop.text = "end".toList) :
      FunctionRows ⟨String.ofList name, parameters.map String.ofList, block⟩ (row :: (rows ++ [stop]))

/-- The rows are the methods of a class and its other statements, in any order. -/
inductive MemberRows : List FunctionLiteral → Block → List Row → Prop where
  | nil : MemberRows [] [] []
  | method {method : FunctionLiteral} {methods : List FunctionLiteral} {block : Block}
      {first second : List Row} (head : FunctionRows method first)
      (rest : MemberRows methods block second) : MemberRows (method :: methods) block (first ++ second)
  | statement {statement : Statement} {methods : List FunctionLiteral} {block : Block} {row : Row}
      {first second : List Row} (head : StatementRows 0 statement (row :: first))
      (noMethod : isDefinition statement = false) (rest : MemberRows methods block second) :
      MemberRows methods (⟨row.number, statement⟩ :: block) (row :: (first ++ second))

end

/-- No text holds the end of a row. -/
def Unbroken (texts : List (List Char)) : Prop :=
  ∀ cs ∈ texts, ∀ c ∈ cs, isLineBreak c = false

instance (texts : List (List Char)) : Decidable (Unbroken texts) :=
  decidable_of_iff (texts.all (·.all (!isLineBreak ·)) = true) <| by
    simp only [Unbroken, List.all_eq_true, Bool.not_eq_true']

end LineScript.Program
