import LineScript.Expression.Operator

/-!
# Syntax trees

Expressions compute values and statements act. A block is a list of statements, each with the number of
the line it started on. A function literal carries its body, and a class literal carries its methods and
the statements of its body.
-/

namespace LineScript

inductive Literal where
  | text (value : String)
  | number (value : Float)
  | boolean (value : Bool)
  deriving Repr

mutual

inductive Expr where
  | null
  | literal (value : Literal)
  | variable (name : String)
  | binary (operator : BinaryOperator) (left right : Expr)
  | unary (operator : UnaryOperator) (operand : Expr)
  | property (target : Expr) (name : String)
  | call (callee : Expr) (arguments : List Expr)
  | list (elements : List Expr)
  | function (literal : FunctionLiteral)
  | class (literal : ClassLiteral)

structure FunctionLiteral where
  name : String
  parameters : List String
  body : List NumberedStatement

structure ClassLiteral where
  name : String
  parents : List String
  methods : List FunctionLiteral
  body : List NumberedStatement

inductive Statement where
  | expression (value : Expr)
  | assign (name : String) (operator : Option Operator) (value : Expr)
  | nonlocal (name : String) (operator : Option Operator) (value : Expr)
  | setProperty (target : Expr) (name : String) (operator : Option Operator) (value : Expr)
  | choose (condition : Expr) (consequent alternative : List NumberedStatement)
  | loop (condition : Expr) (body : List NumberedStatement)
  | switch (subject : Expr) (cases : List SwitchCase) (fallback : List NumberedStatement)
  | return (value : Option Expr)
  | throw (value : Expr)
  | guard (body : List NumberedStatement) (caught : String) (handler : List NumberedStatement)
  | break
  /-- The import of a module, bound to the alias or to the last name of its path. -/
  | importModule (path : List String) (localName : Option String)

structure SwitchCase where
  values : List Expr
  body : List NumberedStatement

structure NumberedStatement where
  line : Int
  statement : Statement

end

abbrev Block := List NumberedStatement

def moduleName (path : List String) : String :=
  ".".intercalate path

def boundName (path : List String) (localName : Option String) : String :=
  localName.getD (path.getLast?.getD "")

end LineScript
