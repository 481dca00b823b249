/-!
# Built-in functions

The functions and methods that come with the language, by the class they belong to. Each has a name and
the names of its parameters.
-/

namespace LineScript

inductive GlobalFunction where
  | print
  | println
  | input
  | hasValue
  | noValue
  | typeof
  | currentTimeMillis
  | loadedModules
  deriving Repr, DecidableEq

inductive FunctionMethod where
  | name
  | apply
  deriving Repr, DecidableEq

inductive ClassMethod where
  | name
  | parents
  deriving Repr, DecidableEq

inductive TextMethod where
  | init
  | length
  | toUpperCase
  | toLowerCase
  | trim
  | charAt
  | indexOf
  | substring
  | startsWith
  | endsWith
  | includes
  | split
  | toString
  deriving Repr, DecidableEq

inductive ListMethod where
  | init
  | add
  | get
  | set
  | length
  | isEmpty
  | includes
  | indexOf
  | join
  | slice
  | reverse
  | swap
  | map
  | filter
  | forEach
  | all
  | any
  | find
  | sort
  | toString
  deriving Repr, DecidableEq

inductive NumberFunction where
  | parseFloat
  | parseInt
  | isNaN
  | isFinite
  | isInteger
  deriving Repr, DecidableEq

inductive ExceptionMethod where
  | init
  | getMessage
  | toString
  | printStackTrace
  deriving Repr, DecidableEq

inductive Native where
  | global (function : GlobalFunction)
  | functionMethod (method : FunctionMethod)
  | classMethod (method : ClassMethod)
  | textMethod (method : TextMethod)
  /-- The function that fills a template, which the text class holds. -/
  | formatText
  | listMethod (method : ListMethod)
  /-- The function that makes a list of equal items, which the list class holds. -/
  | createList
  | numberFunction (function : NumberFunction)
  | exceptionMethod (method : ExceptionMethod)
  deriving Repr, DecidableEq

namespace GlobalFunction

def every : List GlobalFunction :=
  [.print, .println, .input, .hasValue, .noValue, .typeof, .currentTimeMillis, .loadedModules]

def name : GlobalFunction → String
  | .print => "print"
  | .println => "println"
  | .input => "input"
  | .hasValue => "hasValue"
  | .noValue => "noValue"
  | .typeof => "typeof"
  | .currentTimeMillis => "currentTimeMillis"
  | .loadedModules => "loadedModules"

def parameters : GlobalFunction → List String
  | .print | .println | .hasValue | .noValue | .typeof => ["value"]
  | .input => ["prompt"]
  | .currentTimeMillis | .loadedModules => []

end GlobalFunction

namespace TextMethod

def every : List TextMethod :=
  [.init, .length, .toUpperCase, .toLowerCase, .trim, .charAt, .indexOf, .substring, .startsWith, .endsWith,
    .includes, .split, .toString]

def name : TextMethod → String
  | .init => "init"
  | .length => "length"
  | .toUpperCase => "toUpperCase"
  | .toLowerCase => "toLowerCase"
  | .trim => "trim"
  | .charAt => "charAt"
  | .indexOf => "indexOf"
  | .substring => "substring"
  | .startsWith => "startsWith"
  | .endsWith => "endsWith"
  | .includes => "includes"
  | .split => "split"
  | .toString => "toString"

def parameters : TextMethod → List String
  | .init => ["value"]
  | .length | .toUpperCase | .toLowerCase | .trim | .toString => []
  | .charAt => ["index"]
  | .indexOf => ["sub", "start"]
  | .substring => ["start", "end"]
  | .startsWith => ["prefix"]
  | .endsWith => ["suffix"]
  | .includes => ["sub"]
  | .split => ["separator"]

end TextMethod

namespace ListMethod

def every : List ListMethod :=
  [.init, .add, .get, .set, .length, .isEmpty, .includes, .indexOf, .join, .slice, .reverse, .swap, .map,
    .filter, .forEach, .all, .any, .find, .sort, .toString]

def name : ListMethod → String
  | .init => "init"
  | .add => "add"
  | .get => "get"
  | .set => "set"
  | .length => "length"
  | .isEmpty => "isEmpty"
  | .includes => "includes"
  | .indexOf => "indexOf"
  | .join => "join"
  | .slice => "slice"
  | .reverse => "reverse"
  | .swap => "swap"
  | .map => "map"
  | .filter => "filter"
  | .forEach => "forEach"
  | .all => "all"
  | .any => "any"
  | .find => "find"
  | .sort => "sort"
  | .toString => "toString"

def parameters : ListMethod → List String
  | .init => ["length"]
  | .add | .includes | .indexOf => ["value"]
  | .get => ["index"]
  | .set => ["index", "value"]
  | .length | .isEmpty | .reverse | .toString => []
  | .join => ["separator"]
  | .slice => ["start", "end"]
  | .swap => ["i", "j"]
  | .map | .filter | .forEach | .all | .any | .find => ["fn"]
  | .sort => ["comparator"]

end ListMethod

namespace NumberFunction

def every : List NumberFunction :=
  [.parseFloat, .parseInt, .isNaN, .isFinite, .isInteger]

def name : NumberFunction → String
  | .parseFloat => "parseFloat"
  | .parseInt => "parseInt"
  | .isNaN => "isNaN"
  | .isFinite => "isFinite"
  | .isInteger => "isInteger"

def parameters : NumberFunction → List String
  | .parseInt => ["value", "radix"]
  | _ => ["value"]

end NumberFunction

namespace ExceptionMethod

def every : List ExceptionMethod :=
  [.init, .getMessage, .toString, .printStackTrace]

def name : ExceptionMethod → String
  | .init => "init"
  | .getMessage => "getMessage"
  | .toString => "toString"
  | .printStackTrace => "printStackTrace"

def parameters : ExceptionMethod → List String
  | .init => ["message"]
  | _ => []

end ExceptionMethod

namespace Native

def name : Native → String
  | .global function => function.name
  | .functionMethod .name => "name"
  | .functionMethod .apply => "apply"
  | .classMethod .name => "name"
  | .classMethod .parents => "parents"
  | .textMethod method => method.name
  | .formatText => "format"
  | .listMethod method => method.name
  | .createList => "create"
  | .numberFunction function => function.name
  | .exceptionMethod method => method.name

def parameters : Native → List String
  | .global function => function.parameters
  | .functionMethod .name => []
  | .functionMethod .apply => ["args"]
  | .classMethod _ => []
  | .textMethod method => method.parameters
  | .formatText => ["template"]
  | .listMethod method => method.parameters
  | .createList => ["length", "value"]
  | .numberFunction function => function.parameters
  | .exceptionMethod method => method.parameters

end Native

end LineScript
