/-!
# Tags

A tag says what kind of data a node is. The kinds of the common schema have names under one authority; a tag
of any other name says nothing that can be read.
-/

namespace LineScript.Yaml

inductive Tag where
  | null
  | boolean
  | integer
  | number
  | bytes
  | moment
  | text
  | list
  | mapping
  | set
  | pairs
  | ordered
  | merge
  | fallback
  | unknown
  deriving Repr, DecidableEq

namespace Tag

def authority : String :=
  "tag:yaml.org,2002:"

def schema : List (String × Tag) :=
  [("null", .null), ("bool", .boolean), ("int", .integer), ("float", .number), ("binary", .bytes),
    ("timestamp", .moment), ("str", .text), ("seq", .list), ("map", .mapping), ("set", .set), ("pairs", .pairs),
    ("omap", .ordered), ("merge", .merge), ("value", .fallback)]

def ofName (name : List Char) : Tag :=
  ((schema.map fun (short, tag) => ((authority ++ short).toList, tag)).lookup name).getD .unknown

def isScalar : Tag → Bool
  | .null | .boolean | .integer | .number | .bytes | .moment | .text => true
  | _ => false

def isCollection : Tag → Bool
  | .list | .mapping | .set | .pairs | .ordered => true
  | _ => false

end Tag

end LineScript.Yaml
