/-!
# Alphabetical order

Names are listed in the order of their code points, each once.

## Main definitions

* `ClientGen.Text.alphabetical` : the names of a list in alphabetical order.
-/

namespace ClientGen.Text

/-- The names of a list in alphabetical order, each once. -/
def alphabetical (names : List String) : List String :=
  names.eraseDups.mergeSort fun a b => decide (a ≤ b)

end ClientGen.Text
