import ClientGen.Fault

/-!
# Why a text is not read

The readers of both notations fail in the same three ways.

## Main definitions

* `ClientGen.ReadError` : why a text is not read as a value.
-/

namespace ClientGen

/-- Why a text is not read as a value. -/
inductive ReadError where
  /-- The text is not in the grammar. -/
  | malformed
  /-- The text opens more containers inside each other than the reader follows. -/
  | tooDeep
  /-- The text is in the grammar, but a scalar in it has no value. -/
  | fault (f : Fault)
  deriving DecidableEq

end ClientGen
