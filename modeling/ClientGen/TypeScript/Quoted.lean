import ClientGen.TypeScript.Identifier

/-!
# Quoted texts

A text stands in single quotes, with a backslash in front of every quote and backslash. A key of an
object stands without quotes if it is an identifier.

## Main definitions

* `ClientGen.TypeScript.escape`, `ClientGen.TypeScript.quoted` : writing a text.
* `ClientGen.TypeScript.propertyKey` : writing a key.
-/

namespace ClientGen.TypeScript

/-- The text with backslashes in front of quotes and backslashes. -/
def escape : List Char → List Char
  | [] => []
  | c :: cs => if c = '\'' ∨ c = '\\' then '\\' :: c :: escape cs else c :: escape cs

/-- The text in quotes. -/
def quoted (s : String) : String := String.ofList ('\'' :: escape s.toList ++ ['\''])

/-- The text without a line feed at its end. -/
def withoutFinalBreak (cs : List Char) : List Char :=
  if cs.getLast? = some '\n' then cs.dropLast else cs

/-- The key of an object. A line feed at the end does not count for whether the key is an
identifier. -/
def propertyKey (name : String) : String :=
  if isIdentifier (withoutFinalBreak name.toList) then name else quoted name

end ClientGen.TypeScript
