import ClientGen.Text.LowerCase

/-!
# Identifiers

Names in a document may hold any characters. In the generated client they become identifiers:
every character other than an ASCII letter, an ASCII digit or an underscore is replaced by an
underscore, and an underscore is put in front of a digit at the start.

## Main definitions

* `ClientGen.TypeScript.functionName`, `ClientGen.TypeScript.variableName`,
  `ClientGen.TypeScript.typeName`, `ClientGen.TypeScript.pascalCase` : identifiers for names.
* `ClientGen.TypeScript.isIdentifier` : a text needs no quotes as a key.
-/

namespace ClientGen.TypeScript

/-- ASCII letters, ASCII digits and the underscore. -/
def isWordChar (c : Char) : Bool := c.isAlphanum || c == '_'

/-- The text with an underscore in front of a digit at the start. -/
def guardDigit : List Char → List Char
  | c :: cs => if c.isDigit then '_' :: c :: cs else c :: cs
  | [] => []

/-- The word for a name. -/
def word (name : List Char) : List Char :=
  guardDigit (name.map fun c => if isWordChar c then c else '_')

/-- The name of the function for an operation. -/
def functionName (operationId : String) : String := String.ofList (word operationId.toList)

/-- The name of the variable for a parameter, in small letters. -/
def variableName (name : String) : String :=
  String.ofList ((word name.toList).map Char.toLower)

/-- The name of the declaration for a schema and of the module for a controller. -/
def typeName (name : String) : String :=
  if name.isEmpty then "Unnamed" else functionName name

/-- The text with a small first letter. -/
def lowerFirst (name : String) : String :=
  match name.toList with
  | [] => ""
  | c :: cs => String.ofList (Text.lowerChar c ++ cs)

/-- The ASCII letters and digits of a text; `start` says that the next one starts a word, whose
first letter becomes a capital. -/
def joinWords (start : Bool) : List Char → List Char
  | [] => []
  | c :: cs =>
    if c.isAlphanum then (if start then c.toUpper else c) :: joinWords false cs
    else joinWords true cs

/-- The words of a text as one identifier. -/
def pascalCase (text : String) : String :=
  let name := guardDigit (joinWords true text.toList)
  if name.isEmpty then "Api" else String.ofList name

/-- The character may start an identifier. -/
def isIdentifierStart (c : Char) : Bool := c.isAlpha || c == '_' || c == '$'

/-- The character may stand in an identifier. -/
def isIdentifierPart (c : Char) : Bool := isIdentifierStart c || c.isDigit

/-- The text is an identifier. -/
def isIdentifier : List Char → Bool
  | [] => false
  | c :: cs => isIdentifierStart c && cs.all isIdentifierPart

end ClientGen.TypeScript
