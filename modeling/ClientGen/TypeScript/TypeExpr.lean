import ClientGen.TypeScript.Quoted
import ClientGen.Value.Display

/-!
# Type expressions

## Main definitions

* `ClientGen.TypeScript.Literal` : texts, numbers, truth values and null as types.
* `ClientGen.TypeScript.TypeExpr` : type expressions.
* `ClientGen.TypeScript.TypeExpr.text` : the text of a type expression.
* `ClientGen.TypeScript.TypeExpr.models` : the declarations that a type expression names.
-/

namespace ClientGen.TypeScript

/-- Texts, numbers, truth values and null as types. -/
inductive Literal where
  /-- A text. -/
  | text (s : String)
  /-- A whole number. -/
  | int (n : Int)
  /-- A floating-point number. -/
  | float (x : Float)
  /-- A truth value. -/
  | bool (b : Bool)
  /-- Null. -/
  | null
  deriving DecidableEq

namespace Literal

/-- The literal for a value; any value without one of its own is taken as the text that displays
it. -/
def ofValue (v : Value) : Except Fault Literal := do
  let shown ← v.shown
  return match v with
  | .scalar .null => null
  | .scalar (.bool b) => bool b
  | .scalar (.int n) => int n
  | .scalar (.float x) => float x
  | .scalar (.nan _) => float (0.0 / 0.0)
  | _ => text shown

/-- How a literal is written. -/
def write : Literal → String
  | text s => quoted s
  | int n => toString n
  | float x => Decimal.document.write x
  | bool true => "true"
  | bool false => "false"
  | null => "null"

end Literal

/-- Type expressions. -/
inductive TypeExpr where
  /-- Anything. -/
  | any
  /-- Nothing at all. -/
  | void
  /-- Anything, to be inspected before use. -/
  | unknown
  /-- Numbers. -/
  | number
  /-- Texts. -/
  | string
  /-- Truth values. -/
  | boolean
  /-- What a declaration of that name says. -/
  | model (name : String)
  /-- Lists. -/
  | array (item : TypeExpr)
  /-- Objects with any keys. -/
  | record (value : TypeExpr)
  /-- One of some literals. -/
  | literals (ls : List Literal)
  /-- Objects with the given keys; the truth value says that a key has to be there. -/
  | object (members : List (String × Bool × TypeExpr))
  deriving Inhabited

namespace TypeExpr

/-- The type of a primitive kind of schema. -/
def ofPrimitive? : String → Option TypeExpr
  | "integer" => some number
  | "number" => some number
  | "string" => some string
  | "boolean" => some boolean
  | _ => none

/-- A key with the mark of keys that may be left out. -/
def memberHead (name : String) (required : Bool) : String :=
  propertyKey name ++ (if required then "" else "?") ++ ": "

mutual

/-- The text of a type expression. -/
def text : TypeExpr → String
  | any => "any"
  | void => "void"
  | unknown => "unknown"
  | number => "number"
  | string => "string"
  | boolean => "boolean"
  | model name => name
  | array t => "Array<" ++ text t ++ ">"
  | record t => "Record<string, " ++ text t ++ ">"
  | literals ls => " | ".intercalate (ls.map Literal.write)
  | object ms => "\x7b " ++ "; ".intercalate (memberTexts ms) ++ " \x7d"

/-- The texts of the members of an object. -/
def memberTexts : List (String × Bool × TypeExpr) → List String
  | [] => []
  | (name, required, t) :: ms => (memberHead name required ++ text t) :: memberTexts ms

end

mutual

/-- The declarations that a type expression names. -/
def models : TypeExpr → List String
  | model name => [name]
  | array t => models t
  | record t => models t
  | object ms => memberModels ms
  | _ => []

/-- The declarations that the members of an object name. -/
def memberModels : List (String × Bool × TypeExpr) → List String
  | [] => []
  | (_, _, t) :: ms => models t ++ memberModels ms

end

end TypeExpr

end ClientGen.TypeScript
