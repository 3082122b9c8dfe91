import ClientGen.TypeScript.Comment
import ClientGen.TypeScript.SchemaType

/-!
# Declarations

A named schema is declared in the generated client: a schema with properties as an interface, any
other one as an alias for its type.

## Main definitions

* `ClientGen.TypeScript.Property` : a member of an interface.
* `ClientGen.TypeScript.Declaration` : declarations.
* `ClientGen.TypeScript.Declaration.ofSchema` : the declaration of a named schema.
* `ClientGen.TypeScript.Declaration.lines` : how a declaration is written.
-/

namespace ClientGen.TypeScript

/-- A member of an interface. -/
structure Property where
  /-- The name, as the document has it. -/
  name : Scalar
  /-- The member may be left out. -/
  mayMiss : Bool
  /-- The type. -/
  type : TypeExpr
  /-- The description; empty if there is none. -/
  description : String

/-- What a name is declared as. -/
inductive DeclarationBody where
  /-- Another name for a type. -/
  | alias (type : TypeExpr)
  /-- Objects with the given members. -/
  | interface (properties : List Property)

/-- Declarations. -/
structure Declaration where
  /-- The name. -/
  name : String
  /-- The description; empty if there is none. -/
  description : String := ""
  /-- What the name is declared as. -/
  body : DeclarationBody

/-- The description of a schema, without blanks at its ends; empty if there is none. -/
def descriptionOf (schema : Value) : String :=
  match (schema.field "description").text? with
  | some s => Text.trim s
  | none => ""

/-- The member of an interface for a property. -/
def Property.ofEntry (required : List Scalar) (entry : Scalar × Value) : Except Fault Property := do
  return {
    name := entry.1, mayMiss := !isRequired required entry.1, type := ← schemaType entry.2,
    description := descriptionOf entry.2 }

/-- The properties of a schema; none if there is no value for them that counts as present. -/
def propertiesOf (schema : Value) : Except Fault (List (Scalar × Value)) :=
  let properties := schema.field "properties"
  match properties.entries? with
  | some es => .ok es
  | none => if properties.isFilled then .error .mappingExpected else .ok []

namespace Declaration

/-- The schema is declared as an interface: it has properties or is said to be an object, and is
no enumeration. -/
def isInterface (schema : Value) : Bool :=
  (schema.field "type" == .text "object" || (schema.field "properties").isMapping) &&
    (schema.get? "enum").isNone

/-- The declaration of a named schema. -/
def ofSchema (name : String) (schema : Value) : Except Fault Declaration := do
  let name := typeName name
  if !schema.isMapping then return { name, body := .alias .any }
  let description := descriptionOf schema
  if isInterface schema then
    let required ← requiredNames schema
    let properties ← (← propertiesOf schema).mapM (Property.ofEntry required)
    return { name, description, body := .interface properties }
  return { name, description, body := .alias (← schemaType schema) }

end Declaration

/-- The comment for a description; none if it is empty. -/
def descriptionLines (indent description : String) : List String :=
  if description.isEmpty then [] else [indent ++ "/** " ++ commentText description ++ " */"]

/-- How a member of an interface is written. Its name has to be a text. -/
def Property.lines (p : Property) : Except Fault (List String) := do
  let name ← keyOf p.name
  return descriptionLines "  " p.description ++
    ["  " ++ propertyKey name ++ (if p.mayMiss then "?" else "") ++ ": " ++ p.type.text ++ ";"]

/-- How a declaration is written. -/
def Declaration.lines (d : Declaration) : Except Fault (List String) := do
  let body ← match d.body with
    | .alias t => pure ["export type " ++ d.name ++ " = " ++ t.text ++ ";"]
    | .interface ps => do
      let members ← ps.mapM Property.lines
      pure (["export interface " ++ d.name ++ " \x7b"] ++ members.flatten ++ ["\x7d"])
  return descriptionLines "" d.description ++ body

end ClientGen.TypeScript
