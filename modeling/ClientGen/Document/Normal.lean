import ClientGen.Document.Basic
import ClientGen.Failure
import ClientGen.Value.Display

/-!
# The canonical form of a document

A document is recognised by one of the fields `swagger`, `openapi`, `info` and `paths`. With the
field `swagger` it is in the older form: its servers are put together from scheme, host and base
path, four of its sections move below `components`, and references into these sections move with
them. Without it, the sections are taken as they are.

## Main definitions

* `ClientGen.Document.isMarked` : the value is recognised as a document.
* `ClientGen.Document.legacySections` : the sections that move.
* `ClientGen.Document.movePointer`, `ClientGen.Document.moveReferences` : references into them.
* `ClientGen.Document.normalize` : the canonical form.
-/

namespace ClientGen.Document

/-- The fields that mark a document. -/
def markers : List String := ["swagger", "openapi", "info", "paths"]

/-- The value is recognised as a document. -/
def isMarked (v : Value) : Bool := markers.any fun m => (v.get? m).isSome

/-- The sections of the older form that move below `components`, with their new names. -/
def legacySections : List (String × String) :=
  [("definitions", "schemas"), ("parameters", "parameters"), ("responses", "responses"),
    ("securityDefinitions", "securitySchemes")]

/-- How references into a section start. -/
def legacyStart (name : String) : List Char := ("#/" ++ name ++ "/").toList

/-- How references into a section below `components` start. -/
def canonicalStart (name : String) : List Char := ("#/components/" ++ name ++ "/").toList

/-- The reference after the sections have moved. -/
def movePointer (ref : String) : String :=
  match legacySections.find? fun s => (legacyStart s.1).isPrefixOf ref.toList with
  | some (old, new) =>
    String.ofList (canonicalStart new ++ ref.toList.drop (legacyStart old).length)
  | none => ref

mutual

/-- The value with all references moved. A container that the walk comes back to stays as it was;
`outer` has the containers around the value that can be met again. -/
def moveIn (outer : List (Nat × Value)) : Value → Value
  | .scalar s => .scalar s
  | .members ks => .members ks
  | .pair k v => (Value.pair k v).close outer []
  | .sequence xs => .sequence (moveItems outer xs)
  | .mapping es => .mapping (moveEntries outer es)
  | .knot n (.pair k v) => (Value.knot n (.pair k v)).close outer []
  | .knot n b => moveIn ((n, (Value.knot n b).close outer []) :: outer) b
  | .again n => (outer.lookup n).getD (.again n)

/-- `moveIn` on every item. -/
def moveItems (outer : List (Nat × Value)) : List Value → List Value
  | [] => []
  | x :: xs => moveIn outer x :: moveItems outer xs

/-- `moveIn` on the value of every entry; the text of a reference is moved. -/
def moveEntries (outer : List (Nat × Value)) : List (Scalar × Value) → List (Scalar × Value)
  | [] => []
  | (k, v) :: es =>
    let v' := match k, v with
      | .text "$ref", .scalar (.text r) => .text (movePointer r)
      | _, v => moveIn outer v
    (k, v') :: moveEntries outer es

end

/-- The number of containers inside each other up to which references are moved, with two calls for
each. -/
def moveLimit : Nat := callLimit / 2

/-- The value with all references moved. -/
def moveReferences (v : Value) : Value := moveIn [] v

/-- The value if it is a mapping, and an empty mapping otherwise. -/
def mappingOf (v : Value) : Value := if v.isMapping then v else .mapping []

/-- The items of the value if it is a sequence, and none otherwise. -/
def itemsOf (v : Value) : List Value := v.items?.getD []

/-- The address that scheme, host and base path of the older form make up. -/
def legacyAddress (raw : Value) : Except Fault (Option String) :=
  let host := raw.field "host"
  if host.isFilled then do
    let scheme ← match itemsOf (raw.field "schemes") with
      | s :: _ => s.shown
      | [] => pure "https"
    let host ← host.shown
    let path ← ((raw.field "basePath").orElse (.text "")).shown
    return some (scheme ++ "://" ++ host ++ path)
  else .ok none

/-- The version of the canonical form for a version of the older one. -/
def canonicalVersion (version : String) : String := if version = "2.0" then "3.0.0" else version

/-- The sections below `components`, as the older form has them. -/
def legacyComponents (raw : Value) : Value :=
  .ofFields (legacySections.map fun s => (s.2, mappingOf (raw.field s.1)))

/-- The document with sections that may still have keys other than texts. -/
def assemble (openapi : String) (info : Value) (servers : List Value) (paths components : Value)
    (tags : List Value) : Except Problem Document :=
  Fault.lift <| need do
    return { openapi, info := ← info.asFields?, servers := ← servers.mapM Value.asFields?,
             paths := ← paths.asFields?, components := ← components.asFields?, tags }

/-- The canonical form of a document in the older form. -/
def normalizeLegacy (raw : Value) : Except Problem Document := do
  let version ← Fault.lift (raw.field "swagger").shown
  let address ← Fault.lift (legacyAddress raw)
  let paths := mappingOf (raw.field "paths")
  let components := legacyComponents raw
  if moveLimit < max paths.nesting components.nesting then
    .error (.failure .tooDeepToNormalize)
  else
    assemble (canonicalVersion version) (mappingOf (raw.field "info"))
      (address.toList.map fun url => .ofFields [("url", .text url)])
      (moveReferences paths) (moveReferences components) (itemsOf (raw.field "tags"))

/-- The canonical form of a document in the present form. -/
def normalizeCurrent (raw : Value) : Except Problem Document := do
  let version ← Fault.lift <| match raw.get? "openapi" with
    | none | some (.scalar .null) => .ok ""
    | some v => v.shown
  assemble version (mappingOf (raw.field "info"))
    ((itemsOf (raw.field "servers")).filter Value.isMapping) (mappingOf (raw.field "paths"))
    (mappingOf (raw.field "components")) (itemsOf (raw.field "tags"))

/-- The canonical form of a document. -/
def normalize (raw : Value) : Except Problem Document :=
  if !isMarked raw then .error (.failure .notADocument)
  else if (raw.get? "swagger").isSome then normalizeLegacy raw
  else normalizeCurrent raw

end ClientGen.Document
