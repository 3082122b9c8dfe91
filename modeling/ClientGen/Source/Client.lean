import ClientGen.Api.Projection
import ClientGen.Document.Resolution
import ClientGen.Source.Basic

/-!
# From locators to clients

## Main definitions

* `ClientGen.Settings.projection` : how the settings collect operations.
* `ClientGen.clientOf` : the client of a document.
* `ClientGen.loadClient` : the client of the document that a locator leads to.
-/

namespace ClientGen

/-- How the settings collect operations. -/
def Settings.projection (s : Settings) : Projection :=
  { defaultController := s.defaultController, internalMarker := s.internalMarker }

/-- The client of a document in its canonical form. -/
def clientOf (p : Projection) (d : Document) : Except Problem Client := do
  Fault.lift (p.client (← d.resolve))

/-- The client of the document that a locator leads to. -/
def loadClient (locator : String) (s : Settings) : Action Client := do
  let d ← loadDocument locator s.fetch
  Action.ofExcept (clientOf s.projection d)

end ClientGen
