/-!
# Fresh names

A name that is taken already is changed until it is free: a variable gets a number, and the alias
for responses gets underscores.

## Main definitions

* `ClientGen.TypeScript.firstFree` : the first candidate that is free.
* `ClientGen.TypeScript.freshVariable`, `ClientGen.TypeScript.wrapperName` : the two kinds of
  fresh names.
-/

namespace ClientGen.TypeScript

/-- The first candidate that is not taken. Among more candidates than names are taken, one is free
if they are distinct. -/
def firstFree (candidate : Nat → String) (taken : List String) : String :=
  candidate
    (((List.range (taken.length + 1)).find? fun k => !taken.contains (candidate k)).getD 0)

/-- The candidates for a variable: the name itself, and with the numbers from two on. -/
def numbered (base : String) : Nat → String
  | 0 => base
  | k + 1 => base ++ "_" ++ toString (k + 2)

/-- The name of a variable that is not taken. -/
def freshVariable (base : String) (taken : List String) : String := firstFree (numbered base) taken

/-- The candidates for the alias for responses. -/
def wrapperCandidate (k : Nat) : String := "ApiResponse" ++ String.ofList (List.replicate k '_')

/-- The alias for responses, which no declaration may have as its name. -/
def wrapperName (declared : List String) : String := firstFree wrapperCandidate declared

end ClientGen.TypeScript
