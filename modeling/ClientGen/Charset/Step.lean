/-!
# Decoding byte by byte

A character set with codes of several bytes is read step by step. Every step looks at the bytes that
are left. It finds a code, or a byte that starts none, or the start of a code that the bytes do
not finish. The places where no character can be read stay visible in what is read.

## Main definitions

* `ClientGen.Charset.Reading` : characters, and the places without one.
* `ClientGen.Charset.Step` : what the bytes at the front say.
* `ClientGen.Charset.steps` : reading bytes to their end.
-/

namespace ClientGen.Charset

/-- Characters; `none` stands where bytes write no character. -/
abbrev Reading := List (Option Char)

/-- What the bytes at the front say. -/
inductive Step (σ : Type) where
  /-- The first byte and `more` further ones write characters. The next bytes are read in
  `state`. -/
  | chars (cs : List Char) (more : Nat) (state : σ)
  /-- The first byte and `more` further ones write nothing. -/
  | wrong (more : Nat)
  /-- The bytes are the start of a code. -/
  | short

namespace Step

/-- A step that keeps no state. -/
abbrev Plain := Step Unit

/-- A character written by the first byte and `more` further ones. -/
def one (c : Char) (more : Nat) : Plain := chars [c] more ()

/-- Characters that a table has, written by the first byte and `more` further ones; if it has none,
the first byte writes nothing. -/
def ofTable (cs : Option (List Char)) (more : Nat) : Plain :=
  match cs with
  | some cs => chars cs more ()
  | none => wrong 0

end Step

/-- The character of a number. -/
def charOf (n : Nat) : Char := Char.ofNat n

/-- Reads bytes to their end. -/
def steps {σ : Type} (step : σ → UInt8 → List UInt8 → Step σ) (state : σ) : List UInt8 → Reading
  | [] => []
  | b :: bs =>
    match step state b bs with
    | .chars cs more state => cs.map some ++ steps step state (bs.drop more)
    | .wrong more => none :: steps step state (bs.drop more)
    | .short => [none]
termination_by bs => bs.length
decreasing_by all_goals simp only [List.length_drop, List.length_cons]; omega

/-- The number of bytes at the end that are only the start of a code. -/
def unfinished {σ : Type} (step : σ → UInt8 → List UInt8 → Step σ) (state : σ) : List UInt8 → Nat
  | [] => 0
  | b :: bs =>
    match step state b bs with
    | .chars _ more state => unfinished step state (bs.drop more)
    | .wrong more => unfinished step state (bs.drop more)
    | .short => bs.length + 1
termination_by bs => bs.length
decreasing_by all_goals simp only [List.length_drop, List.length_cons]; omega

/-- Reads bytes to their end without a state. -/
def plainSteps (step : UInt8 → List UInt8 → Step.Plain) : List UInt8 → Reading :=
  steps (fun _ => step) ()

/-- A step of a set in which the first 128 codes are those of ASCII and all others have two bytes,
whose characters `look` gives. -/
def twoByteStep (look : Nat → Nat → Option (List Char)) (b : UInt8) (bs : List UInt8) :
    Step.Plain :=
  if b < 0x80 then .one (charOf b.toNat) 0
  else match bs with
    | [] => .short
    | c :: _ => .ofTable (look b.toNat c.toNat) 1

end ClientGen.Charset
