import ClientGen.Table
import ClientGen.Value.Scalar

/-!
# Document values

A decoded document is a tree of scalars, sequences and mappings; sets and pairs come from
tagged collections. A container that can be reached from itself is written finitely: `knot name
body` binds a name to the container, and `again name` inside the body stands for the whole container
once more. On a path from the root a name is bound at most once, so `again` marks exactly the
place where the path comes back to a container it is still inside of. All containers on such a way
back have names, not only those that a path from the root meets first: each of them can be looked
at on its own, and then is the first one itself. Values without such containers never hold a `knot`.

The accessors of this file look through knots: `Value.opened` writes the container out one
level, so that its children stand on their own.

## Main definitions

* `ClientGen.Value` : document values.
* `ClientGen.Value.close`, `ClientGen.Value.opened` : replacing `again` by what it stands for.
* `ClientGen.Value.entries?`, `ClientGen.Value.items?`, `ClientGen.Value.get?`,
  `ClientGen.Value.field` : access to the children.
* `ClientGen.Value.isFilled` : the value counts as present and not empty.
* `ClientGen.Value.nesting` : the depth of containers.
* `ClientGen.Value.Plain` : no container occurs inside itself.
-/

namespace ClientGen

/-- Document values. -/
inductive Value where
  /-- An undivided value. -/
  | scalar (s : Scalar)
  /-- A list of values. -/
  | sequence (items : List Value)
  /-- Entries with distinct keys, in order. -/
  | mapping (entries : List (Scalar × Value))
  /-- A set of scalars, in the order in which they are listed. -/
  | members (elements : List Scalar)
  /-- A key and a value, as an entry of an ordered list of entries. -/
  | pair (key value : Value)
  /-- A container that can be reached from itself; in its body `again name` stands for it. -/
  | knot (name : Nat) (body : Value)
  /-- The enclosing container of that name once more. -/
  | again (name : Nat)
  deriving Inhabited

namespace Value

/-- No value. -/
abbrev null : Value := scalar .null

/-- A text. -/
abbrev text (s : String) : Value := scalar (.text s)

/-- A truth value. -/
abbrev bool (b : Bool) : Value := scalar (.bool b)

/-- A whole number. -/
abbrev int (n : Int) : Value := scalar (.int n)

/-- The mapping with the given text keys. -/
def ofFields (fs : Table String Value) : Value := mapping (fs.map fun f => (.text f.1, f.2))

/-! ### Containers inside themselves -/

mutual

/-- Writes `again` for every knot whose name is in `names`. -/
def fold (names : List Nat) : Value → Value
  | scalar s => scalar s
  | sequence xs => sequence (foldItems names xs)
  | mapping es => mapping (foldEntries names es)
  | members ks => members ks
  | pair k v => pair (fold names k) (fold names v)
  | knot n b => if names.contains n then again n else knot n (fold names b)
  | again n => again n

/-- `fold` on every item. -/
def foldItems (names : List Nat) : List Value → List Value
  | [] => []
  | x :: xs => fold names x :: foldItems names xs

/-- `fold` on the value of every entry. -/
def foldEntries (names : List Nat) : Table Scalar Value → Table Scalar Value
  | [] => []
  | (k, v) :: es => (k, fold names v) :: foldEntries names es

end

mutual

/-- Replaces every `again n` that no knot inside the value binds by the value of `n` in `outer`.
`bound` lists the names bound on the way; a replacement that holds such a knot refers to it. -/
def close (outer : List (Nat × Value)) (bound : List Nat) : Value → Value
  | scalar s => scalar s
  | sequence xs => sequence (closeItems outer bound xs)
  | mapping es => mapping (closeEntries outer bound es)
  | members ks => members ks
  | pair k v => pair (close outer bound k) (close outer bound v)
  | knot n b => knot n (close outer (n :: bound) b)
  | again n =>
    if bound.contains n then again n
    else match outer.lookup n with
      | some v => fold bound v
      | none => again n

/-- `close` on every item. -/
def closeItems (outer : List (Nat × Value)) (bound : List Nat) : List Value → List Value
  | [] => []
  | x :: xs => close outer bound x :: closeItems outer bound xs

/-- `close` on the value of every entry. -/
def closeEntries (outer : List (Nat × Value)) (bound : List Nat) :
    Table Scalar Value → Table Scalar Value
  | [] => []
  | (k, v) :: es => (k, close outer bound v) :: closeEntries outer bound es

end

/-- The value with its outermost container written out: no knot stands at the top, and the
children stand on their own. -/
def opened : Value → Value
  | knot n b => close [(n, knot n b)] [] b
  | v => v

mutual

/-- No container of the value occurs inside itself. -/
def plain : Value → Bool
  | scalar _ | members _ => true
  | sequence xs => plainItems xs
  | mapping es => plainEntries es
  | pair k v => plain k && plain v
  | knot _ _ | again _ => false

/-- `plain` for every item. -/
def plainItems : List Value → Bool
  | [] => true
  | x :: xs => plain x && plainItems xs

/-- `plain` for the value of every entry. -/
def plainEntries : Table Scalar Value → Bool
  | [] => true
  | (_, v) :: es => plain v && plainEntries es

end

/-- No container of the value occurs inside itself. -/
def Plain (v : Value) : Prop := v.plain = true

instance (v : Value) : Decidable v.Plain := inferInstanceAs (Decidable (v.plain = true))

mutual

theorem close_of_plain (outer : List (Nat × Value)) (bound : List Nat) :
    (v : Value) → v.plain = true → v.close outer bound = v
  | scalar _, _ | members _, _ => rfl
  | sequence xs, h => congrArg sequence (closeItems_of_plain outer bound xs h)
  | mapping es, h => congrArg mapping (closeEntries_of_plain outer bound es h)
  | pair k v, h => by
    simp only [plain, Bool.and_eq_true] at h
    simp only [close, close_of_plain outer bound k h.1, close_of_plain outer bound v h.2]
  | knot _ _, h | again _, h => by simp [plain] at h

theorem closeItems_of_plain (outer : List (Nat × Value)) (bound : List Nat) :
    (xs : List Value) → plainItems xs = true → closeItems outer bound xs = xs
  | [], _ => rfl
  | x :: xs, h => by
    simp only [plainItems, Bool.and_eq_true] at h
    simp only [closeItems, close_of_plain outer bound x h.1, closeItems_of_plain outer bound xs h.2]

theorem closeEntries_of_plain (outer : List (Nat × Value)) (bound : List Nat) :
    (es : List (Scalar × Value)) → plainEntries es = true → closeEntries outer bound es = es
  | [], _ => rfl
  | (k, v) :: es, h => by
    simp only [plainEntries, Bool.and_eq_true] at h
    simp only [closeEntries, close_of_plain outer bound v h.1,
      closeEntries_of_plain outer bound es h.2]

end

/-! ### Children -/

/-- The entries of a mapping, each standing on its own. -/
def entries? (v : Value) : Option (Table Scalar Value) :=
  match v.opened with
  | mapping es => some es
  | _ => none

/-- The items of a sequence, each standing on its own. -/
def items? (v : Value) : Option (List Value) :=
  match v.opened with
  | sequence xs => some xs
  | _ => none

/-- The value under a text key of a mapping. -/
def get? (v : Value) (key : String) : Option Value :=
  v.entries?.bind fun es => es.lookup (.text key)

/-- The value under a text key of a mapping; null where there is none. -/
def field (v : Value) (key : String) : Value := (v.get? key).getD null

/-- The text, if the value is one. -/
def text? : Value → Option String
  | scalar (.text s) => some s
  | _ => none

/-- The value is a mapping. -/
def isMapping (v : Value) : Bool := v.entries?.isSome

/-- The value is a sequence. -/
def isSequence (v : Value) : Bool := v.items?.isSome

/-- The value counts as present: it is not null, false, zero or empty. -/
def isFilled : Value → Bool
  | scalar .null => false
  | scalar (.bool b) => b
  | scalar (.int n) => n != 0
  | scalar (.float x) => x != 0
  | scalar (.text s) => !s.isEmpty
  | scalar (.bytes bs) => !bs.isEmpty
  | scalar (.nan _) | scalar (.date _) | scalar (.moment _) => true
  | sequence xs => !xs.isEmpty
  | mapping es => !es.isEmpty
  | members ks => !ks.isEmpty
  | pair _ _ | knot _ _ | again _ => true

/-- The value may be a member of a set: no part of it is a container that can change. -/
def isMember : Value → Bool
  | scalar _ => true
  | pair k v => isMember k && isMember v
  | _ => false

/-- The value itself if it counts as present, and the other one if it does not. -/
def orElse (v other : Value) : Value := if v.isFilled then v else other

/-! ### Depth -/

mutual

/-- The depth of containers; 0 for a scalar. -/
def nesting : Value → Nat
  | scalar _ | members _ | again _ => 0
  | sequence xs => nestingItems xs + 1
  | mapping es => nestingEntries es + 1
  | pair k v => max (nesting k) (nesting v) + 1
  | knot _ b => nesting b

/-- The greatest depth of an item. -/
def nestingItems : List Value → Nat
  | [] => 0
  | x :: xs => max (nesting x) (nestingItems xs)

/-- The greatest depth of an entry's value. -/
def nestingEntries : Table Scalar Value → Nat
  | [] => 0
  | (_, v) :: es => max (nesting v) (nestingEntries es)

end

/-! ### Equality -/

mutual

/-- Equality of values is decidable. -/
def decEq : (v w : Value) → Decidable (v = w)
  | scalar s, scalar t => decidable_of_iff (s = t) (by simp)
  | sequence xs, sequence ys =>
    have := decEqItems xs ys
    decidable_of_iff (xs = ys) (by simp)
  | mapping es, mapping fs =>
    have := decEqEntries es fs
    decidable_of_iff (es = fs) (by simp)
  | members ks, members ls => decidable_of_iff (ks = ls) (by simp)
  | pair k v, pair l w =>
    have := decEq k l
    have := decEq v w
    decidable_of_iff (k = l ∧ v = w) (by simp)
  | knot n b, knot m c =>
    have := decEq b c
    decidable_of_iff (n = m ∧ b = c) (by simp)
  | again n, again m => decidable_of_iff (n = m) (by simp)
  | scalar _, sequence _ | scalar _, mapping _ | scalar _, members _ | scalar _, pair _ _
  | scalar _, knot _ _ | scalar _, again _ | sequence _, scalar _ | sequence _, mapping _
  | sequence _, members _ | sequence _, pair _ _ | sequence _, knot _ _ | sequence _, again _
  | mapping _, scalar _ | mapping _, sequence _ | mapping _, members _ | mapping _, pair _ _
  | mapping _, knot _ _ | mapping _, again _ | members _, scalar _ | members _, sequence _
  | members _, mapping _ | members _, pair _ _ | members _, knot _ _ | members _, again _
  | pair _ _, scalar _ | pair _ _, sequence _ | pair _ _, mapping _ | pair _ _, members _
  | pair _ _, knot _ _ | pair _ _, again _ | knot _ _, scalar _ | knot _ _, sequence _
  | knot _ _, mapping _ | knot _ _, members _ | knot _ _, pair _ _ | knot _ _, again _
  | again _, scalar _ | again _, sequence _ | again _, mapping _ | again _, members _
  | again _, pair _ _ | again _, knot _ _ => .isFalse (by simp)

/-- Equality of lists of values is decidable. -/
def decEqItems : (xs ys : List Value) → Decidable (xs = ys)
  | [], [] => .isTrue rfl
  | x :: xs, y :: ys =>
    have := decEq x y
    have := decEqItems xs ys
    decidable_of_iff (x = y ∧ xs = ys) (by simp)
  | [], _ :: _ | _ :: _, [] => .isFalse (by simp)

/-- Equality of entries is decidable. -/
def decEqEntries : (es fs : List (Scalar × Value)) → Decidable (es = fs)
  | [], [] => .isTrue rfl
  | (k, v) :: es, (l, w) :: fs =>
    have := decEq v w
    have := decEqEntries es fs
    decidable_of_iff ((k = l ∧ v = w) ∧ es = fs) (by simp)
  | [], _ :: _ | _ :: _, [] => .isFalse (by simp)

end

instance : DecidableEq Value := decEq

end Value

end ClientGen
