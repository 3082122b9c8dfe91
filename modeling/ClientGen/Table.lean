/-!
# Ordered tables

A table is a list of entries in which every key occurs once. Writing a key that is present
changes its value in place; writing a new key appends an entry. So a key keeps the position of
its first writing and the value of its last.

## Main definitions

* `ClientGen.Table` : entries in the order of their first writing.
* `ClientGen.Table.insertWith`, `ClientGen.Table.insert` : writing a key.
* `ClientGen.Table.ofEntriesWith`, `ClientGen.Table.ofEntries` : writing entries in turn.
* `ClientGen.Table.erase` : dropping a key.
-/

namespace ClientGen

/-- Entries in the order of their first writing. -/
abbrev Table (κ : Type) (α : Type) := List (κ × α)

namespace Table

variable {κ α : Type}

/-- Writes a key; `same` says when two keys name one entry. The first spelling of a key stays. -/
def insertWith (same : κ → κ → Bool) (k : κ) (x : α) : Table κ α → Table κ α
  | [] => [(k, x)]
  | e :: t => if same e.1 k then (e.1, x) :: t else e :: insertWith same k x t

/-- Writes entries in turn. -/
def ofEntriesWith (same : κ → κ → Bool) (es : List (κ × α)) : Table κ α :=
  es.foldl (fun t e => insertWith same e.1 e.2 t) []

variable [BEq κ]

/-- Writes a key. -/
def insert (k : κ) (x : α) (t : Table κ α) : Table κ α := insertWith (· == ·) k x t

/-- Writes entries in turn. -/
def ofEntries (es : List (κ × α)) : Table κ α := ofEntriesWith (· == ·) es

/-- The value of a key. -/
def get? (t : Table κ α) (k : κ) : Option α := List.lookup k t

/-- The table without a key. -/
def erase (t : Table κ α) (k : κ) : Table κ α := t.filter fun e => !(e.1 == k)

/-- The keys, in the order of their first writing. -/
def keys (t : Table κ α) : List κ := t.map (·.1)

theorem get?_insert_self [LawfulBEq κ] (k : κ) (x : α) (t : Table κ α) :
    (t.insert k x).get? k = some x := by
  induction t with
  | nil => simp [insert, insertWith, get?]
  | cons e t ih =>
    obtain ⟨a, y⟩ := e
    by_cases h : a = k
    · simp [insert, insertWith, get?, h]
    · have h' : (k == a) = false := by simpa using Ne.symm h
      simpa [insert, insertWith, get?, List.lookup_cons, h, h'] using ih

theorem get?_insert_of_ne [LawfulBEq κ] {k j : κ} (hj : j ≠ k) (x : α) (t : Table κ α) :
    (t.insert k x).get? j = t.get? j := by
  have hj' : (j == k) = false := by simpa using hj
  induction t with
  | nil => simp [insert, insertWith, get?, List.lookup_cons, hj']
  | cons e t ih =>
    obtain ⟨a, y⟩ := e
    by_cases h : a = k
    · simp [insert, insertWith, get?, List.lookup_cons, h, hj']
    · by_cases h' : j = a
      · simp [insert, insertWith, get?, h, h']
      · have : (j == a) = false := by simpa using h'
        simpa [insert, insertWith, get?, List.lookup_cons, h, this] using ih

theorem get?_erase_self [LawfulBEq κ] (k : κ) (t : Table κ α) : (t.erase k).get? k = none := by
  induction t with
  | nil => rfl
  | cons e t ih =>
    obtain ⟨a, y⟩ := e
    by_cases h : a = k
    · simpa [erase, get?, h] using ih
    · have h' : (k == a) = false := by simpa using Ne.symm h
      simpa [erase, get?, List.lookup_cons, h, h'] using ih

theorem get?_erase_of_ne [LawfulBEq κ] {k j : κ} (hj : j ≠ k) (t : Table κ α) :
    (t.erase k).get? j = t.get? j := by
  have hj' : (j == k) = false := by simpa using hj
  induction t with
  | nil => rfl
  | cons e t ih =>
    obtain ⟨a, y⟩ := e
    by_cases h : a = k
    · simpa [erase, get?, List.lookup_cons, h, hj'] using ih
    · by_cases h' : j = a
      · simp [erase, get?, h, h']
      · have : (j == a) = false := by simpa using h'
        simpa [erase, get?, List.lookup_cons, h, this] using ih

end Table

end ClientGen
