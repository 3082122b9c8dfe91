import Mathlib.Data.List.TakeWhile
import Mathlib.Tactic.Ring
import ClientGen.Decoding
import ClientGen.Proofs.Value.Json

/-!
# Decoded values

A text of a document writes a value in which no container occurs inside itself, or a value graph.
A JSON text never gives a graph; a YAML text that writes anything gives one.

## Main definitions

* `ClientGen.Value.IsDecoded` : plain values and value graphs.

## Main results

* `ClientGen.Json.isJson_of_read` : a JSON text writes a JSON value.
* `ClientGen.Json.fault_of_read` : only a number may be a fault in a JSON text.
* `ClientGen.isDecoded_of_decode` : what a text of a document writes is decoded.
-/

namespace ClientGen

namespace Json

variable {v : Value} {cs rest : List Char}

theorem toNat_sub_le_of_isAsciiDigit {c : Char} (h : Decimal.isAsciiDigit c = true) :
    c.toNat - 48 ≤ 9 := by
  simp only [Decimal.isAsciiDigit, Bool.and_eq_true, decide_eq_true_eq] at h
  have hle : c.toNat ≤ '9'.toNat := h.2
  have hnine : '9'.toNat = 57 := rfl
  omega

/-- Digits write a number with at most as many digits. -/
theorem natOf_lt_pow (h : ∀ c ∈ cs, Decimal.isAsciiDigit c = true) :
    Decimal.natOf cs < 10 ^ cs.length := by
  have hfold (cs : List Char) (h : ∀ c ∈ cs, Decimal.isAsciiDigit c = true) : ∀ n : Nat,
      cs.foldl (fun n c => 10 * n + (c.toNat - 48)) n < (n + 1) * 10 ^ cs.length := by
    induction cs with
    | nil =>
      intro n
      simp
    | cons c cs ih =>
      intro n
      obtain ⟨hc, hcs⟩ := List.forall_mem_cons.mp h
      have hdigit := toNat_sub_le_of_isAsciiDigit hc
      have hstep : 10 * n + (c.toNat - 48) + 1 ≤ (n + 1) * 10 := by omega
      calc cs.foldl (fun n c => 10 * n + (c.toNat - 48)) (10 * n + (c.toNat - 48))
          < (10 * n + (c.toNat - 48) + 1) * 10 ^ cs.length := ih hcs _
        _ ≤ (n + 1) * 10 * 10 ^ cs.length := Nat.mul_le_mul_right _ hstep
        _ = (n + 1) * 10 ^ (c :: cs).length := by rw [List.length_cons, pow_succ']; ring
  simpa [Decimal.natOf] using hfold cs h 0

/-- A number of few digits is not too long to be written. -/
theorem isWritable_natOf (h : ∀ c ∈ cs, Decimal.isAsciiDigit c = true)
    (hlength : cs.length ≤ Decimal.digitLimit) {n : Int} (hn : n.natAbs = Decimal.natOf cs) :
    (Scalar.int n).isWritable = true := by
  have hpow : 10 ^ cs.length ≤ Scalar.writableBound := by
    -- The bound is too large to be computed.
    unfold Scalar.writableBound
    generalize Decimal.digitLimit = limit at hlength ⊢
    exact Nat.pow_le_pow_right (by omega) hlength
  have hlt : n.natAbs < Scalar.writableBound := by
    rw [hn]
    exact Nat.lt_of_lt_of_le (natOf_lt_pow h) hpow
  simpa only [Scalar.isWritable, decide_eq_true_eq] using hlt

theorem isJson_of_number {negative : Bool} (h : number negative cs = .ok (v, rest)) :
    v.IsJson := by
  unfold number at h
  extract_lets whole at h
  have hwhole : ∀ c ∈ whole, Decimal.isAsciiDigit c = true := by
    intro c hc
    simp only [whole] at hc
    split at hc
    · rw [List.mem_singleton.mp hc]
      rfl
    · exact List.mem_takeWhile_imp hc
  split at h
  · cases h
  · simp only at h
    split at h
    · split at h
      · cases h
      · rename_i hlength
        obtain ⟨rfl, -⟩ := Prod.mk.inj (Except.ok.inj h)
        refine .scalar (isWritable_natOf hwhole (Nat.le_of_not_lt hlength) ?_)
        cases negative with
        | false => exact Int.natAbs_natCast _
        | true => exact (Int.natAbs_neg _).trans (Int.natAbs_natCast _)
    · obtain ⟨rfl, -⟩ := Prod.mk.inj (Except.ok.inj h)
      exact .scalar trivial

theorem isJson_of_word (h : word cs = .ok (v, rest)) : v.IsJson := by
  unfold word at h
  split at h
  case h_7 | h_8 => exact isJson_of_number h
  all_goals
    obtain ⟨rfl, -⟩ := Prod.mk.inj (Except.ok.inj h)
    exact .scalar trivial

/-- Entries that are read have texts for their keys. -/
def IsJsonEntry (e : Scalar × Value) : Prop := (∃ s, e.1 = .text s) ∧ e.2.IsJson

theorem isJson_mapping {es : List (Scalar × Value)} (h : ∀ e ∈ es, IsJsonEntry e) :
    (Value.mapping es).IsJson := by
  obtain ⟨fs, rfl⟩ := Value.exists_fields_of_texts fun e he => (h e he).1
  exact .ofFields fun f hf => (h _ (List.mem_map_of_mem hf)).2

/-- With some fuel only JSON values are read, if those read before are JSON values. -/
structure ReadsJson (fuel : Nat) : Prop where
  /-- A value. -/
  value : ∀ {depth cs v rest}, value fuel depth cs = .ok (v, rest) → v.IsJson
  /-- A list. -/
  items : ∀ {depth done cs v rest}, (∀ x ∈ done, x.IsJson) →
    items fuel depth done cs = .ok (v, rest) → v.IsJson
  /-- A mapping. -/
  entries : ∀ {depth done cs v rest}, (∀ e ∈ done, IsJsonEntry e) →
    entries fuel depth done cs = .ok (v, rest) → v.IsJson

theorem isJson_of_value_succ {fuel depth : Nat} (ih : ReadsJson fuel)
    (h : value (fuel + 1) depth cs = .ok (v, rest)) : v.IsJson := by
  unfold value at h
  split at h
  · obtain ⟨⟨s, rest'⟩, -, hs⟩ := Except.bind_eq_ok.mp h
    obtain ⟨rfl, -⟩ := Prod.mk.inj (Except.pure_eq_ok.mp hs)
    exact .scalar trivial
  · split at h
    · cases h
    · split at h
      · obtain ⟨rfl, -⟩ := Prod.mk.inj (Except.ok.inj h)
        exact .sequence (by simp)
      · exact ih.items (by simp) h
  · split at h
    · cases h
    · split at h
      · obtain ⟨rfl, -⟩ := Prod.mk.inj (Except.ok.inj h)
        exact isJson_mapping (by simp)
      · exact ih.entries (by simp) h
  · exact isJson_of_word h

theorem isJson_of_items_succ {fuel depth : Nat} {done : List Value} (ih : ReadsJson fuel)
    (hdone : ∀ x ∈ done, x.IsJson) (h : items (fuel + 1) depth done cs = .ok (v, rest)) :
    v.IsJson := by
  unfold items at h
  split at h
  · cases h
  · rename_i x rest' hx
    have hall : ∀ y ∈ x :: done, y.IsJson := List.forall_mem_cons.mpr ⟨ih.value hx, hdone⟩
    split at h
    · obtain ⟨rfl, -⟩ := Prod.mk.inj (Except.ok.inj h)
      exact .sequence fun y hy => hall y (List.mem_reverse.mp hy)
    · exact ih.items hall h
    · cases h

theorem isJson_of_entries_succ {fuel depth : Nat} {done : List (Scalar × Value)}
    (ih : ReadsJson fuel) (hdone : ∀ e ∈ done, IsJsonEntry e)
    (h : entries (fuel + 1) depth done cs = .ok (v, rest)) : v.IsJson := by
  unfold entries at h
  split at h
  · split at h
    · cases h
    · rename_i k rest' _
      split at h
      · split at h
        · cases h
        · rename_i x rest'' hx
          have hall : ∀ e ∈ (Scalar.text k, x) :: done, IsJsonEntry e :=
            List.forall_mem_cons.mpr ⟨⟨⟨k, rfl⟩, ih.value hx⟩, hdone⟩
          simp only at h
          split at h
          · obtain ⟨rfl, -⟩ := Prod.mk.inj (Except.ok.inj h)
            exact isJson_mapping fun e he => hall e (List.mem_reverse.mp (Table.mem_ofEntries he))
          · exact ih.entries hall h
          · cases h
      · cases h
  · cases h

theorem readsJson (fuel : Nat) : ReadsJson fuel := by
  induction fuel with
  | zero => exact ⟨nofun, fun _ => nofun, fun _ => nofun⟩
  | succ fuel ih =>
    exact ⟨isJson_of_value_succ ih, isJson_of_items_succ ih, isJson_of_entries_succ ih⟩

/-- A JSON text writes a JSON value. -/
theorem isJson_of_read {s : String} (h : read s = .ok v) : v.IsJson := by
  unfold read at h
  split at h
  · cases h
  · rename_i w rest hw
    split at h
    · rw [← Except.ok.inj h]
      exact (readsJson _).value hw
    · cases h

/-! ### Faults of the reader -/

section Faults

variable {f : Fault} {fuel depth : Nat}

theorem stringTail_ne_fault {high : Option Nat} {done : List Char} :
    stringTail high done cs ≠ .error (.fault f) := by
  fun_induction stringTail high done cs with
  | case1 | case2 | case5 | case6 | case8 => nofun
  | case3 => assumption
  | case4 => assumption
  | case7 => assumption

theorem fault_of_number {negative : Bool} (h : number negative cs = .error (.fault f)) :
    f = .malformedNumber := by
  unfold number at h
  extract_lets whole at h
  split at h
  · cases h
  · simp only at h
    split at h
    · split at h
      · obtain ⟨⟩ := h
        rfl
      · cases h
    · cases h

theorem fault_of_word (h : word cs = .error (.fault f)) : f = .malformedNumber := by
  unfold word at h
  split at h
  case h_7 | h_8 => exact fault_of_number h
  all_goals cases h

/-- With some fuel the reader comes to a fault on numbers only. -/
structure FaultsOnNumbers (fuel : Nat) : Prop where
  /-- In a value. -/
  value : ∀ {depth cs f}, value fuel depth cs = .error (.fault f) → f = .malformedNumber
  /-- In a list. -/
  items : ∀ {depth done cs f},
    items fuel depth done cs = .error (.fault f) → f = .malformedNumber
  /-- In a mapping. -/
  entries : ∀ {depth done cs f},
    entries fuel depth done cs = .error (.fault f) → f = .malformedNumber

theorem fault_of_value_succ (ih : FaultsOnNumbers fuel)
    (h : value (fuel + 1) depth cs = .error (.fault f)) : f = .malformedNumber := by
  unfold value at h
  split at h
  · exact absurd (Except.bind_pure_eq_error.mp h) stringTail_ne_fault
  · split at h
    · cases h
    · split at h
      · cases h
      · exact ih.items h
  · split at h
    · cases h
    · split at h
      · cases h
      · exact ih.entries h
  · exact fault_of_word h

theorem fault_of_items_succ {done : List Value} (ih : FaultsOnNumbers fuel)
    (h : items (fuel + 1) depth done cs = .error (.fault f)) : f = .malformedNumber := by
  unfold items at h
  split at h
  · rename_i hx
    obtain rfl := Except.error.inj h
    exact ih.value hx
  · split at h
    · cases h
    · exact ih.items h
    · cases h

theorem fault_of_entries_succ {done : List (Scalar × Value)} (ih : FaultsOnNumbers fuel)
    (h : entries (fuel + 1) depth done cs = .error (.fault f)) : f = .malformedNumber := by
  unfold entries at h
  split at h
  · split at h
    · rename_i hkey
      obtain rfl := Except.error.inj h
      exact absurd hkey stringTail_ne_fault
    · split at h
      · split at h
        · rename_i hx
          obtain rfl := Except.error.inj h
          exact ih.value hx
        · simp only at h
          split at h
          · cases h
          · exact ih.entries h
          · cases h
      · cases h
  · cases h

theorem faultsOnNumbers (fuel : Nat) : FaultsOnNumbers fuel := by
  induction fuel with
  | zero => exact ⟨nofun, nofun, nofun⟩
  | succ fuel ih => exact ⟨fault_of_value_succ ih, fault_of_items_succ ih, fault_of_entries_succ ih⟩

/-- Only a number may be a fault in a JSON text. -/
theorem fault_of_read {s : String} (h : read s = .error (.fault f)) : f = .malformedNumber := by
  unfold read at h
  split at h
  · rename_i hvalue
    obtain rfl := Except.error.inj h
    exact (faultsOnNumbers _).value hvalue
  · split at h <;> cases h

end Faults

end Json

/-- A value without containers inside themselves, or a value graph. -/
inductive Value.IsDecoded : Value → Prop
  /-- No container occurs inside itself. -/
  | plain {v : Value} (h : v.Plain) : v.IsDecoded
  /-- The value is a graph. -/
  | graph (g : ValueGraph) : g.value.IsDecoded

theorem Yaml.isDecoded_of_read {s : String} {v : Value} (h : Yaml.read s = .ok v) :
    v.IsDecoded := by
  obtain ⟨g, -, h⟩ := Except.bind_eq_ok.mp h
  split at h
  · rw [← Except.pure_eq_ok.mp h]
    exact .plain rfl
  · obtain ⟨values, -, h⟩ := Except.bind_eq_ok.mp h
    rw [← Except.pure_eq_ok.mp h]
    exact .graph values

/-- What a text of a document writes is decoded. -/
theorem isDecoded_of_decode {text : String} {v : Value} (h : decode text = .ok v) :
    v.IsDecoded := by
  unfold decode at h
  split at h
  · rename_i w hw
    rw [← Except.ok.inj h]
    exact .plain (Json.isJson_of_read hw).plain
  · cases h
  · cases h
  · split at h
    · rename_i w hw
      rw [← Except.ok.inj h]
      exact Yaml.isDecoded_of_read hw
    · cases h
    · cases h
    · cases h

end ClientGen
