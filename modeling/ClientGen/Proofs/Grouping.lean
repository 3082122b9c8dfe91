import Mathlib.Data.List.Forall2
import Mathlib.Data.List.Induction
import Mathlib.Data.List.Infix
import ClientGen.Api.Projection
import ClientGen.Proofs.Outcome
import ClientGen.Proofs.Value.Display
import ClientGen.Proofs.Value.Parts

/-!
# Grouping operations into controllers

The entries of the path items of a document are met in the order of the document. Those under a
method that are mappings are operations; each belongs to one controller. The controllers of a client
are those of the operations, in the order in which they are met first, and a controller holds its
own operations that have a public name, in the order in which they are met.

## Main definitions

* `ClientGen.PathEntry`, `ClientGen.Document.pathEntries` : the entries below the paths.
* `ClientGen.PathEntry.isOperation`, `ClientGen.PathEntry.controller`,
  `ClientGen.PathEntry.publicName?` : what the entry says.
* `ClientGen.Projection.Grouped` : a table of controllers holds the operations of some entries.

## Main results

* `ClientGen.Projection.Grouped.add` : one more entry.
* `ClientGen.Projection.grouped_foldlM` : the endpoints in turn.
* `ClientGen.Projection.grouped_of_client` : the controllers of a client.
-/

namespace ClientGen

/-- What stands under a key of a path item. -/
structure PathEntry where
  /-- The path. -/
  path : String
  /-- The key. -/
  key : Scalar
  /-- The value under the key. -/
  value : Value

/-- The words for the methods. -/
def methodWords : List String :=
  ["get", "put", "post", "delete", "options", "head", "patch", "trace"]

/-- The entries of the path items that are mappings, in the order of the document. -/
def Document.pathEntries (d : Document) : List PathEntry :=
  d.paths.flatMap fun p => (p.2.entries?.getD []).map fun e => ⟨p.1, e.1, e.2⟩

namespace PathEntry

/-- A mapping under the word for a method. -/
def isOperation (e : PathEntry) : Bool :=
  decide (e.key ∈ methodWords.map Scalar.text) && e.value.isMapping

/-- The text of the first tag, if the tags are a list with a filled first item; otherwise the
default controller. -/
def controller (default : String) (e : PathEntry) : String :=
  match (e.value.field "tags").items? with
  | some (t :: _) => if t.isFilled then t.display else default
  | _ => default

/-- The name of the operation, if it is a text that is not empty and does not contain the mark of
internal operations. An empty mark marks nothing. -/
def publicName? (marker : String) (e : PathEntry) : Option String :=
  match e.value.field "operationId" with
  | .scalar (.text id) =>
    if id ≠ "" ∧ (marker = "" ∨ ¬ marker.toList <:+: id.toList) then some id else none
  | _ => none

/-- The operation stands under the method and the path of the entry and has its public name. -/
def Describes (marker : String) (e : PathEntry) (o : Operation) : Prop :=
  e.key = .text o.method.word ∧ e.path = o.path ∧ e.publicName? marker = some o.operationId

end PathEntry

/-! ### Endpoints as entries -/

theorem Method.ofWord?_eq_some_iff {s : String} {m : Method} :
    Method.ofWord? s = some m ↔ s = m.word := by
  constructor
  · intro h
    unfold ofWord? at h
    split at h <;> cases h <;> rfl
  · rintro rfl
    exact ofWord?_word m

theorem mem_methodWords_iff {s : String} : s ∈ methodWords ↔ ∃ m : Method, s = m.word := by
  constructor
  · intro h
    simp only [methodWords, List.mem_cons, List.not_mem_nil, or_false] at h
    rcases h with rfl | rfl | rfl | rfl | rfl | rfl | rfl | rfl
    exacts [⟨.get, rfl⟩, ⟨.put, rfl⟩, ⟨.post, rfl⟩, ⟨.delete, rfl⟩, ⟨.options, rfl⟩, ⟨.head, rfl⟩,
      ⟨.patch, rfl⟩, ⟨.trace, rfl⟩]
  · rintro ⟨m, rfl⟩
    cases m <;> decide

namespace Endpoint

/-- The endpoint as an entry below its path. -/
def entry (e : Endpoint) : PathEntry := ⟨e.path, .text e.method.word, e.operation⟩

theorem map_entry_ofPathItem (path : String) (item : Value) :
    (ofPathItem path item).map entry =
      ((item.entries?.getD []).map fun e => ⟨path, e.1, e.2⟩).filter PathEntry.isOperation := by
  unfold ofPathItem
  induction item.entries?.getD [] with
  | nil => rfl
  | cons e es ih =>
    obtain ⟨k, v⟩ := e
    rw [List.map_cons, List.filter_cons, ← ih, List.filterMap_cons]
    cases k with
    | text s =>
      cases hs : Method.ofWord? s with
      | none =>
        have hk : s ∉ methodWords := fun h => by
          obtain ⟨m, rfl⟩ := mem_methodWords_iff.mp h
          simp [Method.ofWord?_word] at hs
        simp [PathEntry.isOperation, hs, hk]
      | some m =>
        obtain rfl := Method.ofWord?_eq_some_iff.mp hs
        have hk : m.word ∈ methodWords := mem_methodWords_iff.mpr ⟨m, rfl⟩
        cases hv : v.isMapping <;> simp [PathEntry.isOperation, hs, hk, hv, entry]
    | _ => simp [PathEntry.isOperation]

/-- The endpoints of a document are the operations among its entries. -/
theorem map_entry_ofDocument (d : Document) :
    (ofDocument d).map entry = d.pathEntries.filter PathEntry.isOperation := by
  unfold ofDocument Document.pathEntries
  induction d.paths with
  | nil => rfl
  | cons p ps ih =>
    rw [List.flatMap_cons, List.flatMap_cons, List.map_append, List.filter_append,
      map_entry_ofPathItem, ih]

/-- An endpoint below a path is an entry under its method. -/
theorem mem_entries_of_mem_ofPathItem {path : String} {item : Value} {e : Endpoint}
    (h : e ∈ ofPathItem path item) :
    e.path = path ∧ (.text e.method.word, e.operation) ∈ item.entries?.getD [] := by
  have hentry : e.entry ∈ (ofPathItem path item).map entry := List.mem_map_of_mem h
  rw [map_entry_ofPathItem] at hentry
  obtain ⟨f, hf, hfe⟩ := List.mem_map.mp (List.mem_filter.mp hentry).1
  obtain ⟨hpath, hkey, hvalue⟩ := PathEntry.mk.inj hfe
  exact ⟨hpath.symm, hkey ▸ hvalue ▸ hf⟩

theorem mem_parts_of_mem_ofPathItem {path : String} {item : Value} {e : Endpoint}
    (h : e ∈ ofPathItem path item) : e.operation ∈ item.parts := by
  obtain ⟨-, hmem⟩ := mem_entries_of_mem_ofPathItem h
  cases hitem : item.entries? with
  | none =>
    rw [hitem] at hmem
    cases hmem
  | some es =>
    rw [hitem] at hmem
    rw [Value.parts_of_entries? hitem]
    exact List.mem_map_of_mem hmem

/-- The operations of a document stand below its paths. -/
theorem exists_path_of_mem_ofDocument {d : Document} {e : Endpoint} (h : e ∈ ofDocument d) :
    ∃ f ∈ d.paths, f.2.Holds e.operation := by
  obtain ⟨f, hf, he⟩ := List.mem_flatMap.mp h
  exact ⟨f, hf, .single (mem_parts_of_mem_ofPathItem he)⟩

end Endpoint

/-! ### What is said of one endpoint -/

theorem Text.holds_eq_true_iff {part : List Char} :
    (cs : List Char) → Text.holds part cs = true ↔ part <:+: cs
  | [] => by simp [Text.holds]
  | c :: cs => by
    rw [Text.holds, Bool.or_eq_true, List.isPrefixOf_iff_prefix, holds_eq_true_iff cs,
      List.infix_cons_iff]

namespace Projection

variable {p : Projection}

theorem controllerOf_eq {e : Endpoint} {c : String} (h : p.controllerOf e = .ok c) :
    e.entry.controller p.defaultController = c := by
  unfold controllerOf Endpoint.firstTag at h
  unfold PathEntry.controller
  change (match (e.operation.field "tags").items? with
    | some (t :: _) => if t.isFilled then t.display else p.defaultController
    | _ => p.defaultController) = c
  rcases htags : (e.operation.field "tags").items? with _ | _ | ⟨t, ts⟩
  · simpa [htags, bind, Except.bind, pure, Except.pure] using h
  · simpa [htags, bind, Except.bind, pure, Except.pure] using h
  · simp only [htags] at h ⊢
    by_cases hfilled : t.isFilled = true
    · rw [if_pos hfilled] at h ⊢
      cases ht : t.shown with
      | error f => simp [ht, bind, Except.bind] at h
      | ok s =>
        obtain rfl := Value.eq_display_of_shown ht
        have hne : t.display.isEmpty = false := by
          simpa [String.isEmpty_iff] using Value.display_ne_empty hfilled
        simpa [ht, bind, Except.bind, pure, Except.pure, hne] using h
    · rw [if_neg hfilled] at h ⊢
      simpa [bind, Except.bind, pure, Except.pure] using h

theorem isInternal_eq_false_iff {id : String} :
    p.isInternal id = false ↔ p.internalMarker = "" ∨ ¬ p.internalMarker.toList <:+: id.toList := by
  unfold isInternal
  rw [Bool.and_eq_false_iff, Bool.not_eq_false', String.isEmpty_iff,
    ← Text.holds_eq_true_iff, Bool.not_eq_true]

/-- The public name of an entry is that of the endpoint, unless it is internal. -/
theorem publicName?_entry (e : Endpoint) :
    e.entry.publicName? p.internalMarker = e.operationId?.filter fun id => !p.isInternal id := by
  unfold PathEntry.publicName? Endpoint.operationId?
  change (match e.operation.field "operationId" with
    | .scalar (.text id) =>
      if id ≠ "" ∧ (p.internalMarker = "" ∨ ¬ p.internalMarker.toList <:+: id.toList) then some id
      else none
    | _ => none) = _
  split
  · rename_i id hid
    rw [hid]
    simp only [← isInternal_eq_false_iff]
    cases hi : p.isInternal id <;> by_cases he : id = "" <;>
      simp [Value.text?, Option.filter, hi, he]
  · rename_i hno
    cases hid : (e.operation.field "operationId").text? with
    | none => rfl
    | some id => exact absurd (Value.eq_text_of_text? hid) (hno id)

theorem toOperation_eq {e : Endpoint} {id : String} {o : Operation} (h : e.toOperation id = .ok o) :
    o.method = e.method ∧ o.path = e.path ∧ o.operationId = id := by
  unfold Endpoint.toOperation at h
  simp only [Except.bind_eq_ok, pure, Except.pure, Except.ok.injEq] at h
  obtain ⟨summary, -, responses, -, parameters, -, body, -, rfl⟩ := h
  exact ⟨rfl, rfl, rfl⟩

/-- An endpoint adds the operation of its entry if that has a public name, and nothing otherwise. -/
theorem describes_operationsOf {e : Endpoint} {ops : List Operation}
    (h : p.operationsOf e = .ok ops) :
    List.Forall₂ (PathEntry.Describes p.internalMarker)
      ([e.entry].filter fun x => (x.publicName? p.internalMarker).isSome) ops := by
  have hname := publicName?_entry (p := p) e
  unfold operationsOf at h
  cases hid : e.operationId? with
  | none =>
    simp only [hid, Except.ok.injEq] at h
    simp [hname, hid, ← h]
  | some id =>
    cases hi : p.isInternal id with
    | true =>
      simp only [hid, hi, if_true, Except.ok.injEq] at h
      simp [hname, hid, hi, ← h, Option.filter]
    | false =>
      have hsome : e.entry.publicName? p.internalMarker = some id := by
        rw [hname, hid]
        simp [Option.filter, hi]
      cases ho : e.toOperation id with
      | error f => simp [hid, hi, ho, Except.map] at h
      | ok o =>
        obtain ⟨hm, hp, hoid⟩ := toOperation_eq ho
        simp only [hid, hi, ho, Bool.false_eq_true, if_false, Except.map, Except.ok.injEq] at h
        subst h
        simp only [List.filter_cons, hsome, Option.isSome_some, if_true, List.filter_nil]
        refine .cons ⟨?_, ?_, ?_⟩ .nil
        · rw [hm]
          rfl
        · exact hp.symm
        · rw [hsome, hoid]

/-! ### Tables of controllers -/

variable {default marker : String}

theorem eraseDups_concat {α : Type} [DecidableEq α] (l : List α) (x : α) :
    (l ++ [x]).eraseDups = if x ∈ l then l.eraseDups else l.eraseDups ++ [x] := by
  rw [List.eraseDups_append]
  by_cases h : x ∈ l <;> simp [h, List.cons_removeAll, List.eraseDups_cons]

theorem nodup_eraseDups {α : Type} [DecidableEq α] (l : List α) : l.eraseDups.Nodup := by
  induction l using List.reverseRecOn with
  | nil => simp
  | append_singleton l x ih =>
    rw [eraseDups_concat]
    split
    · exact ih
    · rename_i hx
      rw [List.nodup_append]
      refine ⟨ih, by simp, fun a ha b hb => ?_⟩
      rintro rfl
      exact hx (List.mem_eraseDups.mp (List.mem_singleton.mp hb ▸ ha))

theorem keys_add (c : String) (ops : List Operation) (t : Table String (List Operation)) :
    (add c ops t).keys = if c ∈ t.keys then t.keys else t.keys ++ [c] := by
  induction t with
  | nil => rfl
  | cons e t ih =>
    unfold add
    by_cases h : e.1 = c
    · simp [h, Table.keys]
    · have hne : c ≠ e.1 := fun h' => h h'.symm
      simp only [h, if_false, Table.keys, List.map_cons, List.mem_cons, hne, false_or] at ih ⊢
      by_cases hc : c ∈ t.map (·.1) <;> simp [ih, hc]

/-- The controllers beside the one that is added to stay as they are. That one has its operations
from before, if it was there, and the new ones after them. -/
theorem mem_add {c : String} {ops : List Operation} {t : Table String (List Operation)}
    (ht : t.keys.Nodup) {e : String × List Operation} (he : e ∈ add c ops t) :
    (e.1 ≠ c ∧ e ∈ t) ∨
      (e.1 = c ∧ ∃ old, e.2 = old ++ ops ∧ ((c, old) ∈ t ∨ c ∉ t.keys ∧ old = [])) := by
  induction t with
  | nil =>
    obtain rfl := List.mem_singleton.mp he
    exact .inr ⟨rfl, [], rfl, .inr ⟨by simp [Table.keys], rfl⟩⟩
  | cons x t ih =>
    obtain ⟨hx, ht⟩ := List.nodup_cons.mp ht
    unfold add at he
    by_cases h : x.1 = c
    · rw [if_pos h] at he
      rcases List.mem_cons.mp he with rfl | he
      · refine .inr ⟨h, x.2, rfl, .inl (List.mem_cons.mpr (.inl ?_))⟩
        rw [← h]
      · have hne : e.1 ≠ c := fun h' => hx (List.mem_map.mpr ⟨e, he, h'.trans h.symm⟩)
        exact .inl ⟨hne, List.mem_cons_of_mem _ he⟩
    · rw [if_neg h] at he
      rcases List.mem_cons.mp he with rfl | he
      · exact .inl ⟨h, List.mem_cons_self⟩
      · rcases ih ht he with ⟨hne, hmem⟩ | ⟨heq, old, hops, hold⟩
        · exact .inl ⟨hne, List.mem_cons_of_mem _ hmem⟩
        · refine .inr ⟨heq, old, hops, ?_⟩
          rcases hold with hold | ⟨hnot, rfl⟩
          · exact .inl (List.mem_cons_of_mem _ hold)
          · refine .inr ⟨fun hc => ?_, rfl⟩
            rcases List.mem_cons.mp hc with hc | hc
            · exact h hc.symm
            · exact hnot hc

/-- The table holds the operations of the entries `es`: its controllers are those of the entries in
the order in which they are met first, each with the operations of its own entries that have a
public name. -/
structure Grouped (default marker : String) (es : List PathEntry)
    (t : Table String (List Operation)) : Prop where
  /-- The controllers are in the order of their first entries. -/
  keys_eq : t.keys = (es.map (·.controller default)).eraseDups
  /-- A controller holds the operations of its entries with a public name, in their order. -/
  operations : ∀ c ∈ t, List.Forall₂ (PathEntry.Describes marker)
    ((es.filter fun e => e.controller default = c.1).filter
      fun e => (e.publicName? marker).isSome) c.2

theorem grouped_nil : Grouped default marker [] [] := ⟨rfl, by simp⟩

/-- One more entry: its controller is there afterwards and has the operation of the entry at the
end, if the entry has a public name. -/
theorem Grouped.add {es : List PathEntry} {t : Table String (List Operation)}
    (h : Grouped default marker es t) (e : PathEntry) {ops : List Operation}
    (hops : List.Forall₂ (PathEntry.Describes marker)
      ([e].filter fun x => (x.publicName? marker).isSome) ops) :
    Grouped default marker (es ++ [e]) (Projection.add (e.controller default) ops t) where
  keys_eq := by
    rw [keys_add, List.map_append, List.map_singleton, eraseDups_concat, h.keys_eq]
    simp only [List.mem_eraseDups]
  operations c hc := by
    have hnodup : t.keys.Nodup := h.keys_eq ▸ nodup_eraseDups _
    rw [List.filter_append, List.filter_append]
    rcases mem_add hnodup hc with ⟨hne, hmem⟩ | ⟨heq, old, hold, hmem⟩
    · have hother : ([e].filter fun x => x.controller default = c.1) = [] := by
        simp [Ne.symm hne]
      rw [hother, List.filter_nil, List.append_nil]
      exact h.operations c hmem
    · have hown : ([e].filter fun x => x.controller default = c.1) = [e] := by simp [heq]
      rw [hown, hold]
      refine List.rel_append ?_ hops
      rcases hmem with hmem | ⟨hnot, rfl⟩
      · exact heq ▸ h.operations _ hmem
      · -- a controller that is not there yet has no entries so far
        have hnone : (es.filter fun x => x.controller default = c.1) = [] := by
          rw [h.keys_eq, List.mem_eraseDups] at hnot
          refine List.filter_eq_nil_iff.mpr fun x hx hxc => hnot ?_
          rw [← heq, ← of_decide_eq_true hxc]
          exact List.mem_map_of_mem hx
        rw [hnone]
        exact .nil

/-- The controllers of endpoints hold the operations of their entries. -/
theorem grouped_foldlM (es : List Endpoint) {met : List PathEntry}
    {t t' : Table String (List Operation)}
    (ht : Grouped p.defaultController p.internalMarker met t)
    (h : es.foldlM (fun t e => do
      return Projection.add (← p.controllerOf e) (← p.operationsOf e) t) t = .ok t') :
    Grouped p.defaultController p.internalMarker (met ++ es.map Endpoint.entry) t' := by
  induction es generalizing met t with
  | nil =>
    obtain rfl := Except.ok.inj h
    simpa using ht
  | cons e es ih =>
    simp only [List.foldlM_cons, Except.bind_eq_ok] at h
    obtain ⟨u, ⟨c, hc, ops, hops, hu⟩, h⟩ := h
    obtain rfl := Except.ok.inj hu
    have hstep := ht.add e.entry (describes_operationsOf hops)
    rw [controllerOf_eq hc] at hstep
    simpa using ih hstep h

/-- **Grouping.** The controllers of a client hold the operations among the entries of the
document, and nothing else. -/
theorem grouped_of_client {d : Document} {c : Client} (h : p.client d = .ok c) :
    Grouped p.defaultController p.internalMarker (d.pathEntries.filter PathEntry.isOperation)
      c.controllers := by
  unfold client at h
  simp only [Except.bind_eq_ok, Except.pure_eq_ok] at h
  obtain ⟨t, ht, baseUrl, -, name, -, description, -, version, -, rfl⟩ := h
  have hgrouped := grouped_foldlM (Endpoint.ofDocument d) grouped_nil ht
  rwa [Endpoint.map_entry_ofDocument, List.nil_append] at hgrouped

/-- Two operations share their first tag across two paths, and between them stands an internal one
without tags. -/
def tagged : Document where
  openapi := "3.0.0"
  paths :=
    [("/b", .ofFields
        [("post", .ofFields [("operationId", .text "makeB"), ("tags", .sequence [.text "Beta"])]),
          ("get", .ofFields [("operationId", .text "AppController_x")])]),
      ("/a", .ofFields
        [("get", .ofFields
          [("operationId", .text "listA"), ("tags", .sequence [.text "Beta", .text "Alpha"])])])]

/-- The controllers of `tagged`. -/
def taggedControllers : Table String (List Operation) :=
  [("Beta",
      [{ method := .post, path := "/b", operationId := "makeB" },
        { method := .get, path := "/a", operationId := "listA" }]),
    ("DefaultController", [])]

theorem grouped_of_client_tagged :
    ({} : Projection).client tagged = .ok { controllers := taggedControllers } ∧
      Grouped "DefaultController" "Controller_" (tagged.pathEntries.filter PathEntry.isOperation)
        taggedControllers :=
  have h : ({} : Projection).client tagged = .ok { controllers := taggedControllers } := rfl
  ⟨h, grouped_of_client h⟩

end Projection

end ClientGen
