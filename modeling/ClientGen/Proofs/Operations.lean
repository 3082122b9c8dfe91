import ClientGen.Proofs.Grouping

/-!
# Where operations come from

The operations of a client come from the paths of its document: what their bodies and responses show
stands below a path.

## Main results

* `ClientGen.Projection.exists_endpoint_of_controllers` : an operation is that of an endpoint.
* `ClientGen.Endpoint.holds_of_toOperation` : the fields of an operation stand in the endpoint.
* `ClientGen.Projection.exists_path_of_client` : the fields of an operation stand below a path.
-/

namespace ClientGen

variable {d : Document} {v : Value}

/-! ### Operations and endpoints -/

namespace Projection

variable {p : Projection}

theorem mem_or_mem_of_mem_add {controller : String} {ops : List Operation}
    {t : Table String (List Operation)} {e : String × List Operation}
    (he : e ∈ add controller ops t) {o : Operation} (ho : o ∈ e.2) :
    o ∈ ops ∨ ∃ e' ∈ t, o ∈ e'.2 := by
  induction t with
  | nil =>
    obtain rfl := List.mem_singleton.mp he
    exact .inl ho
  | cons x t ih =>
    unfold add at he
    split at he
    · rcases List.mem_cons.mp he with rfl | he
      · rcases List.mem_append.mp ho with ho | ho
        · exact .inr ⟨x, List.mem_cons_self, ho⟩
        · exact .inl ho
      · exact .inr ⟨e, List.mem_cons_of_mem _ he, ho⟩
    · rcases List.mem_cons.mp he with rfl | he
      · exact .inr ⟨e, List.mem_cons_self, ho⟩
      · rcases ih he with hops | ⟨e', he', ho⟩
        · exact .inl hops
        · exact .inr ⟨e', List.mem_cons_of_mem _ he', ho⟩

theorem toOperation_of_mem_operationsOf {x : Endpoint} {ops : List Operation}
    (h : p.operationsOf x = .ok ops) {o : Operation} (ho : o ∈ ops) :
    ∃ id, x.toOperation id = .ok o := by
  unfold operationsOf at h
  split at h
  · obtain rfl := Except.ok.inj h
    cases ho
  · rename_i id _
    split at h
    · obtain rfl := Except.ok.inj h
      cases ho
    · obtain ⟨o', ho', rfl⟩ := Except.map_eq_ok.mp h
      obtain rfl := List.mem_singleton.mp ho
      exact ⟨id, ho'⟩

/-- One more endpoint adds its operations to those of the endpoints before it. -/
theorem controllers_concat_eq_ok {es : List Endpoint} {x : Endpoint}
    {t : Table String (List Operation)} :
    p.controllers (es ++ [x]) = .ok t ↔ ∃ t', p.controllers es = .ok t' ∧
      ∃ controller, p.controllerOf x = .ok controller ∧
        ∃ ops, p.operationsOf x = .ok ops ∧ add controller ops t' = t := by
  simp only [controllers, List.foldlM_append, List.foldlM_cons, List.foldlM_nil,
    Except.bind_eq_ok, Except.pure_eq_ok, exists_eq_right]

/-- The operations of the controllers are those of endpoints. -/
theorem exists_endpoint_of_controllers {es : List Endpoint} {t : Table String (List Operation)}
    (h : p.controllers es = .ok t) {e : String × List Operation} (he : e ∈ t) {o : Operation}
    (ho : o ∈ e.2) : ∃ x ∈ es, ∃ id, x.toOperation id = .ok o := by
  induction es using List.reverseRecOn generalizing t e with
  | nil =>
    obtain rfl := Except.pure_eq_ok.mp h
    cases he
  | append_singleton es x ih =>
    obtain ⟨t', ht', controller, -, ops, hops, rfl⟩ := controllers_concat_eq_ok.mp h
    rcases mem_or_mem_of_mem_add he ho with ho | ⟨e', he', ho⟩
    · exact ⟨x, by simp, toOperation_of_mem_operationsOf hops ho⟩
    · obtain ⟨y, hy, id, hid⟩ := ih ht' he' ho
      exact ⟨y, List.mem_append_left _ hy, id, hid⟩

end Projection

/-! ### Fields of operations -/

namespace Endpoint

variable {e : Endpoint}

theorem holds_of_filled? {key : String} (h : e.filled? key = some v) : e.operation.Holds v := by
  unfold filled? at h
  simp only at h
  split at h
  · obtain rfl := Option.some.inj h
    cases hw : e.operation.get? key with
    | none =>
      rename_i hfilled
      simp [Value.field, hw, Value.isFilled] at hfilled
    | some w =>
      rw [Value.field, hw]
      exact .single (Value.mem_parts_of_get? hw)
  · cases h

theorem holds_of_requestBody {body : Option Fields} (h : e.requestBody = .ok body)
    {g : String × Value} (hg : g ∈ body.getD []) : e.operation.Holds g.2 := by
  unfold requestBody at h
  split at h
  · obtain rfl := Except.ok.inj h
    cases hg
  · rename_i v hv
    obtain ⟨fs, hfs, rfl⟩ := Except.map_eq_ok.mp h
    have hheld := holds_of_filled? (Option.filter_eq_some_iff.mp hv).1
    exact hheld.tail (Value.mem_parts_of_asFields? (need_eq_ok.mp hfs) hg)

theorem holds_of_responses {rs : Option Fields} (h : e.responses = .ok rs) {g : String × Value}
    (hg : g ∈ rs.getD []) : e.operation.Holds g.2 := by
  unfold responses at h
  split at h
  · obtain rfl := Except.ok.inj h
    cases hg
  · rename_i es hes
    obtain ⟨ys, hys, h⟩ := Except.bind_eq_ok.mp h
    obtain rfl := Except.pure_eq_ok.mp h
    obtain ⟨v, hv, hentries⟩ := Option.bind_eq_some_iff.mp hes
    obtain ⟨x, hx, hxg⟩ := exists_of_forall₂ (mapM_eq_ok_iff.mp hys) (Table.mem_ofEntries hg)
    obtain ⟨status, -, hxg⟩ := Except.bind_eq_ok.mp hxg
    obtain rfl := Except.pure_eq_ok.mp hxg
    refine (holds_of_filled? hv).tail ?_
    rw [Value.parts_of_entries? hentries]
    exact List.mem_map_of_mem hx

/-- The fields of an operation's body and responses stand in the operation. -/
theorem holds_of_toOperation {id : String} {o : Operation} (h : e.toOperation id = .ok o)
    {g : String × Value} (hg : g ∈ o.requestBody.getD [] ++ o.responses.getD []) :
    e.operation.Holds g.2 := by
  simp only [toOperation, Except.bind_eq_ok, Except.pure_eq_ok] at h
  obtain ⟨s, -, rs, hrs, ps, -, body, hbody, rfl⟩ := h
  rcases List.mem_append.mp hg with hg | hg
  · exact holds_of_requestBody hbody hg
  · exact holds_of_responses hrs hg

end Endpoint

/-! ### Operations of a client -/

namespace Projection

variable {p : Projection} {c : Client}

theorem client_eq_ok (h : p.client d = .ok c) :
    p.controllers (Endpoint.ofDocument d) = .ok c.controllers ∧ c.components = d.components := by
  simp only [client, Except.bind_eq_ok, Except.pure_eq_ok] at h
  obtain ⟨t, ht, url, -, title, -, description, -, version, -, rfl⟩ := h
  exact ⟨ht, rfl⟩

/-- The fields of the operations of a client stand below the paths. -/
theorem exists_path_of_client (h : p.client d = .ok c) {e : String × List Operation}
    (he : e ∈ c.controllers) {o : Operation} (ho : o ∈ e.2) {g : String × Value}
    (hg : g ∈ o.requestBody.getD [] ++ o.responses.getD []) :
    ∃ path ∈ d.paths, path.2.Holds g.2 := by
  obtain ⟨hcontrollers, -⟩ := client_eq_ok h
  obtain ⟨x, hx, id, hid⟩ := exists_endpoint_of_controllers hcontrollers he ho
  obtain ⟨path, hpath, hheld⟩ := Endpoint.exists_path_of_mem_ofDocument hx
  exact ⟨path, hpath, hheld.trans (Endpoint.holds_of_toOperation hid hg)⟩

end Projection

end ClientGen
