import UsageTree.Proofs.Failure
import UsageTree.Proofs.Limits
import UsageTree.Proofs.Visible

/-!
# What becomes of accepted requests

Being accepted does not mean being served. Names are not checked, though names with a NUL cannot be
ordered; sizes have no upper limit, though totals that are too large can neither be written nor shown
in units; and times are not checked, though some cannot be moved to another zone. A request for which
none of this matters is served.

## Main definitions

* `Service.Nameable` — no node of the records has a NUL in its name.
* `Service.Writable`, `Service.Showable` — what is needed of nodes as trees and as rows.

## Main statements

* `Service.status_of_accepted` — which accepted requests are served.
-/

namespace UsageTree

open UsageTree.Path UsageTree.Usage

/-! ## Integers of reports -/

namespace Json

variable {k : Nat}

theorem allWithinDigits_iff {vs : List Json} :
    allWithinDigits k vs ↔ ∀ v ∈ vs, v.withinDigits k := by
  induction vs with
  | nil => simp [allWithinDigits]
  | cons v vs ih => simp [allWithinDigits, ih]

@[simp] theorem withinDigits_ofText? (s : Option Text) : (ofText? s).withinDigits k := by
  cases s <;> simp [ofText?, withinDigits]

end Json

/-- The integers of entries are their sizes and the numbers of their files. -/
theorem Entry.withinDigits_listToJson {k : Nat} {es : List Entry} :
    Json.allWithinDigits k (listToJson es) ↔
      ∀ e ∈ preorder es, e.size.natAbs < 10 ^ k ∧ e.itemCount < 10 ^ k := by
  induction es using Entry.level_induction with
  | nil => simp [listToJson, Json.allWithinDigits, preorder]
  | cons e es ihBelow ihRest =>
    have first : (toJson e).withinDigits k ↔
        (e.size.natAbs < 10 ^ k ∧ e.itemCount < 10 ^ k) ∧
          Json.allWithinDigits k (listToJson e.children) := by
      cases e
      simp [toJson, Json.withinDigits, Json.fieldsWithinDigits, and_assoc]
    have all (P : Entry → Prop) : (∀ d ∈ preorder (e :: es), P d) ↔
        P e ∧ (∀ d ∈ preorder e.children, P d) ∧ ∀ d ∈ preorder es, P d := by
      simp only [preorder, subtree_eq, List.cons_append, List.forall_mem_cons, List.forall_mem_append]
    rw [all, ← ihBelow, ← ihRest, listToJson, Json.allWithinDigits, Bool.and_eq_true, first,
      and_assoc]

theorem Node.withinDigits_toJson {k : Nat} {n : Node} : n.toJson.withinDigits k ↔
    n.totalSize.natAbs < 10 ^ k ∧
      ∀ e ∈ Entry.preorder n.entries, e.size.natAbs < 10 ^ k ∧ e.itemCount < 10 ^ k := by
  rw [← Entry.withinDigits_listToJson]
  simp [toJson, Json.withinDigits, Json.fieldsWithinDigits]

/-- The only integer of a row is its depth. -/
theorem Row.withinDigits_toJson {k : Nat} {row : Row} :
    row.toJson.withinDigits k ↔ row.depth < 10 ^ k := by
  simp [toJson, Json.withinDigits, Json.fieldsWithinDigits]

/-! ## Responses -/

namespace Service

/-- No node of the records has a NUL in its name. -/
def Nameable (files : List FileRecord) : Prop :=
  ∀ id ∈ Group.ids (files.map FileRecord.toRaw),
    ('\x00' : CodePoint) ∉ (Group.gather (files.map FileRecord.toRaw) id).name

/-- The nodes of the records have names that can be ordered and sizes that can be written. -/
def Writable (request : Request) : Prop :=
  Nameable request.files ∧ ∀ nodes, Node.report (request.files.map FileRecord.toRaw) = .ok nodes →
    ∀ n ∈ nodes, n.totalSize < (10 ^ Text.maxDigits : Nat)

/-- The nodes of the records have names that can be ordered, and there is a row for everything that
is to be shown. -/
def Showable (zone : Int) (request : Request) : Prop :=
  Nameable request.files ∧ ∀ nodes, Node.report (request.files.map FileRecord.toRaw) = .ok nodes →
    ∀ spot ∈ Row.shown (expansion request.expanded) nodes, Row.Showable zone spot.2

variable {zone : Int} {request : Request}

theorem status_respond (made : Except Fault Json) :
    (respond made).status = 200 ∧ (∃ v, made = .ok v ∧ v.withinDigits Text.maxDigits) ∨
      (respond made).status = 500 ∧ ¬ ∃ v, made = .ok v ∧ v.withinDigits Text.maxDigits := by
  cases made with
  | error f => simp [respond]
  | ok v =>
    unfold respond
    dsimp only
    split <;> simp_all

theorem exists_report_iff (nonneg : ∀ r ∈ request.files, 0 ≤ r.size) :
    (∃ nodes, Node.report (request.files.map FileRecord.toRaw) = .ok nodes) ↔
      Nameable request.files := by
  simp [Attempt.exists_eq_ok_iff, Node.report_toRaw_eq_error nonneg, Nameable]

/-- Trees are written if the sizes of nodes are: no entry is larger than its node. -/
theorem exists_trees_iff (nonneg : ∀ r ∈ request.files, 0 ≤ r.size)
    (few : request.files.length < 10 ^ Text.maxDigits) :
    (∃ v, treesOf request = .ok v ∧ v.withinDigits Text.maxDigits) ↔ Writable request := by
  have digits : ∀ nodes, Node.report (request.files.map FileRecord.toRaw) = .ok nodes →
      ((Json.list (nodes.map Node.toJson)).withinDigits Text.maxDigits ↔
        ∀ n ∈ nodes, n.totalSize < (10 ^ Text.maxDigits : Nat)) := by
    intro nodes h
    simp only [Json.withinDigits, Json.allWithinDigits_iff, List.forall_mem_map,
      Node.withinDigits_toJson]
    generalize 10 ^ Text.maxDigits = limit at few ⊢
    refine forall₂_congr fun n hn => ?_
    obtain ⟨whole, parts⟩ := Node.entry_bounds (FileRecord.nonneg_toRaw nonneg) h hn
    constructor
    · rintro ⟨size, -⟩
      omega
    · intro size
      refine ⟨by omega, fun e he => ?_⟩
      obtain ⟨lower, upper, count⟩ := parts e he
      rw [List.length_map] at count
      omega
  rw [Writable, ← exists_report_iff nonneg]
  constructor
  · rintro ⟨v, made, written⟩
    obtain ⟨nodes, h, made⟩ := Attempt.bind_eq_ok.1 made
    cases made
    refine ⟨⟨nodes, h⟩, fun nodes' h' => ?_⟩
    cases h.symm.trans h'
    exact (digits nodes h).1 written
  · rintro ⟨⟨nodes, h⟩, sizes⟩
    exact ⟨_, Attempt.bind_eq_ok.2 ⟨nodes, h, rfl⟩, (digits nodes h).2 (sizes nodes h)⟩

/-- Rows are written if they can be made. -/
theorem exists_rows_iff (nonneg : ∀ r ∈ request.files, 0 ≤ r.size)
    (flat : ∀ nodes, Node.report (request.files.map FileRecord.toRaw) = .ok nodes →
      ∀ rows, Row.ofNodes zone (expansion request.expanded) nodes = .ok rows →
        ∀ row ∈ rows, row.depth < 10 ^ Text.maxDigits) :
    (∃ v, rowsOf zone request = .ok v ∧ v.withinDigits Text.maxDigits) ↔ Showable zone request := by
  rw [Showable, ← exists_report_iff nonneg]
  constructor
  · rintro ⟨v, made, -⟩
    obtain ⟨nodes, h, made⟩ := Attempt.bind_eq_ok.1 made
    obtain ⟨rows, hrows, made⟩ := Attempt.bind_eq_ok.1 made
    refine ⟨⟨nodes, h⟩, fun nodes' h' => ?_⟩
    cases h.symm.trans h'
    exact Row.exists_ofNodes_iff.1 ⟨rows, hrows⟩
  · rintro ⟨⟨nodes, h⟩, each⟩
    obtain ⟨rows, hrows⟩ := Row.exists_ofNodes_iff.2 (each nodes h)
    refine ⟨_, Attempt.bind_eq_ok.2 ⟨nodes, h, Attempt.bind_eq_ok.2 ⟨rows, hrows, rfl⟩⟩, ?_⟩
    simp only [Json.withinDigits, Json.allWithinDigits_iff, List.forall_mem_map,
      Row.withinDigits_toJson]
    exact flat nodes h rows hrows

/-! ## Calls -/

variable {call : Call}

/-- The status of a response to a post is that of the route. -/
theorem status_answer (config : Config) (zone : Int) {route : Route}
    (post : Text.capitals call.method = "POST")
    (there : Route.ofPlace? (Target.place call.target) = some route)
    (posted : ("POST" : Text) ∈ route.methods) :
    (answer config zone call).status = (serve config zone route call).status := by
  have found : Route.find? "POST" (Target.place call.target) = some route := by
    simp [Route.find?, there, posted]
  have other : ("POST" : Text) ≠ "OPTIONS" := by decide
  have routed : dispatch config zone (Text.capitals call.method) call =
      serve config zone route call := by
    rw [post, dispatch]
    simp only [found, other, if_false]
  rw [answer, routed]
  split <;> rfl

theorem lt_pow_maxDigits {n : Nat} (h : n < 10 ^ 6) : n < 10 ^ Text.maxDigits :=
  h.trans_le (Nat.pow_le_pow_right (by decide) (by decide))

/-- An accepted request is served as trees if the names of nodes hold no NUL and their sizes have no
more digits than are written; it is served as rows if the names hold no NUL and there is a row for
everything that is to be shown. It fails otherwise. -/
theorem status_of_accepted (zone : Int) (post : Text.capitals call.method = "POST")
    (accepted : requested Config.default call = .ok request) :
    (Route.ofPlace? (Target.place call.target) = some .trees →
      (answer Config.default zone call).status = 200 ∧ Writable request ∨
        (answer Config.default zone call).status = 500 ∧ ¬ Writable request) ∧
    (Route.ofPlace? (Target.place call.target) = some .rows →
      (answer Config.default zone call).status = 200 ∧ Showable zone request ∨
        (answer Config.default zone call).status = 500 ∧ ¬ Showable zone request) := by
  have limited := limited_of_requested accepted
  have nonneg : ∀ r ∈ request.files, 0 ≤ r.size := by
    intro r hr
    obtain ⟨v, read⟩ := exists_accepted_of_requested accepted r hr
    exact FileRecord.size_nonneg read
  constructor
  · intro there
    have few : request.files.length < 10 ^ Text.maxDigits := by
      have := limited.records
      exact lt_pow_maxDigits (by simp only [Config.default] at this; omega)
    have served : serve Config.default zone .trees call = respond (treesOf request) := by
      simp only [serve, accepted]
    rw [status_answer _ _ post there (by decide), served, ← exists_trees_iff nonneg few]
    exact status_respond _
  · intro there
    have flat : ∀ nodes, Node.report (request.files.map FileRecord.toRaw) = .ok nodes →
        ∀ rows, Row.ofNodes zone (expansion request.expanded) nodes = .ok rows →
          ∀ row ∈ rows, row.depth < 10 ^ Text.maxDigits := by
      intro nodes h rows hrows row hrow
      have := limited.depth h hrows row hrow
      exact lt_pow_maxDigits (by simp only [Config.default] at this; omega)
    have served : serve Config.default zone .rows call = respond (rowsOf zone request) := by
      simp only [serve, accepted]
    rw [status_answer _ _ post there (by decide), served, ← exists_rows_iff nonneg flat]
    exact status_respond _

/-- A record with a NUL in the name of its node, as it is posted. -/
def nulNamed : Call := posted "/api/v0/storage_usage"
  "\x7b\"files\":[\x7b\"node_id\":[7],\"node_name\":\"a\\u0000b\",\"path\":\"a\",\"size\":1\x7d]\x7d"

/-- An accepted request that is not served. -/
theorem accepted_not_served :
    Text.capitals nulNamed.method = "POST" ∧
    Route.ofPlace? (Target.place nulNamed.target) = some .trees ∧
    requested Config.default nulNamed = .ok ⟨[Node.unnameable], none⟩ ∧
    (answer Config.default 0 nulNamed).status = 500 := by
  have accepted : (requested Config.default nulNamed).toOption =
      some ⟨[Node.unnameable], none⟩ := by
    decide +kernel
  exact ⟨by decide +kernel, by decide +kernel, Attempt.toOption_eq_some.1 accepted,
    by decide +kernel⟩

/-- A record without a name, as it is posted. -/
def nameless (target : Text) : Call := posted target
  "\x7b\"files\":[\x7b\"node_id\":[7],\"path\":\"a\",\"size\":1\x7d]\x7d"

theorem status_of_accepted_nameless : ∃ request,
    requested Config.default (nameless "/api/v0/storage_usage") = .ok request ∧
    (answer Config.default 0 (nameless "/api/v0/storage_usage")).status = 200 ∧ Writable request ∧
    (answer Config.default 0 (nameless "/api/v0/storage_usage/rows")).status = 200 ∧
      Showable 0 request := by
  have accepted : ∀ target ∈ (["/api/v0/storage_usage", "/api/v0/storage_usage/rows"] : List Text),
      (requested Config.default (nameless target)).toOption =
        some ⟨[⟨⟨[7]⟩, none, "a", 1, none⟩], none⟩ := by
    decide +kernel
  have trees := Attempt.toOption_eq_some.1 (accepted "/api/v0/storage_usage" (by decide))
  have rows := Attempt.toOption_eq_some.1 (accepted "/api/v0/storage_usage/rows" (by decide))
  have served : (answer Config.default 0 (nameless "/api/v0/storage_usage")).status = 200 ∧
      (answer Config.default 0 (nameless "/api/v0/storage_usage/rows")).status = 200 := by
    decide +kernel
  refine ⟨_, trees, served.1, ?_, served.2, ?_⟩
  · rcases (status_of_accepted 0 (by decide +kernel) trees).1 (by decide +kernel) with
      ⟨-, fit⟩ | ⟨failed, -⟩
    · exact fit
    · cases served.1.symm.trans failed
  · rcases (status_of_accepted 0 (by decide +kernel) rows).2 (by decide +kernel) with
      ⟨-, fit⟩ | ⟨failed, -⟩
    · exact fit
    · cases served.2.symm.trans failed

end Service

end UsageTree
