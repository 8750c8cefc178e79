import LineShell.Session.Board
import Mathlib.Data.List.Basic
/-!
# Rows — the rows of a board one by one

What recording a status, asking for a stop and concluding do to each row, and what a board shows once it is complete.
-/
namespace LineShell
namespace Board

/-! ## Names -/

theorem names_modify (rows : List Row) (index : Nat) {f : Row → Row} (h : ∀ r, (f r).name = r.name) :
    (rows.modify index f).map Row.name = rows.map Row.name := by
  apply List.ext_getElem?
  intro j
  rw [List.getElem?_map, List.getElem?_map, List.getElem?_modify]
  by_cases hj : index = j
  · cases hr : rows[j]? <;> simp [hj, h]
  · simp [hj]

theorem Row.name_record (r : Row) (status : Status) (path : Option String) : (r.record status path).name = r.name := by
  unfold Row.record
  split <;> rfl

theorem Row.name_requestStop (r : Row) : r.requestStop.name = r.name := by
  unfold Row.requestStop
  split <;> rfl

theorem Row.name_conclude (reason : String) (r : Row) : (r.conclude reason).name = r.name := by
  unfold Row.conclude
  split <;> rfl

theorem names_record (b : Board) (index : Nat) (status : Status) (path : Option String) :
    (b.record index status path).rows.map Row.name = b.rows.map Row.name :=
  names_modify b.rows index (fun r => r.name_record status path)

theorem names_requestStop (b : Board) : b.requestStop.2.rows.map Row.name = b.rows.map Row.name := by
  simp [requestStop, Function.comp_def, Row.name_requestStop]

theorem names_conclude (b : Board) (reason : String) : (b.conclude reason).rows.map Row.name = b.rows.map Row.name := by
  simp [conclude, Function.comp_def, Row.name_conclude]

/-! ## Statuses -/

def status? (b : Board) (index : Nat) : Option Status := (b.rows[index]?).bind Row.status

theorem getElem?_record (b : Board) (index : Nat) (status : Status) (path : Option String) (j : Nat) :
    (b.record index status path).rows[j]? =
      if index = j then (b.rows[j]?).map (fun r => r.record status path) else b.rows[j]? := by
  rw [record, List.getElem?_modify]
  split
  · rfl
  · exact id_map' _

theorem status?_record_ne (b : Board) {index j : Nat} (status : Status) (path : Option String) (h : index ≠ j) :
    (b.record index status path).status? j = b.status? j := by
  rw [status?, getElem?_record, if_neg h, status?]

theorem Row.status_record (r : Row) (status : Status) (path : Option String) :
    (r.record status path).status = some (r.status.getD status) := by
  unfold record
  cases h : r.status <;> simp [h]

theorem status?_record_self (b : Board) {index : Nat} (status : Status) (path : Option String)
    (h : index < b.rows.length) : (b.record index status path).status? index = some ((b.status? index).getD status) := by
  rw [status?, getElem?_record, if_pos rfl, status?, List.getElem?_eq_getElem h]
  exact Row.status_record _ status path

theorem status?_record_of_eq_some (b : Board) {index j : Nat} {st : Status} (status : Status) (path : Option String)
    (h : b.status? j = some st) : (b.record index status path).status? j = some st := by
  by_cases hj : index = j
  · subst hj
    obtain ⟨r, hr, -⟩ := Option.bind_eq_some_iff.1 h
    rw [status?_record_self b status path (List.getElem?_eq_some_iff.1 hr).1, h, Option.getD_some]
  · rw [status?_record_ne b status path hj, h]

theorem Row.status_requestStop (r : Row) : r.requestStop.status = r.status := by
  unfold requestStop
  split <;> rfl

@[simp] theorem status?_requestStop (b : Board) (j : Nat) : b.requestStop.2.status? j = b.status? j := by
  simp only [status?, requestStop, List.getElem?_map]
  cases b.rows[j]? with
  | none => rfl
  | some r => exact r.status_requestStop

theorem Row.status_conclude (reason : String) (r : Row) :
    (r.conclude reason).status = some (r.status.getD
      (if r.state = .stopRequested then ⟨.interrupted, r.name, none⟩ else ⟨.ok, r.name, some reason⟩)) := by
  unfold conclude
  cases h : r.status <;> simp [h]

theorem status?_conclude (b : Board) (reason : String) (j : Nat) :
    (b.conclude reason).status? j = (b.rows[j]?).map (fun r => r.status.getD
      (if r.state = .stopRequested then ⟨.interrupted, r.name, none⟩ else ⟨.ok, r.name, some reason⟩)) := by
  simp only [status?, conclude, List.getElem?_map]
  cases b.rows[j]? with
  | none => rfl
  | some r => exact Row.status_conclude reason r

theorem isComplete_iff (b : Board) : b.isComplete = true ↔ ∀ j, j < b.rows.length → b.status? j ≠ none := by
  simp only [isComplete, List.all_eq_true, status?]
  constructor
  · intro h j hj
    rw [List.getElem?_eq_getElem hj, Option.bind_some, ← Option.isSome_iff_ne_none]
    exact h _ (List.getElem_mem hj)
  · intro h r hr
    obtain ⟨j, hj, rfl⟩ := List.mem_iff_getElem.1 hr
    have := h j hj
    rwa [List.getElem?_eq_getElem hj, Option.bind_some, ← Option.isSome_iff_ne_none] at this

theorem isComplete_conclude (b : Board) (reason : String) : (b.conclude reason).isComplete = true := by
  rw [isComplete_iff]
  intro j hj
  have hj : j < b.rows.length := by simpa [conclude] using hj
  rw [status?_conclude, List.getElem?_eq_getElem hj]
  simp

theorem status?_conclude_of_eq_some (b : Board) (reason : String) {j : Nat} {st : Status}
    (h : b.status? j = some st) : (b.conclude reason).status? j = some st := by
  obtain ⟨r, hr, hst⟩ := Option.bind_eq_some_iff.1 h
  rw [status?_conclude, hr, Option.map_some, hst, Option.getD_some]

theorem getElem?_statuses {b : Board} (h : b.isComplete = true) (j : Nat) : b.statuses[j]? = b.status? j := by
  have hsome : ∀ r ∈ b.rows, r.status.isSome = true := List.all_eq_true.1 h
  have hmap : b.rows.filterMap Row.status = b.rows.map (fun r => r.status.getD default) := by
    refine List.filterMap_eq_map_iff_forall_eq_some.2 (fun r hr => ?_)
    obtain ⟨st, hst⟩ := Option.isSome_iff_exists.1 (hsome r hr)
    rw [hst, Option.getD_some]
  rw [statuses, hmap, List.getElem?_map, status?]
  cases hr : b.rows[j]? with
  | none => rfl
  | some r =>
    obtain ⟨st, hst⟩ := Option.isSome_iff_exists.1 (hsome r (List.mem_of_getElem? hr))
    simp [hst]

theorem length_statuses {b : Board} (h : b.isComplete = true) : b.statuses.length = b.rows.length := by
  rw [statuses, List.length_filterMap_eq_countP]
  exact List.countP_eq_length.2 (List.all_eq_true.1 h)

/-! ## Empty rows -/

def missing (b : Board) : Nat := b.rows.countP (fun r => r.status.isNone)

theorem missing_le (b : Board) : b.missing ≤ b.rows.length := List.countP_le_length

theorem missing_of_isComplete {b : Board} (h : b.isComplete = true) : b.missing = 0 := by
  refine List.countP_eq_zero.2 (fun r hr => ?_)
  have := List.all_eq_true.1 h r hr
  simpa using Option.isSome_iff_ne_none.1 this

@[simp] theorem missing_requestStop (b : Board) : b.requestStop.2.missing = b.missing := by
  simp only [missing, requestStop, List.countP_map, Function.comp_def, Row.status_requestStop]

theorem missing_record {b : Board} {index : Nat} (status : Status) (path : Option String) (hi : index < b.rows.length)
    (h : b.status? index = none) : (b.record index status path).missing + 1 = b.missing := by
  have hnone : (b.rows[index]).status = none := by
    rwa [status?, List.getElem?_eq_getElem hi, Option.bind_some] at h
  have hrow : ((b.rows[index]).record status path).status.isNone = false := by
    rw [Row.status_record]
    rfl
  have hsplit : b.missing = (b.rows.take index ++ b.rows[index] :: b.rows.drop (index + 1)).countP
      (fun r => r.status.isNone) := by
    rw [← List.drop_eq_getElem_cons hi, List.take_append_drop, missing]
  rw [hsplit, missing, record, List.modify_eq_take_cons_drop hi, List.countP_append, List.countP_append, List.countP_cons,
    List.countP_cons, hnone, hrow]
  rfl

end Board
end LineShell
