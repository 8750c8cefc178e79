import LineShell.Proofs.Session.Rows
import Mathlib.Data.List.Induction
/-!
# Filling — a board under any calls

A board is told what becomes of the stages of a run: a status is recorded for one of them, all are asked to stop, or
what is missing is concluded.  Nothing keeps these entries in an order, and none has to be in place: a stage may report
twice, or after the board was concluded, or be none of the run's.

An entry does to a row what it does to a row of that place anywhere (`getElem?_enterAll`), so each row has a fate of its
own, which can be read off the entries (`Row.Fate`): the first entry that decides the row gives it its status, and what
comes later finds it taken.  `accounts_of_entries` says what follows for the board.
-/
namespace LineShell
namespace Board

inductive Entry where
  | record (index : Nat) (status : Status) (path : Option String)
  | requestStop
  | conclude (reason : String)
  deriving DecidableEq, Repr

/-- Whether an entry settles the row of a place, if it is the first to do so. -/
def Entry.Decides (index : Nat) : Entry → Prop
  | record i _ _ => i = index
  | requestStop => False
  | conclude _ => True

def enter (b : Board) : Entry → Board
  | .record index status path => b.record index status path
  | .requestStop => b.requestStop.2
  | .conclude reason => b.conclude reason

def enterAll (b : Board) (entries : List Entry) : Board := entries.foldl enter b

theorem enterAll_append (b : Board) (before after : List Entry) :
    b.enterAll (before ++ after) = (b.enterAll before).enterAll after := List.foldl_append ..

/-! ## One row -/

def Row.enter (index : Nat) (r : Row) : Entry → Row
  | .record i status path => if i = index then r.record status path else r
  | .requestStop => r.requestStop
  | .conclude reason => r.conclude reason

theorem getElem?_enter (b : Board) (e : Entry) (i : Nat) :
    (b.enter e).rows[i]? = (b.rows[i]?).map (fun r => r.enter i e) := by
  cases e with
  | record index status path =>
    rw [enter, getElem?_record]
    by_cases hi : index = i
    · simp only [hi, if_true, Row.enter]
    · simp only [hi, if_false, Row.enter, Option.map_id']
  | requestStop => exact List.getElem?_map
  | conclude reason => exact List.getElem?_map

/-- **Entries do to each row** what they do to a row of its place. -/
theorem getElem?_enterAll (b : Board) (entries : List Entry) (i : Nat) :
    (b.enterAll entries).rows[i]? = (b.rows[i]?).map (fun r => entries.foldl (Row.enter i) r) := by
  induction entries generalizing b with
  | nil => exact (Option.map_id' ..).symm
  | cons e entries ih =>
    rw [show b.enterAll (e :: entries) = (b.enter e).enterAll entries from rfl, ih, getElem?_enter, Option.map_map]
    rfl

end Board

def StageState.rank : StageState → Nat
  | running => 0
  | stopRequested => 1
  | finished => 2

theorem StageState.rank_le_two (state : StageState) : state.rank ≤ 2 := by cases state <;> decide

theorem StageState.eq_finished {state state' : StageState} (h : state = .finished) (hrank : state.rank ≤ state'.rank) :
    state' = .finished := by
  subst h
  cases state' with
  | finished => rfl
  | running | stopRequested => exact absurd hrank (by decide)

namespace Board
namespace Row

variable {index : Nat} {r : Row} {entries : List Entry}

theorem enter_record_self (index : Nat) (r : Row) (status : Status) (path : Option String) :
    r.enter index (.record index status path) = r.record status path := if_pos rfl

theorem enter_record_of_ne {i : Nat} (h : i ≠ index) (r : Row) (status : Status) (path : Option String) :
    r.enter index (.record i status path) = r := if_neg h

theorem record_of_some {status : Status} (h : r.status = some status) (status' : Status) (path : Option String) :
    r.record status' path = r := by
  unfold record
  rw [h]

theorem record_of_none (h : r.status = none) (status : Status) (path : Option String) :
    r.record status path = { r with state := .finished, status := some status, path } := by
  unfold record
  rw [h]

theorem conclude_of_some {status : Status} (h : r.status = some status) (reason : String) : r.conclude reason = r := by
  unfold conclude
  rw [h]

theorem path_requestStop (r : Row) : r.requestStop.path = r.path := by
  unfold requestStop
  split <;> rfl

theorem path_conclude (reason : String) (r : Row) : (r.conclude reason).path = r.path := by
  unfold conclude
  split <;> rfl

theorem state_conclude (reason : String) (r : Row) : (r.conclude reason).state = r.state := by
  unfold conclude
  split <;> rfl

theorem enter_cases {motive : Row → Prop} (index : Nat) (r : Row) (e : Entry) (still : motive r)
    (record : ∀ status path, motive (r.record status path)) (requestStop : motive r.requestStop)
    (conclude : ∀ reason, motive (r.conclude reason)) : motive (r.enter index e) := by
  cases e with
  | record i status path =>
    by_cases hi : i = index
    · subst hi
      rw [enter_record_self]
      exact record status path
    · rw [enter_record_of_ne hi]
      exact still
  | requestStop => exact requestStop
  | conclude reason => exact conclude reason

theorem name_enter (index : Nat) (r : Row) (e : Entry) : (r.enter index e).name = r.name :=
  enter_cases (motive := fun r' => r'.name = r.name) index r e rfl r.name_record r.name_requestStop
    r.name_conclude

theorem keeps_enter (index : Nat) {status : Status} (h : r.status = some status) (e : Entry) :
    (r.enter index e).status = some status ∧ (r.enter index e).path = r.path := by
  refine enter_cases (motive := fun r' => r'.status = some status ∧ r'.path = r.path) index r e ⟨h, rfl⟩ ?_
    ⟨r.status_requestStop.trans h, r.path_requestStop⟩ ?_
  · intro status' path
    rw [record_of_some h]
    exact ⟨h, rfl⟩
  · intro reason
    rw [conclude_of_some h]
    exact ⟨h, rfl⟩

/-- **The state of a stage only moves forward.** -/
theorem rank_le_enter (index : Nat) (r : Row) (e : Entry) : r.state.rank ≤ (r.enter index e).state.rank := by
  refine enter_cases (motive := fun r' => r.state.rank ≤ r'.state.rank) index r e (Nat.le_refl _) ?_ ?_ ?_
  · intro status path
    cases hs : r.status with
    | some _ => exact Nat.le_of_eq (by rw [record_of_some hs])
    | none =>
      rw [record_of_none hs]
      exact r.state.rank_le_two
  · unfold requestStop
    split
    · next hrun =>
      rw [hrun]
      exact Nat.zero_le _
    · exact Nat.le_refl _
  · exact fun reason => Nat.le_of_eq (congrArg StageState.rank (r.state_conclude reason)).symm

/-! ## The fate of a row -/

def asked (entries : List Entry) : StageState := if .requestStop ∈ entries then .stopRequested else .running

def verdict (name : String) (entries : List Entry) (reason : String) : Status :=
  if .requestStop ∈ entries then ⟨.interrupted, name, none⟩ else ⟨.ok, name, some reason⟩

/-- **What becomes of the row of a place** under some entries: none has decided it, or the first that does so is a
record of it, or a conclusion. -/
inductive Fate (index : Nat) (entries : List Entry) (r : Row) : Prop
  | pending (hentries : ∀ e ∈ entries, ¬ e.Decides index) (hstatus : r.status = none) (hpath : r.path = none)
      (hstate : r.state = asked entries)
  | recorded {before after : List Entry} {status : Status} {path : Option String}
      (hentries : entries = before ++ .record index status path :: after) (hbefore : ∀ e ∈ before, ¬ e.Decides index)
      (hstatus : r.status = some status) (hpath : r.path = path) (hstate : r.state = .finished)
  | concluded {before after : List Entry} {reason : String}
      (hentries : entries = before ++ .conclude reason :: after) (hbefore : ∀ e ∈ before, ¬ e.Decides index)
      (hstatus : r.status = some (verdict r.name before reason)) (hpath : r.path = none)
      (hstate : r.state = asked entries)

theorem asked_append (e : Entry) :
    asked (entries ++ [e]) = if e = .requestStop then .stopRequested else asked entries := by
  by_cases he : e = .requestStop
  · simp [asked, he]
  · simp [asked, he, Ne.symm he]

theorem asked_ne_finished (entries : List Entry) : asked entries ≠ .finished := by
  unfold asked
  split <;> decide

theorem state_requestStop (h : r.state = asked entries) : r.requestStop.state = .stopRequested := by
  unfold requestStop
  split
  · rfl
  · next hrun =>
    rw [h, asked] at hrun ⊢
    split at hrun
    · exact if_pos ‹_›
    · exact absurd rfl hrun

theorem verdict_eq (h : r.state = asked entries) (reason : String) : (if r.state = .stopRequested then
    (⟨.interrupted, r.name, none⟩ : Status) else ⟨.ok, r.name, some reason⟩) = verdict r.name entries reason := by
  rw [h, verdict, asked]
  split <;> rfl

theorem state_enter_of_not_decides {e : Entry} (he : ¬ e.Decides index) (h : r.state = asked entries) :
    (r.enter index e).state = asked (entries ++ [e]) ∧ (r.enter index e).status = r.status ∧
      (r.enter index e).path = r.path := by
  cases e with
  | record i status path =>
    rw [enter_record_of_ne he, asked_append, if_neg nofun]
    exact ⟨h, rfl, rfl⟩
  | requestStop =>
    rw [asked_append, if_pos rfl]
    exact ⟨state_requestStop h, r.status_requestStop, r.path_requestStop⟩
  | conclude reason => exact absurd trivial he

theorem Fate.enter (h : Fate index entries r) (e : Entry) : Fate index (entries ++ [e]) (r.enter index e) := by
  cases h with
  | pending hentries hstatus hpath hstate =>
    by_cases he : e.Decides index
    · cases e with
      | record i status path =>
        obtain rfl : i = index := he
        rw [enter_record_self, record_of_none hstatus]
        exact .recorded rfl hentries rfl rfl rfl
      | requestStop => exact he.elim
      | conclude reason =>
        refine .concluded rfl hentries ?_ ((r.path_conclude reason).trans hpath) ?_
        · rw [name_enter, Row.enter, Row.status_conclude, hstatus, Option.getD_none, verdict_eq hstate]
        · rw [asked_append, if_neg nofun]
          exact (r.state_conclude reason).trans hstate
    · obtain ⟨hs, ht, hp⟩ := state_enter_of_not_decides he hstate
      exact .pending (List.forall_mem_append.2 ⟨hentries, List.forall_mem_singleton.2 he⟩) (ht.trans hstatus)
        (hp.trans hpath) hs
  | @recorded before after status path hentries hbefore hstatus hpath hstate =>
    obtain ⟨hs, hp⟩ := keeps_enter index hstatus e
    have hentries' : entries ++ [e] = before ++ .record index status path :: (after ++ [e]) := by
      rw [hentries, List.append_assoc]
      rfl
    exact .recorded hentries' hbefore hs (hp.trans hpath)
      (StageState.eq_finished hstate (rank_le_enter index r e))
  | @concluded before after reason hentries hbefore hstatus hpath hstate =>
    obtain ⟨hs, hp⟩ := keeps_enter index hstatus e
    have hentries' : entries ++ [e] = before ++ .conclude reason :: (after ++ [e]) := by
      rw [hentries, List.append_assoc]
      rfl
    refine .concluded hentries' hbefore ?_ (hp.trans hpath) ?_
    · rwa [name_enter]
    · by_cases he : e.Decides index
      · cases e with
        | record i status path =>
          obtain rfl : i = index := he
          rw [enter_record_self, record_of_some hstatus, asked_append, if_neg nofun, hstate]
        | requestStop => exact he.elim
        | conclude reason' =>
          rw [asked_append, if_neg nofun]
          exact (r.state_conclude reason').trans hstate
      · exact (state_enter_of_not_decides he hstate).1

/-- **Every row has its fate.** -/
theorem fate_of_entries (index : Nat) (name : String) (entries : List Entry) :
    Fate index entries (entries.foldl (enter index) { name }) := by
  induction entries using List.reverseRecOn with
  | nil => exact .pending nofun rfl rfl rfl
  | append_singleton entries e ih =>
    rw [List.foldl_append]
    exact ih.enter e

end Row

/-! ## All rows -/

variable {names : List String} {entries before after : List Entry} {i : Nat} {r : Row}

theorem names_enter (b : Board) (e : Entry) : (b.enter e).rows.map Row.name = b.rows.map Row.name := by
  cases e with
  | record index status path => exact names_record b index status path
  | requestStop => exact names_requestStop b
  | conclude reason => exact names_conclude b reason

theorem names_enterAll (b : Board) (entries : List Entry) :
    (b.enterAll entries).rows.map Row.name = b.rows.map Row.name := by
  induction entries generalizing b with
  | nil => rfl
  | cons e entries ih => exact (ih (b.enter e)).trans (names_enter b e)

theorem names_ofNames (names : List String) : (ofNames names).rows.map Row.name = names := by
  simp [ofNames, Function.comp_def]

theorem names_of_entries (names : List String) (entries : List Entry) :
    ((ofNames names).enterAll entries).rows.map Row.name = names :=
  (names_enterAll _ _).trans (names_ofNames names)

theorem length_of_entries (names : List String) (entries : List Entry) :
    ((ofNames names).enterAll entries).rows.length = names.length := by
  rw [← List.length_map (f := Row.name), names_of_entries]

theorem fate_of_row (h : ((ofNames names).enterAll entries).rows[i]? = some r) : r.Fate i entries := by
  rw [getElem?_enterAll, ofNames, List.getElem?_map, Option.map_map] at h
  obtain ⟨name, -, rfl⟩ := Option.map_eq_some_iff.1 h
  exact Row.fate_of_entries i name entries

theorem row_of_append (h : ((ofNames names).enterAll (before ++ after)).rows[i]? = some r) :
    ∃ r', ((ofNames names).enterAll before).rows[i]? = some r' ∧ r = after.foldl (Row.enter i) r' := by
  rw [enterAll_append, getElem?_enterAll] at h
  obtain ⟨r', hr', rfl⟩ := Option.map_eq_some_iff.1 h
  exact ⟨r', hr', rfl⟩

theorem keeps_enterAll (index : Nat) (entries : List Entry) (r : Row) :
    r.state.rank ≤ (entries.foldl (Row.enter index) r).state.rank ∧ ∀ status, r.status = some status →
      (entries.foldl (Row.enter index) r).status = some status ∧ (entries.foldl (Row.enter index) r).path = r.path := by
  induction entries generalizing r with
  | nil => exact ⟨Nat.le_refl _, fun _ h => ⟨h, rfl⟩⟩
  | cons e entries ih =>
    obtain ⟨hrank, hkeeps⟩ := ih (r.enter index e)
    refine ⟨Nat.le_trans (r.rank_le_enter index e) hrank, fun status h => ?_⟩
    obtain ⟨hs, hp⟩ := Row.keeps_enter index h e
    obtain ⟨hs', hp'⟩ := hkeeps status hs
    exact ⟨hs', hp'.trans hp⟩

theorem record_of_le (b : Board) {index : Nat} (status : Status) (path : Option String)
    (h : b.rows.length ≤ index) : b.record index status path = b := by
  rw [record, List.modify_eq_self h]

/-- **Asking to stop counts the rows that it moves.** -/
theorem fst_requestStop (b : Board) :
    b.requestStop.1 = (b.rows.zip b.requestStop.2.rows).countP (fun p => p.1.state != p.2.state) := by
  have hzip : b.rows.zip b.requestStop.2.rows = b.rows.map (fun r => (r, r.requestStop)) := by
    rw [requestStop, List.map_prod_left_eq_zip]
  rw [hzip, List.countP_map]
  refine List.countP_congr fun r _ => ?_
  cases hr : r.state <;> simp [Row.requestStop, hr]

/-- **What a board accounts for** that has a row for each of some names and was told some entries. -/
structure Accounts (names : List String) (entries : List Entry) (b : Board) : Prop where
  names_eq : b.rows.map Row.name = names
  /-- A record for no row changes nothing. -/
  outside : ∀ index status path, names.length ≤ index → b.record index status path = b
  /-- The first status that is recorded for a row stays there, with its path. -/
  first : ∀ before index status path after, entries = before ++ .record index status path :: after →
    index < names.length → ((ofNames names).enterAll before).status? index = none →
    ∃ r : Row, b.rows[index]? = some r ∧ r.status = some status ∧ r.path = path
  /-- What a row was before, it has gone on from. -/
  onward : ∀ before after, entries = before ++ after → ∀ (i : Nat) (r : Row),
    ((ofNames names).enterAll before).rows[i]? = some r → ∃ r' : Row, b.rows[i]? = some r' ∧
      r.state.rank ≤ r'.state.rank ∧ ∀ status, r.status = some status → r'.status = some status ∧ r'.path = r.path
  finished_iff : ∀ (i : Nat) (r : Row), b.rows[i]? = some r → (r.state = .finished ↔ ∃ before status path after,
    entries = before ++ .record i status path :: after ∧ ∀ reason, .conclude reason ∉ before)
  /-- Asking to stop moves who is running, and counts the moved. -/
  asked : b.requestStop.1 = (b.rows.zip b.requestStop.2.rows).countP (fun p => p.1.state != p.2.state) ∧
    ∀ (i : Nat) (r : Row), b.rows[i]? = some r → ∃ r' : Row, b.requestStop.2.rows[i]? = some r' ∧ r'.status = r.status ∧
      r'.state = if r.state = .running then .stopRequested else r.state
  /-- Concluding fills what is missing, and that alone. -/
  filled : ∀ reason (i : Nat) (r : Row), b.rows[i]? = some r → ∃ r' : Row, (b.conclude reason).rows[i]? = some r' ∧
    r'.state = r.state ∧ r'.path = r.path ∧ (∀ status, r.status = some status → r'.status = some status) ∧
    (r.status = none → r.state = .stopRequested ∧ r'.status = some ⟨.interrupted, r.name, none⟩ ∨
      r.state = .running ∧ r'.status = some ⟨.ok, r.name, some reason⟩)
  /-- Once it was concluded, a board is complete, and its statuses are settled, one a row. -/
  settled : ∀ before reason after, entries = before ++ .conclude reason :: after → b.isComplete = true ∧
    b.statuses = ((ofNames names).enterAll (before ++ [.conclude reason])).statuses ∧
    b.statuses.length = names.length ∧ ∀ i, b.statuses[i]? = b.status? i
  /-- A status belongs to the stage of its row: it was recorded for it, or concluded of it. -/
  belongs : ∀ i name status, names[i]? = some name → b.status? i = some status →
    (∃ path, .record i status path ∈ entries) ∨ ∃ reason, .conclude reason ∈ entries ∧
      (status = ⟨.interrupted, name, none⟩ ∨ status = ⟨.ok, name, some reason⟩)

theorem isComplete_of_conclude {reason : String} (h : .conclude reason ∈ entries) :
    ((ofNames names).enterAll entries).isComplete = true := by
  refine List.all_eq_true.2 fun r hr => ?_
  obtain ⟨i, hi⟩ := List.getElem?_of_mem hr
  cases fate_of_row hi with
  | pending hentries => exact absurd trivial (hentries _ h)
  | recorded _ _ hstatus | concluded _ _ hstatus => rw [hstatus]; rfl

theorem status?_eq_some {b : Board} {status : Status} (h : b.status? i = some status) :
    ∃ r, b.rows[i]? = some r ∧ r.status = some status := Option.bind_eq_some_iff.1 h

theorem status?_of_append {status : Status} (h : ((ofNames names).enterAll before).status? i = some status) :
    ((ofNames names).enterAll (before ++ after)).status? i = some status := by
  obtain ⟨r, hr, hs⟩ := status?_eq_some h
  rw [status?, enterAll_append, getElem?_enterAll, hr]
  exact ((keeps_enterAll i after r).2 status hs).1

theorem status?_of_isComplete (h : ((ofNames names).enterAll before).isComplete = true) (i : Nat) :
    ((ofNames names).enterAll (before ++ after)).status? i = ((ofNames names).enterAll before).status? i := by
  cases hs : ((ofNames names).enterAll before).status? i with
  | some status => exact status?_of_append hs
  | none =>
    have hi : ¬ i < ((ofNames names).enterAll before).rows.length := fun hi => (isComplete_iff _).1 h i hi hs
    rw [length_of_entries] at hi
    rw [status?, List.getElem?_eq_none (by rw [length_of_entries]; omega), Option.bind_none]

theorem statuses_of_isComplete (h : ((ofNames names).enterAll before).isComplete = true)
    (h' : ((ofNames names).enterAll (before ++ after)).isComplete = true) :
    ((ofNames names).enterAll (before ++ after)).statuses = ((ofNames names).enterAll before).statuses := by
  refine List.ext_getElem? fun i => ?_
  rw [getElem?_statuses h', getElem?_statuses h, status?_of_isComplete h]

/-- **The first status recorded for a row** stays there, with its path. -/
theorem row_of_record {status : Status} {path : Option String} (hi : i < names.length)
    (hnone : ((ofNames names).enterAll before).status? i = none) :
    ∃ r : Row, ((ofNames names).enterAll (before ++ .record i status path :: after)).rows[i]? = some r ∧
      r.status = some status ∧ r.path = path := by
  obtain ⟨r, hr⟩ : ∃ r, ((ofNames names).enterAll before).rows[i]? = some r :=
    ⟨_, List.getElem?_eq_getElem (by rwa [length_of_entries])⟩
  have hstatus : r.status = none := by rwa [status?, hr] at hnone
  have hrecord : r.enter i (.record i status path) = { r with state := .finished, status := some status, path } := by
    rw [Row.enter_record_self, Row.record_of_none hstatus]
  obtain ⟨hs, hp⟩ := (keeps_enterAll i after _).2 status (congrArg Row.status hrecord)
  exact ⟨_, by rw [enterAll_append, getElem?_enterAll, hr]; rfl, hs, hp.trans (congrArg Row.path hrecord)⟩

/-- **A stage is finished** if a status was recorded for it before anything was concluded. -/
theorem finished_iff_recorded (hr : ((ofNames names).enterAll entries).rows[i]? = some r) :
    r.state = .finished ↔ ∃ before status path after,
      entries = before ++ .record i status path :: after ∧ ∀ reason, .conclude reason ∉ before := by
  constructor
  · intro hfinished
    cases fate_of_row hr with
    | pending _ _ _ hstate | concluded _ _ _ _ hstate =>
      rw [hstate] at hfinished
      exact absurd hfinished (Row.asked_ne_finished _)
    | recorded hentries hbefore => exact ⟨_, _, _, _, hentries, fun reason h => hbefore _ h trivial⟩
  · rintro ⟨before, status, path, after, rfl, hnot⟩
    obtain ⟨r', hr', rfl⟩ := row_of_append hr
    -- The row is finished by this record, if it was not by one before.
    have hfinished : (r'.enter i (.record i status path)).state = .finished := by
      rw [Row.enter_record_self]
      cases fate_of_row hr' with
      | pending _ hstatus => rw [Row.record_of_none hstatus]
      | recorded _ _ hstatus _ hstate => rw [Row.record_of_some hstatus, hstate]
      | concluded hentries => exact absurd (hentries ▸ List.mem_append_right _ List.mem_cons_self) (hnot _)
    exact StageState.eq_finished hfinished (keeps_enterAll i after _).1

theorem status_conclude_of_none (hr : ((ofNames names).enterAll entries).rows[i]? = some r) (hnone : r.status = none)
    (reason : String) : r.state = .stopRequested ∧ (r.conclude reason).status = some ⟨.interrupted, r.name, none⟩ ∨
      r.state = .running ∧ (r.conclude reason).status = some ⟨.ok, r.name, some reason⟩ := by
  rw [Row.status_conclude, hnone, Option.getD_none]
  cases fate_of_row hr with
  | pending _ _ _ hstate =>
    rw [hstate]
    unfold Row.asked
    split
    · exact .inl ⟨rfl, rfl⟩
    · exact .inr ⟨rfl, rfl⟩
  | recorded _ _ hstatus | concluded _ _ hstatus => rw [hnone] at hstatus; cases hstatus

/-- **After a conclusion no status changes.** -/
theorem statuses_of_conclude (before : List Entry) (reason : String) (after : List Entry) :
    ((ofNames names).enterAll (before ++ .conclude reason :: after)).statuses =
      ((ofNames names).enterAll (before ++ [.conclude reason])).statuses := by
  have hsplit : before ++ .conclude reason :: after = before ++ [.conclude reason] ++ after := by simp
  have hmem : .conclude reason ∈ before ++ [Entry.conclude reason] := by simp
  rw [hsplit]
  exact statuses_of_isComplete (isComplete_of_conclude hmem)
    (isComplete_of_conclude (List.mem_append_left after hmem))

/-- **A status belongs to its stage**: it was recorded for it, or concluded of it. -/
theorem origin_of_status {name : String} {status : Status} (hname : names[i]? = some name)
    (hstatus : ((ofNames names).enterAll entries).status? i = some status) :
    (∃ path, .record i status path ∈ entries) ∨ ∃ reason, .conclude reason ∈ entries ∧
      (status = ⟨.interrupted, name, none⟩ ∨ status = ⟨.ok, name, some reason⟩) := by
  obtain ⟨r, hr, hs⟩ := status?_eq_some hstatus
  cases fate_of_row hr with
  | pending _ hstatus => rw [hs] at hstatus; cases hstatus
  | @recorded before after status' path hentries _ hstatus =>
    obtain rfl := Option.some.inj (hs.symm.trans hstatus)
    exact .inl ⟨path, hentries ▸ List.mem_append_right _ List.mem_cons_self⟩
  | @concluded before after reason hentries _ hstatus =>
    obtain rfl := Option.some.inj (hs.symm.trans hstatus)
    refine .inr ⟨reason, hentries ▸ List.mem_append_right _ List.mem_cons_self, ?_⟩
    have hrow : r.name = name := by
      have hnames := congrArg (fun names => names[i]?) (names_of_entries names entries)
      simpa [hr, hname] using hnames
    rw [Row.verdict, hrow]
    split
    · exact .inl rfl
    · exact .inr rfl

/-- **Boards account for what they are told**, whatever it is and in whatever order. -/
theorem accounts_of_entries (names : List String) (entries : List Entry) :
    Accounts names entries ((ofNames names).enterAll entries) where
  names_eq := names_of_entries names entries
  outside index status path h := record_of_le _ status path (by rwa [length_of_entries])
  first := by
    rintro before index status path after rfl hi hnone
    exact row_of_record hi hnone
  onward := by
    rintro before after rfl i r hr
    obtain ⟨hrank, hkeeps⟩ := keeps_enterAll i after r
    exact ⟨_, by rw [enterAll_append, getElem?_enterAll, hr]; rfl, hrank, hkeeps⟩
  finished_iff _ _ hr := finished_iff_recorded hr
  asked := by
    refine ⟨fst_requestStop _, fun i r hr => ⟨r.requestStop, ?_, r.status_requestStop, ?_⟩⟩
    · rw [requestStop, List.getElem?_map, hr]
      rfl
    · unfold Row.requestStop
      split <;> rfl
  filled reason i r hr :=
    ⟨r.conclude reason, by rw [conclude, List.getElem?_map, hr]; rfl, r.state_conclude reason, r.path_conclude reason,
      fun status hs => by rw [Row.conclude_of_some hs, hs], fun hnone => status_conclude_of_none hr hnone reason⟩
  settled := by
    rintro before reason after rfl
    have hmem : .conclude reason ∈ before ++ .conclude reason :: after := by simp
    have hcomplete : ((ofNames names).enterAll (before ++ .conclude reason :: after)).isComplete = true :=
      isComplete_of_conclude hmem
    refine ⟨hcomplete, statuses_of_conclude before reason after, ?_, getElem?_statuses hcomplete⟩
    rw [length_statuses hcomplete, length_of_entries]
  belongs _ _ _ := origin_of_status

/-- A stage reports after it was asked to stop, one that there is not does too, and the last reports too late. -/
example : ((ofNames ["a", "b", "c"]).enterAll [.record 2 ⟨.ok, "c", none⟩ none, .requestStop,
    .record 1 ⟨.ok, "b", some "no"⟩ none, .record 7 ⟨.ok, "b", none⟩ none, .conclude "silent",
    .record 0 ⟨.ok, "a", none⟩ none]).statuses =
      [⟨.interrupted, "a", none⟩, ⟨.ok, "b", some "no"⟩, ⟨.ok, "c", none⟩] := by decide

end Board
end LineShell
