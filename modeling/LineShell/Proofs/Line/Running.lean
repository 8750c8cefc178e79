import LineShell.Proofs.CommandLine.OnePass
import LineShell.Proofs.Line.Delivering
import LineShell.Proofs.Session.Statuses
/-!
# Running — a line and what comes of it

`Session.RunsLine` says what a line is run to in any order of moves: a blank line and one that cannot be read start
nothing, and any other line is reported on once its run is over.  The line that is run by the schedule is one of these
(`runsLine_runLine`); a lone exit keyword starts no stage, so its run never waits and is always over.

From the reasons of the statuses it follows what is reported (`report_of_line`): the session ends with a line exactly if
that line is a lone exit keyword, and otherwise each stage whose command is unknown, and each that ended well with an
error, has its entry.
-/
namespace LineShell

/-- What is shown of a stage: that nobody knows its command, or the error it ended well with. -/
def Status.shown : Status → String
  | ⟨.unknownCommand, name, _⟩ => "No command with name: " ++ name ++ "\n"
  | ⟨.ok, _, some e⟩ => e ++ "\n"
  | ⟨.ok, _, none⟩ | ⟨.interrupted, _, _⟩ | ⟨.exitRequested, _, _⟩ => ""

theorem exitRequested_iff {statuses : List Status} :
    exitRequested statuses = true ↔ ∃ status, statuses = [status] ∧ status.code = .exitRequested := by
  rcases statuses with _ | ⟨status, _ | ⟨status', statuses⟩⟩ <;> simp [exitRequested]

/-! ## Reading -/

theorem readLine_of_isBlankText {line : String} (h : isBlankText line.toList = true) :
    ∃ e, readLine line = .error e := by
  have hblank : ∀ c ∈ line.toList, isBlank c = true := List.all_eq_true.1 h
  have hwords : (lineSegments line.toList).map segmentWords = [[]] := by
    rw [map_segmentWords_lineSegments, scanLine, trimEnd_of_blank hblank]
    rfl
  obtain ⟨segment, rest, hsegments, hnone, hrest⟩ := List.map_eq_cons_iff.1 hwords
  obtain rfl := List.map_eq_nil_iff.1 hrest
  refine ⟨.emptyClause (String.ofList segment), ?_⟩
  rw [readLine, hsegments, List.mapM_cons, readClause, hnone]
  rfl

theorem ne_nil_of_readLine {line : String} {clauses : List Clause} (h : readLine line = .ok clauses) : clauses ≠ [] := by
  rintro rfl
  rw [readLine] at h
  cases hsegments : lineSegments line.toList with
  | nil => exact splitUnquoted_ne_nil _ _ hsegments
  | cons segment segments =>
    rw [hsegments, List.mapM_cons] at h
    cases hclause : readClause segment with
    | error e => rw [hclause] at h; cases h
    | ok clause =>
      rw [hclause] at h
      cases hrest : segments.mapM readClause with
      | error e => rw [hrest] at h; cases h
      | ok clauses => rw [hrest] at h; cases h

namespace Session

variable {s t u : Session} {clauses : List Clause} {clause : Clause} {moves : List Move} {farewell line : String}

/-- **A line is run**: what there is to report, and the session after some moves.  A line that has no clauses starts
nothing, so the moves are those of stages that were left to themselves before. -/
inductive RunsLine (s : Session) (farewell line : String) (moves : List Move) : LineReport → Session → Prop
  | blank {t : Session} : isBlankText line.toList = true → s.play moves = some t →
      RunsLine s farewell line moves {} t
  | unread {e : LineError} {t : Session} : isBlankText line.toList = false → readLine line = .error e →
      s.play moves = some t → RunsLine s farewell line moves (.ofError e) t
  | ran {clauses : List Clause} {t : Session} : isBlankText line.toList = false → readLine line = .ok clauses →
      (s.start clauses).play moves = some t → t.current = none →
      RunsLine s farewell line moves (.ofStatuses farewell t.statuses) t

/-! ## Runs that wait for nobody -/

theorem idsOf_of_isExit (h : s.registry.isExit clause.name = true) : s.idsOf [clause] = [] := by
  have hjobs : s.jobsOf [clause] = [] := by
    refine List.eq_nil_iff_forall_not_mem.2 fun ⟨i, job⟩ hmem => ?_
    obtain ⟨k, hk, hjob⟩ := List.getElem_of_mem hmem
    obtain ⟨clause', streams, hc, -, hprep⟩ := clause_of_job (List.getElem?_eq_some_iff.2 ⟨hk, hjob⟩)
    obtain rfl := List.mem_singleton.1 (List.mem_of_getElem? hc)
    rw [(prepare_eq_ok hprep).1] at h
    cases h
  rw [idsOf, hjobs]
  rfl

theorem current_next? (hidle : s.current = none) (h : s.next? = some t) : t.current = none := by
  unfold next? at h
  split at h
  · next hd =>
    cases h
    exact (step_of_drive? hd).current_eq_none hidle
  · obtain ⟨id, -, hid⟩ := List.exists_of_findSome?_eq_some h
    exact (step_of_advance? hid).current_eq_none hidle

theorem current_settleWithin (hidle : s.current = none) (fuel : Nat) : (settleWithin fuel s).current = none := by
  induction fuel generalizing s with
  | zero => exact hidle
  | succ fuel ih =>
    unfold settleWithin
    cases hn : s.next? with
    | none => exact hidle
    | some u => exact ih (current_next? hidle hn)

theorem current_settleWithin_of_drive (hs : s.Dated) (hne : clauses ≠ [])
    (hdrive : ∀ moves t, (s.start clauses).play moves = some t → t.current ≠ none → t.drive? ≠ none) (fuel : Nat) :
    ∀ moves t, (s.start clauses).play moves = some t → t.left ≤ fuel → (settleWithin fuel t).current = none := by
  induction fuel with
  | zero =>
    intro moves t _ hleft
    show t.current = none
    cases hr : t.current with
    | none => rfl
    | some run =>
      rw [left, hr] at hleft
      exact absurd hleft (Nat.not_le.2 run.left_pos)
  | succ fuel ih =>
    intro moves t h hleft
    by_cases hidle : t.current = none
    · exact current_settleWithin hidle _
    · obtain ⟨u, hu⟩ := Option.ne_none_iff_exists'.1 (hdrive moves t h hidle)
      have hnext : t.next? = some u := by
        unfold next?
        rw [hu]
      have hstep : t.step? .drive = some u := hu
      have hfewer := left_step hs hne h hstep
      rw [if_pos rfl] at hfewer
      unfold settleWithin
      rw [hnext]
      exact ih (moves ++ [.drive]) u (play_snoc h hstep) (by omega)

/-- **The run of a lone exit keyword is over** as soon as it is scheduled. -/
theorem current_interpret_of_isExit (hs : s.Dated) (h : s.registry.isExit clause.name = true) :
    (s.interpret [clause]).2.current = none := by
  have hne : [clause] ≠ [] := List.cons_ne_nil _ _
  have hids := idsOf_of_isExit h
  refine current_settleWithin_of_drive hs hne (fun moves t => drive?_of_idsOf hs hne hids) patience [] _ rfl ?_
  rw [left, current_start hne]
  exact (left_start s [clause]).trans (by rw [List.length_singleton]; decide)

/-- **The line that the schedule runs** is one that is run, once its run is over. -/
theorem runsLine_runLine (h : ∀ clauses, readLine line = .ok clauses → (s.interpret clauses).2.current = none) :
    ∃ moves, s.RunsLine farewell line moves (s.runLine farewell line).1 (s.runLine farewell line).2 := by
  unfold runLine
  by_cases hblank : isBlankText line.toList = true
  · rw [if_pos hblank]
    exact ⟨[], .blank hblank rfl⟩
  · rw [if_neg hblank]
    have hblank : isBlankText line.toList = false := by simpa using hblank
    cases hread : readLine line with
    | error e => exact ⟨[], .unread hblank hread rfl⟩
    | ok clauses =>
      obtain ⟨moves, hmoves, hstatuses⟩ := interpret_play s clauses
      have hran : s.RunsLine farewell line moves _ _ := .ran hblank hread hmoves (h clauses hread)
      rw [← hstatuses] at hran
      exact ⟨moves, hran⟩

/-! ## Reports -/

theorem Account.join_entry {i : Nat} {streams : Except String Streams} {status : Status}
    (h : Account s clauses moves i clause streams status) : String.join (LineReport.entry status) = status.shown := by
  have joined : ∀ a b : String, String.join [a, b] = a ++ b := by simp
  have joined' : ∀ a b c : String, String.join [a, b, c] = a ++ b ++ c := by simp [String.append_assoc]
  cases h with
  | exit | left | cut => rfl
  | unknown => exact joined' _ _ _
  | unopened => exact joined _ _
  | ran _ _ _ _ _ _ hstatus =>
    cases hstatus with
    | done | stopped => rfl
    | refused | fault | other | brokeDown => exact joined _ _

theorem join_flatMap_entry : ∀ {statuses : List Status},
    (∀ status ∈ statuses, String.join (LineReport.entry status) = status.shown) →
    String.join (statuses.flatMap LineReport.entry) = String.join (statuses.map Status.shown)
  | [], _ => rfl
  | status :: statuses, h => by
    obtain ⟨hfirst, hrest⟩ := List.forall_mem_cons.1 h
    rw [List.flatMap_cons, String.join_append, hfirst, join_flatMap_entry hrest, List.map_cons, String.join_cons]

theorem account_single (hs : s.Dated) (h : (s.start [clause]).play moves = some t) (hover : t.current = none) :
    ∃ streams status, t.statuses = [status] ∧ Account s [clause] moves 0 clause streams status := by
  obtain ⟨hlen, hall⟩ := accounts_of_play hs (List.cons_ne_nil _ _) h hover
  have hstreams : 0 < (s.streamsOf [clause]).length := by simp [length_streamsOf]
  obtain ⟨status, hstatus, haccount⟩ := hall 0 clause _ rfl (List.getElem?_eq_getElem hstreams)
  obtain ⟨status', hstatuses⟩ := List.length_eq_one_iff.1 hlen
  rw [hstatuses] at hstatus
  obtain rfl := Option.some.inj hstatus
  exact ⟨_, _, hstatuses, haccount⟩

/-- **The run of a lone exit keyword** opens nothing and runs nothing. -/
theorem statuses_of_isExit (hs : s.Dated) (h : (s.start [clause]).play moves = some t) (hover : t.current = none)
    (hexit : s.registry.isExit clause.name = true) : t.statuses = [⟨.exitRequested, clause.name, none⟩] := by
  obtain ⟨streams, status, hstatuses, haccount⟩ := account_single hs h hover
  rw [hstatuses]
  cases haccount with
  | exit => rfl
  | unknown he | unopened he | left he | ran he | cut he => rw [hexit] at he; cases he

/-- **A run asks for the end of the session** exactly if its one clause names an exit keyword. -/
theorem exitRequested_statuses_iff (hs : s.Dated) (hne : clauses ≠ []) (h : (s.start clauses).play moves = some t)
    (hover : t.current = none) :
    exitRequested t.statuses = true ↔ ∃ clause, clauses = [clause] ∧ s.registry.isExit clause.name = true := by
  constructor
  · intro hasks
    obtain ⟨status, hstatuses, hcode⟩ := exitRequested_iff.1 hasks
    have hlen := (accounts_of_play hs hne h hover).1
    rw [hstatuses] at hlen
    obtain ⟨clause, rfl⟩ := List.length_eq_one_iff.1 hlen.symm
    obtain ⟨streams, status', hstatuses', haccount⟩ := account_single hs h hover
    rw [hstatuses] at hstatuses'
    cases hstatuses'
    exact ⟨clause, rfl, haccount.exitRequested_iff.1 hcode⟩
  · rintro ⟨clause, rfl, hexit⟩
    rw [statuses_of_isExit hs h hover hexit]
    rfl

/-- **What is shown of a line after which the session goes on**: nothing of a blank line, of a line that cannot be read
the one message that shows its first segment without a word, and of any other line what there is to show of its stages, in
their order. -/
inductive LineShows (s : Session) (line : String) (moves : List Move) (t : Session) : String → Prop
  | blank : isBlankText line.toList = true → s.play moves = some t → LineShows s line moves t ""
  | unread {segment : String} : isBlankText line.toList = false → readLine line = .error (.emptyClause segment) →
      s.play moves = some t → LineShows s line moves t ("Error when parsing command " ++ "\"" ++
        String.ofList (segment.toList.flatMap Quoted.escape) ++ "\"" ++ ": empty command" ++ "\n")
  | ran {clauses : List Clause} : readLine line = .ok clauses → (s.start clauses).play moves = some t →
      t.statuses.length = clauses.length →
      (∀ i clause streams, clauses[i]? = some clause → (s.streamsOf clauses)[i]? = some streams →
        ∃ status, t.statuses[i]? = some status ∧ Account s clauses moves i clause streams status) →
      LineShows s line moves t (String.join (t.statuses.map Status.shown))

theorem lineShows_ran (hs : s.Dated) (hread : readLine line = .ok clauses)
    (h : (s.start clauses).play moves = some t) (hover : t.current = none) :
    s.LineShows line moves t (String.join (t.statuses.flatMap LineReport.entry)) := by
  obtain ⟨hlen, hall⟩ := accounts_of_play hs (ne_nil_of_readLine hread) h hover
  have hentry : ∀ status ∈ t.statuses, String.join (LineReport.entry status) = status.shown := by
    intro status hmem
    obtain ⟨i, hi, hstatus⟩ := List.getElem_of_mem hmem
    have hstreams : i < (s.streamsOf clauses).length := by rwa [length_streamsOf, ← hlen]
    obtain ⟨status', hstatus', haccount⟩ := hall i _ _ (List.getElem?_eq_getElem (hlen ▸ hi))
      (List.getElem?_eq_getElem hstreams)
    rw [List.getElem?_eq_getElem hi, hstatus, Option.some.injEq] at hstatus'
    subst hstatus'
    exact haccount.join_entry
  rw [join_flatMap_entry hentry]
  exact .ran hread h hlen hall

theorem RunsLine.outcome_iff (hs : s.Dated) {report : LineReport} (h : s.RunsLine farewell line moves report t) :
    report.outcome = .exit ↔ ∃ clause, readLine line = .ok [clause] ∧ s.registry.isExit clause.name = true := by
  cases h with
  | blank hblank =>
    obtain ⟨e, he⟩ := readLine_of_isBlankText hblank
    simp [he]
  | unread _ hread => simp [hread, LineReport.ofError]
  | @ran clauses _ _ hread hplay hover =>
    have hiff := exitRequested_statuses_iff hs (ne_nil_of_readLine hread) hplay hover
    have houtcome : (LineReport.ofStatuses farewell t.statuses).outcome = .exit ↔ exitRequested t.statuses = true := by
      unfold LineReport.ofStatuses
      split <;> simp_all
    rw [houtcome, hiff, hread]
    simp only [Except.ok.injEq]

theorem RunsLine.text_of_exit (hs : s.Dated) {report : LineReport} (h : s.RunsLine farewell line moves report t)
    (hread : readLine line = .ok [clause]) (hexit : s.registry.isExit clause.name = true) :
    report.text = (if clause.name = farewell then farewell ++ "\n" else "") ++ "\n" := by
  cases h with
  | blank hblank =>
    obtain ⟨e, he⟩ := readLine_of_isBlankText hblank
    rw [hread] at he
    cases he
  | unread _ hread' => rw [hread] at hread'; cases hread'
  | @ran clauses _ _ hread' hplay hover =>
    rw [hread] at hread'
    obtain rfl := Except.ok.inj hread'
    rw [statuses_of_isExit hs hplay hover hexit]
    simp only [LineReport.text, LineReport.ofStatuses, exitRequested, List.head?_cons, Option.map_some,
      Option.some.injEq, beq_self_eq_true, if_true]
    by_cases hfarewell : clause.name = farewell <;> simp [hfarewell, String.append_assoc]

theorem RunsLine.shows_of_goOn (hs : s.Dated) {report : LineReport} (h : s.RunsLine farewell line moves report t)
    (hgoOn : report.outcome = .goOn) : s.LineShows line moves t report.text := by
  cases h with
  | blank hblank hplay => exact .blank hblank hplay
  | @unread e _ hblank hread hplay =>
    obtain ⟨segment⟩ := e
    rw [LineReport.text_ofError, LineError.message_emptyClause]
    exact .unread hblank hread hplay
  | @ran clauses _ _ hread hplay hover =>
    unfold LineReport.ofStatuses at hgoOn ⊢
    split at hgoOn
    · cases hgoOn
    · next hasks =>
      rw [if_neg hasks]
      exact lineShows_ran hs hread hplay hover

/-- **What a line comes to**, in any order of moves.  The session ends with a line exactly if the line spells one clause
and that names an exit keyword; then the farewell is shown if the keyword is the one that says it, and an empty line.
After any other line the session goes on, and what is shown depends on the line and its statuses alone (`LineShows`).
Whoever takes the report and never fails is told all of it.

A line gets that far: its run is driven on only so often and waits for nothing but its own stages, and that of a lone
exit keyword, which has none, never waits. -/
theorem report_of_line (hs : s.Lived) (farewell line : String) :
    (∀ moves report t, s.RunsLine farewell line moves report t →
      (report.outcome = .exit ↔ ∃ clause, readLine line = .ok [clause] ∧ s.registry.isExit clause.name = true) ∧
      (∀ clause, readLine line = .ok [clause] → s.registry.isExit clause.name = true →
        report.text = (if clause.name = farewell then farewell ++ "\n" else "") ++ "\n") ∧
      (report.outcome = .goOn → s.LineShows line moves t report.text) ∧
      ∀ w : Writer, w.Willing → (report.deliver w).1 = .ok report.outcome ∧
        (report.deliver w).2.accepted.bytes = w.accepted.bytes ++ Bytes.ofString report.text) ∧
    (∀ clauses moves t, readLine line = .ok clauses → (s.start clauses).play moves = some t →
      moves.count .drive ≤ 2 * clauses.length + 4 ∧
      (t.current ≠ none → t.drive? = none → (∀ id, .vanish id ∉ moves) → t.Busy (s.idsOf clauses)) ∧
      (∀ clause, clauses = [clause] → s.registry.isExit clause.name = true → t.current ≠ none → t.drive? ≠ none)) ∧
    ((∀ clauses, readLine line = .ok clauses →
        (∃ clause, clauses = [clause] ∧ s.registry.isExit clause.name = true) ∨ (s.interpret clauses).2.current = none) →
      ∃ moves, s.RunsLine farewell line moves (s.runLine farewell line).1 (s.runLine farewell line).2) := by
  refine ⟨fun moves report t h => ?_, fun clauses moves t hread hplay => ?_, fun h => runsLine_runLine ?_⟩
  · exact ⟨h.outcome_iff hs.dated, fun clause hread => h.text_of_exit hs.dated hread, h.shows_of_goOn hs.dated,
      fun w => report.deliver_of_willing⟩
  · have hne := ne_nil_of_readLine hread
    refine ⟨count_drive_le hs.dated hne hplay, fun hunder hstuck hv => ?_, ?_⟩
    · exact busy_of_stuck hs.dated hne hplay (fun run => heard_of_play hs.dated hne hv hplay) hunder hstuck
    · rintro clause rfl hexit
      exact drive?_of_idsOf hs.dated hne (idsOf_of_isExit hexit) hplay
  · intro clauses hread
    obtain ⟨clause, rfl, hexit⟩ | hover := h clauses hread
    · exact current_interpret_of_isExit hs.dated hexit
    · exact hover

/-- An exit keyword with an argument, a redirect that cannot be opened and a `&`, told to a writer that takes a byte at a
time; and a line whose second segment is a tab. -/
theorem report_of_line_exit : (∃ report t, small.RunsLine "exit" "exit a <none &" [.drive] report t ∧
    report.outcome = .exit ∧ report.text = "exit\n\n" ∧
    (report.deliver { most := some 1 }).2.accepted.bytes = Bytes.ofString report.text) ∧
    ∃ report, small.RunsLine "exit" "go |\t|go" [] report small ∧
      small.LineShows "go |\t|go" [] small report.text ∧
      report.text = "Error when parsing command \"\\t\": empty command\n" := by
  constructor
  · have hread : readLine "exit a <none &" =
        .ok [{ name := "exit", arguments := ["a"], input := "none", background := true }] := by cbv
    obtain ⟨t, hplay, hover⟩ : ∃ t, (small.start
        [{ name := "exit", arguments := ["a"], input := "none", background := true }]).play [.drive] = some t ∧
        t.current = none := ⟨_, rfl, rfl⟩
    have hran : small.RunsLine "exit" "exit a <none &" [.drive] _ _ := .ran (by cbv) hread hplay hover
    obtain ⟨hexit, htext, -, htold⟩ := (report_of_line lived_small "exit" "exit a <none &").1 _ _ _ hran
    refine ⟨_, t, hran, hexit.2 ⟨_, hread, by decide⟩, htext _ hread (by decide), ?_⟩
    exact (htold { most := some 1 } ⟨by decide, rfl, rfl, rfl⟩).2
  · have hread : readLine "go |\t|go" = .error (.emptyClause "\t") := by cbv
    have hran : small.RunsLine "exit" "go |\t|go" [] _ _ := .unread (by cbv) hread rfl
    obtain ⟨-, -, hshows, -⟩ := (report_of_line lived_small "exit" "go |\t|go").1 _ _ _ hran
    have hquoted : "\t".toList.flatMap Quoted.escape = ['\\', 't'] := by decide
    refine ⟨_, hran, hshows rfl, ?_⟩
    rw [LineReport.text_ofError, LineError.message_emptyClause, hquoted]
    rfl

end Session
end LineShell
