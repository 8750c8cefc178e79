import LineShell.Proofs.Line.Running
/-!
# Undisturbed — a line under way and whoever takes its report

While a line is under way its session moves, and once the run is over its report is told; stages that were left to
themselves go on while that happens.  `LineCourse.Goes` puts the two together in any order, with the moves of the session
and the exchanges of the telling kept apart.  The two do not get at each other: a course of a line is a line that is run
together with any telling of the report (`goes_iff`).

So whoever takes the report changes nothing of the session, whatever it accepts, refuses or fails at, and nothing that
happens to the session makes the telling fail (`session_of_told`).
-/
namespace LineShell

/-- A line under way: its session and, once there is a report, what is still to be told of it. -/
structure LineCourse where
  session : Session
  telling : Option (Program (Except Failure LineOutcome))

namespace LineCourse

def opened (s : Session) (line : String) : LineCourse :=
  if isBlankText line.toList then ⟨s, some ({} : LineReport).telling⟩
  else
    match readLine line with
    | .error e => ⟨s, some (LineReport.ofError e).telling⟩
    | .ok clauses => ⟨s.start clauses, none⟩

/-- **How a line goes on**, by moves of its session and exchanges with whoever takes the report. -/
inductive Goes (farewell : String) : LineCourse → List Move → List Exchange → LineCourse → Prop
  | refl (c : LineCourse) : Goes farewell c [] [] c
  /-- The session moves, at any time. -/
  | move {s t : Session} {telling : Option (Program (Except Failure LineOutcome))} {m : Move} {moves : List Move} {es : List Exchange}
      {d : LineCourse} : s.step? m = some t → Goes farewell ⟨t, telling⟩ moves es d →
      Goes farewell ⟨s, telling⟩ (m :: moves) es d
  /-- The run is over, so there is a report. -/
  | report {s : Session} {moves : List Move} {es : List Exchange} {d : LineCourse} : s.current = none →
      Goes farewell ⟨s, some (LineReport.ofStatuses farewell s.statuses).telling⟩ moves es d →
      Goes farewell ⟨s, none⟩ moves es d
  | told {s : Session} {q : Request} {next : q.Reply → Program (Except Failure LineOutcome)} {moves : List Move}
      {es : List Exchange} {d : LineCourse} (reply : q.Reply) : Goes farewell ⟨s, some (next reply)⟩ moves es d →
      Goes farewell ⟨s, some (.ask q next)⟩ moves (⟨q, reply⟩ :: es) d
  | turn {s : Session} {l : Loop} {state : l.State} {next : Except Failure l.Value → Program (Except Failure LineOutcome)}
      {moves : List Move} {es : List Exchange} {d : LineCourse} :
      Goes farewell ⟨s, some (Program.enter l state next)⟩ moves es d →
      Goes farewell ⟨s, some (.loop l state next)⟩ moves es d

variable {farewell line : String} {s t : Session} {c d : LineCourse} {p p' : Program (Except Failure LineOutcome)} {moves : List Move}
  {es : List Exchange}

/-- **The session goes its own way.** -/
theorem Goes.session (h : Goes farewell c moves es d) : c.session.play moves = some d.session := by
  induction h with
  | refl => rfl
  | move hm _ ih => rw [Session.play, hm]; exact ih
  | report _ _ ih | told _ _ ih | turn _ ih => exact ih

theorem Goes.proceeds (h : Goes farewell c moves es d) (hc : c.telling = some p) :
    ∃ p', d.telling = some p' ∧ Program.Proceeds p es p' := by
  induction h generalizing p with
  | refl => exact ⟨p, hc, .refl p⟩
  | move _ _ ih => exact ih hc
  | report => cases hc
  | told reply _ ih =>
    cases hc
    obtain ⟨p', hp', hp⟩ := ih rfl
    exact ⟨p', hp', .ask reply hp⟩
  | turn _ ih =>
    cases hc
    obtain ⟨p', hp', hp⟩ := ih rfl
    exact ⟨p', hp', .enter hp⟩

theorem Goes.reported (h : Goes farewell c moves es d) (hc : c.telling = none) (hd : d.telling = some p) :
    d.session.current = none ∧ Program.Proceeds (LineReport.ofStatuses farewell d.session.statuses).telling es p := by
  induction h with
  | refl => rw [hc] at hd; cases hd
  | move _ _ ih => exact ih hc hd
  | @report s moves es d hover h =>
    obtain ⟨hidle, hkept⟩ : d.session.current = none ∧ d.session.statuses = s.statuses := by
      refine Session.play_keeps (P := fun u => u.current = none ∧ u.statuses = s.statuses)
        (fun u m v hu hm => ?_) ⟨hover, rfl⟩ h.session
      have hstep := Session.step_of_step? hm
      exact ⟨hstep.current_eq_none hu.1, (hstep.kept_of_none hu.1).statuses.trans hu.2⟩
    obtain ⟨p', hp', hp⟩ := h.proceeds rfl
    rw [hd] at hp'
    cases hp'
    exact ⟨hidle, hkept ▸ hp⟩
  | told => cases hc
  | turn => cases hc

theorem goes_of_proceeds (hp : Program.Proceeds p es p') (s : Session) :
    Goes farewell ⟨s, some p⟩ [] es ⟨s, some p'⟩ := by
  induction hp with
  | refl => exact .refl _
  | ask reply _ ih => exact .told reply ih
  | enter _ ih => exact .turn ih

theorem goes_of_play {telling : Option (Program (Except Failure LineOutcome))} (h : s.play moves = some t)
    (hrest : Goes farewell ⟨t, telling⟩ [] es d) : Goes farewell ⟨s, telling⟩ moves es d := by
  induction moves generalizing s with
  | nil => cases h; exact hrest
  | cons m moves ih =>
    rw [Session.play] at h
    split at h
    · next u hu => exact .move hu (ih h)
    · cases h

/-- **A course of a line** is a line that is run together with any telling of its report. -/
theorem goes_iff : Goes farewell (opened s line) moves es ⟨t, some p⟩ ↔
    ∃ report, s.RunsLine farewell line moves report t ∧ Program.Proceeds report.telling es p := by
  unfold opened
  constructor
  · intro h
    split at h
    · next hblank =>
      obtain ⟨p', hp', hp⟩ := h.proceeds rfl
      cases hp'
      exact ⟨_, .blank hblank h.session, hp⟩
    · next hblank =>
      have hblank : isBlankText line.toList = false := by simpa using hblank
      split at h
      · next e hread =>
        obtain ⟨p', hp', hp⟩ := h.proceeds rfl
        cases hp'
        exact ⟨_, .unread hblank hread h.session, hp⟩
      · next clauses hread =>
        obtain ⟨hover, hp⟩ := h.reported rfl rfl
        exact ⟨_, .ran hblank hread h.session hover, hp⟩
  · rintro ⟨report, hran, hp⟩
    cases hran with
    | blank hblank hplay =>
      rw [if_pos hblank]
      exact goes_of_play hplay (goes_of_proceeds hp t)
    | unread hblank hread hplay =>
      rw [if_neg (by simp [hblank])]
      simp only [hread]
      exact goes_of_play hplay (goes_of_proceeds hp t)
    | ran hblank hread hplay hover =>
      rw [if_neg (by simp [hblank])]
      simp only [hread]
      exact goes_of_play hplay (.report hover (goes_of_proceeds hp t))

theorem goes_deliver {report : LineReport} (h : s.RunsLine farewell line moves report t) (b : Bench) :
    ∃ es b', b.Serves es b' ∧ b'.writer = (report.deliver b.writer).2 ∧
      Goes farewell (opened s line) moves es ⟨t, some (.done (LineReport.failing (report.deliver b.writer).1))⟩ := by
  obtain ⟨es, b', hb', hw, hp⟩ := report.deliver_serves b
  exact ⟨es, b', hb', hw, goes_iff.2 ⟨report, h, hp⟩⟩

/-- **Telling a report disturbs nothing, and nothing disturbs it.**  Wherever a line has been told to its end, everyone
else who takes the report finds the same session after the same moves, and any writer can be the one who takes it.  The
result is an error exactly if a write or the flush failed, whatever the session has done; otherwise it is what comes
after the line.  So it is when the schedule runs the line: the moves are the same whoever takes the report. -/
theorem session_of_told (s : Session) (farewell line : String) :
    (∀ moves es t result, Goes farewell (opened s line) moves es ⟨t, some (.done result)⟩ →
      (∀ es' d, Goes farewell (opened s line) moves es' d → d.session = t) ∧
      ((∃ f, result = .error f) ↔ ∃ e ∈ es, e.Fails) ∧
      ∃ report, s.RunsLine farewell line moves report t ∧ ((∀ e ∈ es, ¬ e.Fails) → result = .ok report.outcome) ∧
        ∀ b : Bench, ∃ es' b', b.Serves es' b' ∧ b'.writer = (report.deliver b.writer).2 ∧
          Goes farewell (opened s line) moves es' ⟨t, some (.done (LineReport.failing (report.deliver b.writer).1))⟩) ∧
    ((∀ clauses, readLine line = .ok clauses → (s.interpret clauses).2.current = none) →
      ∃ moves, ∀ b : Bench, ∃ es b', b.Serves es b' ∧ b'.writer = ((s.runLine farewell line).1.deliver b.writer).2 ∧
        Goes farewell (opened s line) moves es ⟨(s.runLine farewell line).2,
          some (.done (LineReport.failing ((s.runLine farewell line).1.deliver b.writer).1))⟩) := by
  refine ⟨fun moves es t result h => ⟨fun es' d h' => ?_, ?_⟩, fun hover => ?_⟩
  · exact Option.some.inj (h'.session.symm.trans h.session)
  · obtain ⟨report, hran, hp⟩ := goes_iff.1 h
    refine ⟨?_, report, hran, ?_, goes_deliver hran⟩
    · obtain ⟨rfl, hnot, -⟩ | ⟨f, rfl, hfails, -⟩ := LineReport.telling_cases hp
      · exact ⟨nofun, fun ⟨e, he, hfails⟩ => absurd hfails (hnot e he)⟩
      · exact ⟨fun _ => hfails, fun _ => ⟨_, rfl⟩⟩
    · obtain ⟨rfl, -⟩ | ⟨f, -, ⟨e, he, hfails⟩, -⟩ := LineReport.telling_cases hp
      · exact fun _ => rfl
      · exact fun hnot => absurd hfails (hnot e he)
  · obtain ⟨moves, hran⟩ := Session.runsLine_runLine hover
    exact ⟨moves, goes_deliver hran⟩

/-- A report told to the end and the same report broken off at its second write, which is what failed. -/
theorem session_of_told_broken : ∃ moves t es es',
    Goes "bye" (opened .small "nope") moves es ⟨t, some (.done (.ok .goOn))⟩ ∧
    Goes "bye" (opened .small "nope") moves es' ⟨t, some (.done (.error (.fault (.worded "sink full"))))⟩ ∧
    (¬ ∃ e ∈ es, e.Fails) ∧ ∃ e ∈ es', e.Fails := by
  obtain ⟨t, hplay, hover, hstatuses⟩ : ∃ t, (Session.small.start [{ name := "nope" }]).play
      [.drive, .drive, .drive, .drive] = some t ∧ t.current = none ∧
      t.statuses = [⟨.unknownCommand, "nope", none⟩] := ⟨_, rfl, rfl, rfl⟩
  have hran : Session.small.RunsLine "bye" "nope" [.drive, .drive, .drive, .drive] _ t :=
    .ran (by cbv) (by cbv : readLine "nope" = .ok [{ name := "nope" }]) hplay hover
  rw [hstatuses] at hran
  obtain ⟨es, -, -, -, hwhole⟩ := goes_deliver hran { files := .blank }
  obtain ⟨es', -, -, -, hbroken⟩ := goes_deliver hran { writer := { failOn := some 2 }, files := .blank }
  obtain ⟨-, hiff, -⟩ := (session_of_told .small "bye" "nope").1 _ _ _ _ hwhole
  obtain ⟨-, hiff', -⟩ := (session_of_told .small "bye" "nope").1 _ _ _ _ hbroken
  refine ⟨_, t, es, es', hwhole, hbroken, fun hfails => ?_, hiff'.1 ⟨_, rfl⟩⟩
  obtain ⟨f, hf⟩ := hiff.2 hfails
  cases hf

end LineCourse
end LineShell
