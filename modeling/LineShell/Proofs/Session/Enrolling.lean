import LineShell.Proofs.Session.Lifetime
import Mathlib.Data.List.Find
import Mathlib.Data.List.TakeWhile
/-!
# Enrolling — what names come to mean

Commands and exit keywords are registered one by one, or all builtins at a time, and in between a session is played.
An enrolment puts what it registers behind what was there (`commands_enrol`), and nothing else is ever done to a
registry: what runs is a copy of what is registered.  So a registry holds what was registered with success
(`mem_commands_iff`), each name stands in it once, and a name means the command that came first (`Enrolled`).
-/
namespace LineShell

namespace Registry

def enrolAll (r : Registry) (es : List Enrolment) : Registry := es.foldl (fun r e => (r.enrol e).2) r

def builtins : List Command := Builtin.all.map Builtin.command

def untaken (r : Registry) (cs : List Command) : List Command := cs.takeWhile (fun c => c.name ∉ r.names)

def added (r : Registry) : Enrolment → List Command
  | .command c => r.untaken [c]
  | .exit _ => []
  | .builtins => r.untaken builtins

variable {r : Registry} {c : Command} {name : String} {cs : List Command} {e : Enrolment} {es : List Enrolment}

/-! ## One enrolment -/

theorem lookup_eq_none_iff : r.lookup name = none ↔ name ∉ r.names := by
  simp [lookup, names]

/-- **A command is registered unless its name is taken.** -/
theorem register_eq (r : Registry) (c : Command) : r.register c =
    if c.name ∈ r.names then .error (.alreadyRegistered c.name) else .ok { r with commands := r.commands ++ [c] } := by
  unfold register
  cases hl : r.lookup c.name with
  | none => rw [if_neg (lookup_eq_none_iff.1 hl)]
  | some found =>
    have htaken : c.name ∈ r.names := by
      by_contra hnot
      rw [lookup_eq_none_iff.2 hnot] at hl
      cases hl
    rw [if_pos htaken]

/-- **An exit keyword is registered unless it is one already.** -/
theorem registerExit_eq (r : Registry) (name : String) : r.registerExit name =
    if name ∈ r.exits then .error (.alreadyRegistered name) else .ok { r with exits := r.exits ++ [name] } := by
  unfold registerExit isExit
  simp only [List.contains_iff_mem]

theorem untaken_congr {r' : Registry} (h : ∀ c ∈ cs, (c.name ∈ r'.names ↔ c.name ∈ r.names)) :
    r'.untaken cs = r.untaken cs := by
  induction cs with
  | nil => rfl
  | cons c cs ih =>
    have hc : c.name ∈ r'.names ↔ c.name ∈ r.names := h c List.mem_cons_self
    have hcs : r'.untaken cs = r.untaken cs := ih fun c' hc' => h c' (List.mem_cons_of_mem c hc')
    unfold untaken at hcs ⊢
    simp only [List.takeWhile_cons, hc, hcs]

/-- **Commands with names of their own are registered up to the first whose name is taken**, which is the one that is
reported. -/
theorem registerAll_eq (r : Registry) (hcs : (cs.map Command.name).Nodup) : r.registerAll cs =
    ((cs.find? (fun c => c.name ∈ r.names)).map (fun c => .alreadyRegistered c.name),
      { r with commands := r.commands ++ r.untaken cs }) := by
  induction cs generalizing r with
  | nil => simp [registerAll, untaken]
  | cons c cs ih =>
    rw [List.map_cons, List.nodup_cons] at hcs
    rw [registerAll, register_eq]
    by_cases htaken : c.name ∈ r.names
    · simp [htaken, untaken]
    · -- What is registered now takes no name of those behind it.
      have hsame : ∀ c' ∈ cs, (c'.name ∈ ({ r with commands := r.commands ++ [c] } : Registry).names ↔
          c'.name ∈ r.names) := by
        intro c' hc'
        have hne : c'.name ≠ c.name := fun h => hcs.1 (h ▸ List.mem_map_of_mem hc')
        simp [names, hne]
      have hfind : cs.find? (fun c' => c'.name ∈ ({ r with commands := r.commands ++ [c] } : Registry).names) =
          cs.find? (fun c' => c'.name ∈ r.names) := List.find?_congr fun c' hc' => by simp only [hsame c' hc']
      have huntaken : ({ r with commands := r.commands ++ [c] } : Registry).untaken cs = r.untaken cs :=
        untaken_congr hsame
      simp only [htaken, if_false, ih _ hcs.2, hfind, huntaken]
      simp [htaken, untaken]

theorem enrol_command (r : Registry) (c : Command) : r.enrol (.command c) =
    if c.name ∈ r.names then (some (.alreadyRegistered c.name), r)
    else (none, { r with commands := r.commands ++ [c] }) := by
  rw [enrol, register_eq]
  by_cases htaken : c.name ∈ r.names <;> simp [htaken]

theorem enrol_exit (r : Registry) (name : String) : r.enrol (.exit name) =
    if name ∈ r.exits then (some (.alreadyRegistered name), r)
    else (none, { r with exits := r.exits ++ [name] }) := by
  rw [enrol, registerExit_eq]
  by_cases htaken : name ∈ r.exits <;> simp [htaken]

theorem nodup_builtins : (builtins.map Command.name).Nodup := by decide

/-- **All builtins are registered in front of the first whose name is taken.** -/
theorem install_eq (r : Registry) : r.install =
    ((builtins.find? (fun c => c.name ∈ r.names)).map (fun c => .alreadyRegistered c.name),
      { r with commands := r.commands ++ r.untaken builtins }) := r.registerAll_eq nodup_builtins

/-- **An enrolment puts its commands behind those that were there.** -/
theorem commands_enrol (r : Registry) (e : Enrolment) : (r.enrol e).2.commands = r.commands ++ r.added e := by
  cases e with
  | command c =>
    rw [enrol_command, added, untaken]
    by_cases htaken : c.name ∈ r.names <;> simp [htaken]
  | exit name =>
    rw [enrol_exit]
    by_cases htaken : name ∈ r.exits <;> simp [htaken, added]
  | builtins => rw [enrol, install_eq]; rfl

def addedExits (r : Registry) : Enrolment → List String
  | .exit name => if name ∈ r.exits then [] else [name]
  | _ => []

theorem exits_enrol (r : Registry) (e : Enrolment) : (r.enrol e).2.exits = r.exits ++ r.addedExits e := by
  cases e with
  | command c =>
    rw [enrol_command]
    by_cases htaken : c.name ∈ r.names <;> simp [htaken, addedExits]
  | exit name =>
    rw [enrol_exit]
    by_cases htaken : name ∈ r.exits <;> simp [htaken, addedExits]
  | builtins => rw [enrol, install_eq]; simp [addedExits]

/-! ## Rows of enrolments -/

theorem enrolAll_append (r : Registry) (es es' : List Enrolment) :
    r.enrolAll (es ++ es') = (r.enrolAll es).enrolAll es' := List.foldl_append

theorem enrolAll_concat (r : Registry) (es : List Enrolment) (e : Enrolment) :
    r.enrolAll (es ++ [e]) = ((r.enrolAll es).enrol e).2 := enrolAll_append r es [e]

/-- **A registry grows at its ends.** -/
structure Grows (r r' : Registry) : Prop where
  commands : r.commands <+: r'.commands
  exits : r.exits <+: r'.exits

theorem Grows.refl (r : Registry) : r.Grows r := ⟨List.prefix_rfl, List.prefix_rfl⟩

theorem Grows.trans {r' r'' : Registry} (h : r.Grows r') (h' : r'.Grows r'') : r.Grows r'' :=
  ⟨h.commands.trans h'.commands, h.exits.trans h'.exits⟩

theorem grows_enrol (r : Registry) (e : Enrolment) : r.Grows (r.enrol e).2 where
  commands := commands_enrol r e ▸ List.prefix_append _ _
  exits := exits_enrol r e ▸ List.prefix_append _ _

theorem grows_enrolAll (r : Registry) (es : List Enrolment) : r.Grows (r.enrolAll es) := by
  induction es using List.reverseRecOn with
  | nil => exact .refl r
  | append_singleton es e ih =>
    rw [enrolAll_concat]
    exact ih.trans (grows_enrol _ e)

/-- Each name is that of one command, and each exit keyword is there once. -/
structure Distinct (r : Registry) : Prop where
  names : r.names.Nodup
  exits : r.exits.Nodup

theorem names_added (r : Registry) (e : Enrolment) :
    ((r.added e).map Command.name).Nodup ∧ ∀ c ∈ r.added e, c.name ∉ r.names := by
  have huntaken : ∀ cs : List Command, (cs.map Command.name).Nodup →
      ((r.untaken cs).map Command.name).Nodup ∧ ∀ c ∈ r.untaken cs, c.name ∉ r.names := by
    intro cs hcs
    have hsub : (r.untaken cs).Sublist cs := (List.takeWhile_prefix _).sublist
    exact ⟨(hsub.map _).nodup hcs, fun c hc => by simpa using List.mem_takeWhile_imp hc⟩
  cases e with
  | command c => exact huntaken [c] (List.nodup_singleton _)
  | exit name => simp [added]
  | builtins => exact huntaken builtins nodup_builtins

theorem Distinct.enrol (h : r.Distinct) (e : Enrolment) : (r.enrol e).2.Distinct where
  names := by
    obtain ⟨hadded, hnew⟩ := names_added r e
    rw [Registry.names, commands_enrol, List.map_append]
    refine h.names.append hadded (List.disjoint_right.2 ?_)
    intro name hname
    obtain ⟨c, hc, rfl⟩ := List.mem_map.1 hname
    exact hnew c hc
  exits := by
    rw [exits_enrol]
    refine h.exits.append ?_ (List.disjoint_right.2 ?_) <;> cases e <;> grind [addedExits]

theorem distinct_enrolAll (es : List Enrolment) : (({} : Registry).enrolAll es).Distinct := by
  induction es using List.reverseRecOn with
  | nil => exact ⟨List.nodup_nil, List.nodup_nil⟩
  | append_singleton es e ih =>
    rw [enrolAll_concat]
    exact ih.enrol e

/-- **What a registry holds was registered by an enrolment.** -/
theorem mem_commands_iff : c ∈ (({} : Registry).enrolAll es).commands ↔
    ∃ before e after, es = before ++ e :: after ∧ c ∈ (({} : Registry).enrolAll before).added e := by
  induction es using List.reverseRecOn with
  | nil => simp [enrolAll]
  | append_singleton es e ih =>
    rw [enrolAll_concat, commands_enrol, List.mem_append, ih]
    constructor
    · rintro (⟨before, e', after, rfl, hc⟩ | hc)
      · exact ⟨before, e', after ++ [e], by simp, hc⟩
      · exact ⟨es, e, [], rfl, hc⟩
    · rintro ⟨before, e', after, heq, hc⟩
      rcases List.eq_nil_or_concat after with rfl | ⟨after', last, rfl⟩
      · obtain ⟨rfl, heq'⟩ := List.append_inj' heq rfl
        cases heq'
        exact .inr hc
      · have hinj : es = before ++ e' :: after' ∧ [e] = [last] :=
          List.append_inj' (by simpa using heq) rfl
        exact .inl ⟨before, e', after', hinj.1, hc⟩

theorem Distinct.lookup_eq_some_iff (h : r.Distinct) : r.lookup name = some c ↔ c ∈ r.commands ∧ c.name = name := by
  have hfound : ∀ {c'}, r.lookup name = some c' → c' ∈ r.commands ∧ c'.name = name := fun hl =>
    ⟨List.mem_of_find?_eq_some hl, by simpa using List.find?_some hl⟩
  refine ⟨hfound, ?_⟩
  rintro ⟨hc, hname⟩
  have htaken : name ∈ r.names := hname ▸ List.mem_map_of_mem hc
  cases hl : r.lookup name with
  | none => exact absurd htaken (lookup_eq_none_iff.1 hl)
  | some c' =>
    obtain ⟨hc', hname'⟩ := hfound hl
    rw [List.inj_on_of_nodup_map h.names hc' hc (hname'.trans hname.symm)]

/-- **A name means the command that was registered under it first.** -/
theorem lookup_enrolAll_eq_some_iff : (({} : Registry).enrolAll es).lookup name = some c ↔
    ∃ before e after, es = before ++ e :: after ∧ name ∉ (({} : Registry).enrolAll before).names ∧
      c ∈ (({} : Registry).enrolAll before).added e ∧ c.name = name := by
  rw [(distinct_enrolAll es).lookup_eq_some_iff, mem_commands_iff]
  constructor
  · rintro ⟨⟨before, e, after, hes, hc⟩, rfl⟩
    exact ⟨before, e, after, hes, (names_added _ e).2 c hc, hc, rfl⟩
  · rintro ⟨before, e, after, hes, -, hc, hname⟩
    exact ⟨⟨before, e, after, hes, hc⟩, hname⟩

end Registry

/-! ## Enrolments and runs -/

namespace Session

variable {s t : Session} {es : List Enrolment}

/-- A move leaves the registry as it is: the stages that are at work are copies of what is registered. -/
theorem Step.registry_eq {m : Move} (h : Step s t m) : t.registry = s.registry := by
  cases h with
  | leave _ _ _ ht | abandon _ _ ht | join _ _ _ ht => rw [ht]; rfl
  | _ => exact Kept.registry ‹_›

theorem registry_start (s : Session) (clauses : List Clause) : (s.start clauses).registry = s.registry := by
  unfold start
  by_cases h : clauses.isEmpty <;> simp [h]

def enrolment? : Deed → Option Enrolment
  | .enrol e => some e
  | .move _ | .start _ | .wait | .change => none

/-- What was registered in the course of a history. -/
def enrolments (past : History) : List Enrolment := past.filterMap (fun p => enrolment? p.2)

theorem enrolments_append (past later : History) : enrolments (past ++ later) = enrolments past ++ enrolments later :=
  List.filterMap_append

theorem enrolments_historyOf (s : Session) (moves : List Move) : enrolments (s.historyOf moves) = [] := by
  induction moves generalizing s with
  | nil => rfl
  | cons m moves ih =>
    show enrolments ((s.step? m).elim [] (fun t => t.historyOf moves)) = []
    cases s.step? m with
    | none => rfl
    | some t => exact ih t

/-- **What becomes of a session in which things are registered**, and nothing else is done to its registry. -/
def Enrols (s : Session) (es : List Enrolment) (t : Session) : Prop :=
  ∃ past, s.Lives (fun u v => v.registry = u.registry) past t ∧ enrolments past = es

theorem Enrols.registry_eq (h : s.Enrols es t) : t.registry = s.registry.enrolAll es := by
  obtain ⟨past, hlives, rfl⟩ := h
  induction hlives with
  | here => rfl
  | @next past t _ d _ hd ih =>
    have same : s.registry.enrolAll (enrolments past) = s.registry.enrolAll (enrolments past ++ []) := by
      rw [List.append_nil]
    rw [enrolments_append]
    cases hd with
    | enrolled e =>
      show _ = s.registry.enrolAll (enrolments past ++ [e])
      rw [Registry.enrolAll_concat, ← ih]
    | moved hm => exact (step_of_step? hm).registry_eq.trans (ih.trans same)
    | started clauses => exact (registry_start t clauses).trans (ih.trans same)
    | waited _ hw =>
      obtain ⟨-, rfl⟩ := waitBackground?_eq_some hw
      exact ih.trans same
    | changed _ _ _ _ _ _ hsame => exact hsame.trans (ih.trans same)

theorem Enrols.enrolled (h : s.Enrols es t) (e : Enrolment) (hidle : t.current = none) :
    s.Enrols (es ++ [e]) { t with registry := (t.registry.enrol e).2 } := by
  obtain ⟨past, hlives, rfl⟩ := h
  exact ⟨_, hlives.next (.enrolled e hidle), enrolments_append _ _⟩

theorem Enrols.run {clauses : List Clause} {moves : List Move} {u : Session} (h : s.Enrols es t)
    (hidle : t.current = none) (hplay : (t.start clauses).play moves = some u) : s.Enrols es u := by
  obtain ⟨past, hlives, rfl⟩ := h
  refine ⟨_, (hlives.next (.started clauses hidle)).trans (lives_of_play hplay), ?_⟩
  rw [enrolments_append, enrolments_historyOf, enrolments_append, List.append_nil]
  exact List.append_nil _

end Session

/-- **What a registry is** in which things were registered one after the other. -/
structure Registry.Enrolled (es : List Enrolment) (r : Registry) : Prop where
  /-- Command names are distinct, and so are exit keywords. -/
  distinct : r.Distinct
  /-- A command is registered behind the others unless its name is taken, and then nothing changes. -/
  command : ∀ c : Command, r.enrol (.command c) =
    if c.name ∈ r.names then (some (.alreadyRegistered c.name), r)
    else (none, { r with commands := r.commands ++ [c] })
  /-- An exit keyword is registered behind the others unless it is there, and then nothing changes. -/
  exit : ∀ name : String, r.enrol (.exit name) =
    if name ∈ r.exits then (some (.alreadyRegistered name), r) else (none, { r with exits := r.exits ++ [name] })
  /-- All builtins are registered behind the others if none of their names is taken. -/
  installed : (∀ c ∈ builtins, c.name ∉ r.names) →
    r.enrol .builtins = (none, { r with commands := r.commands ++ builtins })
  /-- Else those in front of the first whose name is taken, which is the one that is reported. -/
  halted : ∀ before c after, builtins = before ++ c :: after → (∀ c' ∈ before, c'.name ∉ r.names) → c.name ∈ r.names →
    r.enrol .builtins = (some (.alreadyRegistered c.name), { r with commands := r.commands ++ before })
  /-- A name means the command that was registered under it first. -/
  means : ∀ name c, r.lookup name = some c ↔
    ∃ before e after, es = before ++ e :: after ∧ name ∉ (({} : Registry).enrolAll before).names ∧
      c ∈ (({} : Registry).enrolAll before).added e ∧ c.name = name

namespace Registry

variable {r : Registry} {es : List Enrolment}

theorem enrol_builtins_of_free (h : ∀ c ∈ builtins, c.name ∉ r.names) :
    r.enrol .builtins = (none, { r with commands := r.commands ++ builtins }) := by
  have hfind : builtins.find? (fun c => c.name ∈ r.names) = none := by simpa using h
  have huntaken : r.untaken builtins = builtins := List.takeWhile_eq_self_iff.2 (by simpa using h)
  rw [enrol, install_eq, hfind, huntaken, Option.map_none]

theorem enrol_builtins_of_taken {before after : List Command} {c : Command} (hall : builtins = before ++ c :: after)
    (hbefore : ∀ c' ∈ before, c'.name ∉ r.names) (hc : c.name ∈ r.names) :
    r.enrol .builtins = (some (.alreadyRegistered c.name), { r with commands := r.commands ++ before }) := by
  have hfind : builtins.find? (fun c => c.name ∈ r.names) = some c := by
    rw [hall, List.find?_append, List.find?_eq_none.2 (by simpa using hbefore),
      List.find?_cons_of_pos (by simpa using hc), Option.none_or]
  have huntaken : r.untaken builtins = before := by
    rw [untaken, hall, List.takeWhile_append_of_pos (by simpa using hbefore),
      List.takeWhile_cons_of_neg (by simpa using hc), List.append_nil]
  rw [enrol, install_eq, hfind, huntaken, Option.map_some]

theorem enrolled_enrolAll (es : List Enrolment) : (({} : Registry).enrolAll es).Enrolled es where
  distinct := distinct_enrolAll es
  command := enrol_command _
  exit := enrol_exit _
  installed := enrol_builtins_of_free
  halted _ _ _ := enrol_builtins_of_taken
  means _ _ := lookup_enrolAll_eq_some_iff

end Registry

/-- **However registering and running alternate**, each name stays that of one command, namely of the one that was
registered under it first: what is registered comes behind what was there, and nothing that runs changes what is
registered. -/
theorem Session.enrolled_of_enrols {s t : Session} {es : List Enrolment} (hs : s.registry = {}) (h : s.Enrols es t) :
    t.registry.Enrolled es ∧ ∀ es' u, t.Enrols es' u →
      t.registry.Grows u.registry ∧ (es' = [] → u.registry = t.registry) := by
  have ht : t.registry = ({} : Registry).enrolAll es := by rw [h.registry_eq, hs]
  refine ⟨ht ▸ Registry.enrolled_enrolAll es, fun es' u hu => ?_⟩
  rw [hu.registry_eq]
  refine ⟨Registry.grows_enrolAll _ es', ?_⟩
  rintro rfl
  rfl

def Session.bare : Session where
  path := "/"
  files := .blank

/-- A command that is registered twice and run in between, an exit keyword of its name, and a command that takes the
name of a builtin: of the builtins, those in front of it are registered. -/
theorem Session.enrolled_bare :
    let go : Command := ⟨"go", "/", fun _ => .done .brokeDown⟩
    let goAgain : Command := ⟨"go", "/tmp", fun _ => .done .done⟩
    let cd : Command := ⟨"cd", "/", fun _ => .done .done⟩
    let es : List Enrolment := [.command go, .exit "go", .command goAgain, .command cd, .builtins]
    ∃ t, bare.registry = {} ∧ bare.Enrols es t ∧ t.runs = 1 ∧ t.registry.names = ["go", "cd", "pwd"] ∧
      t.registry.Enrolled es ∧ ∀ es' u, t.Enrols es' u →
        t.registry.Grows u.registry ∧ (es' = [] → u.registry = t.registry) := by
  intro go goAgain cd es
  let filed : Session := { bare with registry := ⟨[], [go]⟩ }
  have hbare : bare.Enrols [] bare := ⟨[], .here, rfl⟩
  have hfiled : bare.Enrols [.command go] filed := hbare.enrolled (.command go) rfl
  -- A stage breaks down in the background.
  obtain ⟨ran, hran, hcurrent, hruns⟩ : ∃ ran, (filed.start [{ name := "go", background := true }]).play
      [.drive, .drive, .advance 0 0] = some ran ∧ ran.current = none ∧ ran.runs = 1 := ⟨_, rfl, rfl, rfl⟩
  have hplayed : bare.Enrols [.command go] ran := hfiled.run rfl hran
  have hes : bare.Enrols es _ :=
    (((hplayed.enrolled (.exit "go") hcurrent).enrolled (.command goAgain) hcurrent).enrolled (.command cd)
      hcurrent).enrolled .builtins hcurrent
  refine ⟨_, rfl, hes, hruns, ?_, enrolled_of_enrols rfl hes⟩
  rw [hes.registry_eq]
  decide

end LineShell
