import LineShell.Proofs.Session.Moves
import Mathlib.Data.List.Induction
/-!
# Plays — rows of moves

A session is played by making moves one after the other, in any order.  `play_induction` proves what holds along every
row of moves from what one move keeps.
-/
namespace LineShell
namespace Session

def play (s : Session) : List Move → Option Session
  | [] => some s
  | m :: moves =>
    match s.step? m with
    | some t => t.play moves
    | none => none

theorem play_append (s : Session) (before after : List Move) :
    s.play (before ++ after) = (s.play before).bind (fun u => u.play after) := by
  induction before generalizing s with
  | nil => rfl
  | cons m before ih =>
    simp only [List.cons_append, play]
    cases s.step? m with
    | none => rfl
    | some t => exact ih t

theorem play_snoc {s u t : Session} {before : List Move} {m : Move} (hu : s.play before = some u)
    (ht : u.step? m = some t) : s.play (before ++ [m]) = some t := by
  rw [play_append, hu, Option.bind_some, play, ht]
  rfl

/-- **What every move keeps holds after every row of moves.** -/
theorem play_induction {s : Session} {P : List Move → Session → Prop} (start : P [] s)
    (step : ∀ before u m t, s.play before = some u → P before u → u.step? m = some t → P (before ++ [m]) t)
    {moves : List Move} {t : Session} (h : s.play moves = some t) : P moves t := by
  induction moves using List.reverseRecOn generalizing t with
  | nil => cases h; exact start
  | append_singleton before m ih =>
    rw [play_append] at h
    obtain ⟨u, hu, hm⟩ := Option.bind_eq_some_iff.1 h
    simp only [play] at hm
    split at hm
    · next v hv =>
      cases hm
      exact step before u m t hu (ih hu) hv
    · cases hm

theorem play_keeps {P : Session → Prop} (step : ∀ u m t, P u → u.step? m = some t → P t) {s t : Session}
    {moves : List Move} (hs : P s) (h : s.play moves = some t) : P t :=
  play_induction (P := fun _ u => P u) hs (fun _ u m v _ hu hv => step u m v hu hv) h

/-! ## What happens on the way -/

/-- Some session on the way, the first and the last included, is so. -/
def Passes (s : Session) (moves : List Move) (P : Session → Prop) : Prop :=
  ∃ before after u, moves = before ++ after ∧ s.play before = some u ∧ P u

theorem Passes.append {s : Session} {moves : List Move} {P : Session → Prop} (h : s.Passes moves P)
    (more : List Move) : s.Passes (moves ++ more) P := by
  obtain ⟨before, after, u, hm, hu, hp⟩ := h
  exact ⟨before, after ++ more, u, by rw [hm, List.append_assoc], hu, hp⟩

theorem Passes.last {s t : Session} {moves : List Move} {P : Session → Prop} (h : s.play moves = some t) (ht : P t) :
    s.Passes moves P := ⟨moves, [], t, by rw [List.append_nil], h, ht⟩

/-- Whether a move delivers an interrupt to the run under way, from outside or as a command's own doing. -/
def delivers (s : Session) : Move → Bool
  | .interrupt => s.isArmed
  | .advance id _ => s.isArmed && (s.faces id).any (fun f => f.phase.appeals)
  | _ => false

def Delivers (s : Session) (moves : List Move) : Prop :=
  ∃ before m after u, moves = before ++ m :: after ∧ s.play before = some u ∧ u.delivers m = true

theorem Delivers.append {s : Session} {moves : List Move} (h : s.Delivers moves) (more : List Move) :
    s.Delivers (moves ++ more) := by
  obtain ⟨before, m, after, u, hm, hu, hd⟩ := h
  exact ⟨before, m, after ++ more, u, by rw [hm, List.append_assoc, List.cons_append], hu, hd⟩

theorem Delivers.last {s u : Session} {before : List Move} {m : Move} (hu : s.play before = some u)
    (hd : u.delivers m = true) : s.Delivers (before ++ [m]) := ⟨before, m, [], u, rfl, hu, hd⟩

/-- A session with one command, which has nothing to do, and one exit keyword. -/
def small : Session where
  path := "/"
  registry := ⟨["exit"], [⟨"go", "/", fun _ => .done .done⟩]⟩
  files := .blank

end Session
end LineShell
