import LineShell.Proofs.Pattern.Parts
/-!
# Bodies — a pattern read as a group and outermost

A text is read as a pattern of its own and as a group, alone and with a closing parenthesis behind it.  What comes of
one reading settles the others (`Outcome`, `outcome_readBody`): either the text closes the group itself; or it is a
pattern, and the group closes right behind it unless its last comment has taken the parenthesis; or it is none.
-/
namespace LineShell
namespace Pattern

/-- **What comes of reading a text** as a group, as a group with the parenthesis behind it, as a pattern, and as a
pattern with the parenthesis behind it. -/
inductive Outcome : (group closed whole past : Option (Ast × Cursor)) → Prop
  /-- The text closes the group itself. -/
  | early (ast : Ast) {k k' : Cursor} {past : Option (Ast × Cursor)} (h : k.Follows k') :
    Outcome (some (ast, k)) (some (ast, k')) none past
  /-- The parenthesis behind the text closes the group. -/
  | behind (ast : Ast) {k k' : Cursor} (h : k'.rest = ['\\', 'b']) :
    Outcome none (some (ast, k')) (some (ast, k)) none
  /-- A comment has taken the parenthesis. -/
  | swallowed (ast : Ast) {k k' : Cursor} : Outcome none none (some (ast, k)) (some (ast, k'))
  /-- The text is no pattern. -/
  | refused {past : Option (Ast × Cursor)} : Outcome none none none past

variable {n m : Nat} {k k' : Cursor} {branches parts : List Ast}

/-- **Every reading of a text** follows from what the text is. -/
theorem outcome_readBody (h : k.Follows k') (hn : k.rest.length < n) (hm : k'.rest.length < m) :
    Outcome (readBody n true k branches parts) (readBody m true k' branches parts) (readBody n false k branches parts)
      (readBody m false k' branches parts) := by
  -- On the fuel: the four readings take the same steps up to the one that ends the text or closes the group.
  induction n generalizing k k' m branches parts with
  | zero => cases hn
  | succ n ih =>
    obtain ⟨m, rfl⟩ : ∃ m', m = m' + 1 := Nat.exists_eq_add_of_le' (Nat.one_le_of_lt hm)
    have hlength := k.settle_suffix.length_le
    have hlength' := k'.settle_suffix.length_le
    have hfits := fits_readPart h.settle
    rw [readBody_succ, readBody_succ, readBody_succ, readBody_succ]
    generalize hpart : readPart k.settle = a, hpart' : readPart k'.settle = a' at hfits
    cases hfits with
    | lost hlost =>
      rw [hlost]
      exact .refused
    | ends k₁ hrest => exact .behind _ hrest
    | @reads part k₁ k₁' hk =>
      by_cases hends : part = .ends
      · subst hends
        exact .swallowed _
      have hlt := length_readPart_lt hpart hends
      have hlt' := length_readPart_lt hpart' hends
      cases part with
      | ends => exact absurd rfl hends
      | closes => exact .early _ hk
      | bar => exact ih hk (by omega) (by omega)
      | piece a => exact ih hk (by omega) (by omega)
      | repeats least most =>
        cases parts with
        | nil => exact .refused
        | cons part parts =>
          dsimp only [Option.bind_some, afterPart]
          split
          · exact ih hk (by omega) (by omega)
          · exact .refused
      | opens kind verbose =>
        have hinner : Outcome (readBody n true k₁ [] []) (readBody m true k₁' [] []) (readBody n false k₁ [] [])
            (readBody m false k₁' [] []) := ih hk (by omega) (by omega)
        dsimp only [Option.bind_some, afterPart]
        generalize hbody : readBody n true _ [] [] = group, hbody' : readBody m true _ [] [] = closed,
          readBody n false _ [] [] = whole, readBody m false _ [] [] = past at hinner
        cases hinner with
        | early body hafter =>
          have hle := (readBody_suffix hbody).length_le
          have hle' := (readBody_suffix hbody').length_le
          exact ih (hafter.withVerbose verbose) (by dsimp only; omega) (by dsimp only; omega)
        | behind body hrest =>
          -- Nothing is left to close the group around this one with.
          rw [Option.bind_some, readBody_of_not_mem (by rw [hrest]; decide)]
          exact .refused
        | swallowed body => exact .refused
        | refused => exact .refused

/-! ## Between word boundaries -/

def wrapped (text : List Char) : List Char := '\\' :: 'b' :: '(' :: (text ++ closing)

/-- A pattern as a group between word boundaries. -/
def Ast.wrapped (ast : Ast) : Ast := .concat [.anchor .wordBoundary, .group .capturing ast, .anchor .wordBoundary]

/-- The pattern that a text spells, however deep it nests. -/
def readWhole (text : List Char) : Option Ast := (readBody (text.length + 1) false ⟨text, false, []⟩ [] []).map Prod.fst

theorem readAst_eq (text : List Char) : readAst text = (readWhole text).filter (·.depth ≤ maxDepth) := by
  unfold readAst readWhole
  cases readBody (text.length + 1) false ⟨text, false, []⟩ [] [] with
  | none => rfl
  | some read => 
    rw [Option.map_some, Option.filter_some]
    simp only [decide_eq_true_eq]

/-- A text that, read as a group, closes it before the text ends. -/
def ClosesGroup (text : List Char) : Prop := ∃ fuel read, readBody fuel true ⟨text, false, []⟩ [] [] = some read

theorem readWhole_wrapped {text : List Char} (h : text.head? ≠ some '?') : readWhole (wrapped text) =
    ((readBody (text.length + 5) true ⟨text ++ closing, false, []⟩ [] []).bind fun (ast, after) =>
      readBody (text.length + 5) false { after with verbose := false } []
        [.group .capturing ast, .anchor .wordBoundary]).map Prod.fst := by
  have hhead : (text ++ closing).head? ≠ some '?' := by
    cases text with
    | nil => decide
    | cons c cs => exact h
  have hlength : (wrapped text).length + 1 = text.length + 5 + 1 + 1 := by simp [wrapped, closing]
  have hopening : readOpening ⟨'(' :: (text ++ closing), false, []⟩ =
      some (.group .capturing, ⟨text ++ closing, false, []⟩) := readOpening_of_ne hhead
  have hgroup : readPart ⟨'(' :: (text ++ closing), false, []⟩ =
      some (.opens .capturing false, ⟨text ++ closing, false, []⟩) := by
    show (readOpening ⟨'(' :: (text ++ closing), false, []⟩).map (openedBy false) = _
    rw [hopening]
    rfl
  have hanchor : readPart ⟨wrapped text, false, []⟩ =
      some (.piece (.anchor .wordBoundary), ⟨'(' :: (text ++ closing), false, []⟩) := rfl
  rw [readWhole, hlength, readBody_succ]
  show ((readPart ⟨wrapped text, false, []⟩).bind _).map Prod.fst = _
  rw [hanchor, Option.bind_some]
  show (readBody (text.length + 5 + 1) false ⟨'(' :: (text ++ closing), false, []⟩ [] [.anchor .wordBoundary]).map
    Prod.fst = _
  rw [readBody_succ]
  show ((readPart ⟨'(' :: (text ++ closing), false, []⟩).bind _).map Prod.fst = _
  rw [hgroup]
  rfl

theorem readBody_of_boundary (names : List (List Char)) (part : Ast) :
    (readBody (n + 2) false ⟨['\\', 'b'], false, names⟩ [] [part, .anchor .wordBoundary]).map Prod.fst =
      some (.concat [.anchor .wordBoundary, part, .anchor .wordBoundary]) := by
  rw [readBody_succ]
  show (readBody (n + 1) false ⟨[], false, names⟩ [] [.anchor .wordBoundary, part, .anchor .wordBoundary]).map Prod.fst = _
  rw [readBody_succ]
  rfl

theorem readWhole_of_question {text : List Char} (h : text.head? = some '?') : readWhole text = none := by
  obtain ⟨cs, rfl⟩ := List.head?_eq_some_iff.1 h
  rw [readWhole, readBody_succ]
  rfl

/-- **What comes of reading a text** alone, with the parenthesis and the boundary behind it, and between both. -/
inductive Wraps (text : List Char) : (alone past between : Option Ast) → Prop
  /-- What stands before a question mark is repeated, or the mark opens the group. -/
  | question (h : text.head? = some '?') {past between : Option Ast} : Wraps text none past between
  | early (h : ClosesGroup text) {past between : Option Ast} : Wraps text none past between
  | refused {past : Option Ast} : Wraps text none past none
  | behind (ast : Ast) : Wraps text (some ast) none (some ast.wrapped)
  | swallowed (ast : Ast) : Wraps text (some ast) (some ast) none

/-- **A pattern between word boundaries** is the group of what it is alone, unless it closes the group itself or its
last comment takes the parenthesis. -/
theorem wraps (text : List Char) : Wraps text (readWhole text) (readWhole (text ++ closing)) (readWhole (wrapped text)) := by
  by_cases hquestion : text.head? = some '?'
  · rw [readWhole_of_question hquestion]
    exact .question hquestion
  have hlength : (text ++ closing).length = text.length + 3 := List.length_append
  have halone : readWhole text = (readBody (text.length + 5) false ⟨text, false, []⟩ [] []).map Prod.fst :=
    congrArg _ (readBody_eq_of_lt (Nat.lt_succ_self _) (Nat.lt_add_of_pos_right (by decide)))
  have hpast : readWhole (text ++ closing) =
      (readBody (text.length + 5) false ⟨text ++ closing, false, []⟩ [] []).map Prod.fst :=
    congrArg _ (readBody_eq_of_lt (Nat.lt_succ_self _) (by dsimp only; omega))
  have houtcome : Outcome (readBody (text.length + 5) true ⟨text, false, []⟩ [] [])
      (readBody (text.length + 5) true ⟨text ++ closing, false, []⟩ [] [])
      (readBody (text.length + 5) false ⟨text, false, []⟩ [] [])
      (readBody (text.length + 5) false ⟨text ++ closing, false, []⟩ [] []) :=
    outcome_readBody (.closed ⟨text, false, []⟩) (by dsimp only; omega) (by dsimp only; omega)
  rw [halone, hpast, readWhole_wrapped hquestion]
  generalize hgroup : readBody _ true ⟨text, false, []⟩ [] [] = group,
    readBody _ true ⟨text ++ closing, false, []⟩ [] [] = closed, readBody _ false ⟨text, false, []⟩ [] [] = whole,
    readBody _ false ⟨text ++ closing, false, []⟩ [] [] = past at houtcome
  cases houtcome with
  | early ast h => exact .early ⟨_, _, hgroup⟩
  | behind ast h =>
    rw [Option.bind_some]
    dsimp only
    rw [h, readBody_of_boundary]
    exact .behind ast
  | swallowed ast => exact .swallowed ast
  | refused => exact .refused

end Pattern
end LineShell
