import LineShell.Proofs.CommandLine.OnePass
import LineShell.Proofs.CommandLine.Roles
/-!
# Quotes — a text in quotes comes out as it is

A text between quotes may stand for the name of a clause, for an argument or for the file of a redirect, glued to its sign
or behind it (`Stands`).  Whatever else is on the line, the clause has just this text there, blanks, bars, dashes and signs
included; only the empty text keeps its two quotes (`text?_of_quote`).
-/
namespace LineShell

/-- What a text stands for in a clause. -/
inductive Position where
  | name
  /-- The argument with some number of arguments in front of it. -/
  | argument (n : Nat)
  | file (r : Redirect)
  deriving DecidableEq, Repr

def Position.text? (c : Clause) : Position → Option String
  | name => some c.name
  | argument n => c.arguments[n]?
  | file r => some (r.target c)

/-- **What a text in quotes stands for** behind some words of a clause and the characters glued to its front. -/
inductive Stands : (words : List (List Char)) → (glue : List Char) → Position → Prop
  | name : Stands [] [] .name
  | argument {name : List Char} {words : List (List Char)} {roles : List Role} (h : Casts [] words roles)
      (hfree : ∀ r, ¬ Awaits roles r) :
      Stands (name :: words) [] (.argument ((said roles).filterMap Word.argument?).length)
  | glued {name : List Char} {words : List (List Char)} {roles : List Role} {r : Redirect} (h : Casts [] words roles)
      (hfree : ∀ r, ¬ Awaits roles r) (hr : Unset roles r) : Stands (name :: words) [r.symbol] (.file r)
  | spaced {name : List Char} {words : List (List Char)} {roles : List Role} {r : Redirect} (h : Casts [] words roles)
      (hr : Awaits roles r) : Stands (name :: words) [] (.file r)

def scanUpTo (front : List Char) : LineScan := front.foldl LineScan.feed {}

/-- Whether a text in quotes stands for something behind the front of a line. -/
structure StandsBehind (front : List Char) (p : Position) : Prop where
  quoted_eq : (scanUpTo front).quoted = false
  stands : Stands (scanUpTo front).words.reverse (scanUpTo front).current.reverse p

/-- Whether a word in front ends where a text begins: at the end of the line, a blank or a bar. -/
def Parts (text : List Char) : Prop := ∀ c rest, text = c :: rest → isBlank c = true ∨ c = '|'

variable {words : List (List Char)} {glue front back : List Char} {p : Position} {text : String} {c : Clause}

/-! ## A word in the line -/

theorem Parts.trimEnd (h : Parts back) : Parts (trimEnd back) := by
  intro c rest hback
  obtain ⟨gap, heq, -⟩ := trimEnd_eq back
  exact h c (rest ++ gap) (by rw [heq, hback, List.cons_append])

theorem piecesFrom_of_parts (h : Parts back) : ∃ piece pieces more,
    piecesFrom (· == '|') false back = piece :: pieces ∧ piecesFrom isBlank false piece = [] :: more := by
  cases back with
  | nil => exact ⟨[], [], [], rfl, rfl⟩
  | cons c back =>
    have hpass : ∀ isSeparator, passes isSeparator false [] = some false := fun _ => rfl
    rcases h c back rfl with hblank | rfl
    · have hq : c ≠ '"' := ne_quote_of_isBlank hblank
      have hbar : (c == '|') = false := by
        rw [beq_eq_false_iff_ne]
        rintro rfl
        cases hblank
      obtain ⟨piece, pieces, hpieces⟩ := List.exists_cons_of_ne_nil (piecesFrom_ne_nil (· == '|') false back)
      refine ⟨c :: piece, pieces, piecesFrom isBlank false piece, ?_, piecesFrom_separator piece (hpass _) hq hblank⟩
      rw [piecesFrom, quotedAfter_of_ne false hq, if_neg (by simp [hbar]), hpieces]
      rfl
    · exact ⟨[], _, [], piecesFrom_separator back (hpass _) (by decide) rfl, rfl⟩

namespace LineScan

theorem foldl_feed_quoted : ∀ (text : List Char) (s : LineScan), s.quoted = true → '"' ∉ text →
    text.foldl feed s = { s with current := text.reverse ++ s.current }
  | [], _, _, _ => rfl
  | c :: text, s, hq, h => by
    have hc : c ≠ '"' := (List.ne_of_not_mem_cons h).symm
    have hfeed : s.feed c = { s with current := c :: s.current } := by
      rw [feed, if_neg hc, if_pos hq]
    have hrest := foldl_feed_quoted text { s with current := c :: s.current } hq (List.not_mem_of_not_mem_cons h)
    rw [List.foldl_cons, hfeed, hrest, List.reverse_cons, List.append_assoc, List.singleton_append]

/-- **A text in quotes goes into the word under way**, whatever its characters are. -/
theorem foldl_feed_quote (s : LineScan) (hq : s.quoted = false) (h : '"' ∉ text.toList) :
    (quote text).foldl feed s = { s with current := (quote text).reverse ++ s.current } := by
  have hopen : s.feed '"' = { s with quoted := true, current := '"' :: s.current } := by
    simp [feed, hq]
  have hinner := foldl_feed_quoted text.toList { s with quoted := true, current := '"' :: s.current } rfl h
  have hclose : ∀ current, feed { s with quoted := true, current } '"' = { s with current := '"' :: current } := by
    simp [feed, hq]
  rw [quote, List.cons_append, List.foldl_cons, hopen, List.foldl_append, hinner, List.foldl_cons, hclose]
  simp

/-- **A word that ends is a word of its clause**, behind those that were there. -/
theorem finish_of_parts (s : LineScan) (hq : s.quoted = false) (hne : s.current ≠ []) (h : Parts back) :
    ∃ more, (back.foldl feed s).finish[s.clauses.length]? = some (s.words.reverse ++ s.current.reverse :: more) := by
  obtain ⟨piece, pieces, more, hpieces, hpiece⟩ := piecesFrom_of_parts h
  refine ⟨more.filter (fun word => !word.isEmpty), ?_⟩
  rw [finish_foldl_feed, hq, hpieces, ahead, hq, hpiece, ← List.length_reverse, List.getElem?_append_right (Nat.le_refl _),
    Nat.sub_self, List.modifyHead_cons, List.append_nil, List.filter_cons_of_pos (by simpa using hne)]
  rfl

end LineScan

theorem exists_scanLine (hq : (scanUpTo front).quoted = false) (h : '"' ∉ text.toList) (hback : Parts back) :
    ∃ more, (scanLine (front ++ quote text ++ back))[(scanUpTo front).clauses.length]? =
      some ((scanUpTo front).words.reverse ++ ((scanUpTo front).current.reverse ++ quote text) :: more) := by
  have hend : trimEnd (front ++ quote text ++ back) = front ++ quote text ++ trimEnd back := by
    have hlast := trimEnd_append_cons (front ++ '"' :: text.toList) back (rfl : isBlank '"' = false)
    simpa [quote] using hlast
  rw [scanLine, hend, List.foldl_append, List.foldl_append]
  unfold scanUpTo at hq ⊢
  generalize front.foldl LineScan.feed {} = s at hq ⊢
  rw [LineScan.foldl_feed_quote s hq h]
  have hne : (quote text).reverse ++ s.current ≠ [] := by simp [quote]
  obtain ⟨more, hrow⟩ :=
    LineScan.finish_of_parts { s with current := (quote text).reverse ++ s.current } hq hne hback.trimEnd
  rw [List.reverse_append, List.reverse_reverse] at hrow
  exact ⟨more, hrow⟩

theorem clause_of_scanLine {line : String} {clauses : List Clause} (hread : readLine line = .ok clauses) {k : Nat}
    (hk : (scanLine line.toList)[k]? = some words) :
    ∃ name row, words = name :: row ∧ (∀ word ∈ row, word ≠ []) ∧
      clauses[k]? = some (Clause.readWords { name := String.ofList (unquote name) } row) := by
  have hclauses := forall₂_of_mapM hread
  rw [← map_segmentWords_lineSegments, List.getElem?_map, Option.map_eq_some_iff] at hk
  obtain ⟨segment, hsegment, rfl⟩ := hk
  obtain ⟨hlt, rfl⟩ := List.getElem?_eq_some_iff.1 hsegment
  have hlt' : k < clauses.length := hclauses.length_eq ▸ hlt
  obtain ⟨name, row, hwords, hclause⟩ := words_of_readClause (hclauses.get hlt hlt')
  exact ⟨name, row, hwords, fun word hword => ne_nil_of_segmentWords word (hwords ▸ List.mem_cons_of_mem name hword),
    List.getElem?_eq_some_iff.2 ⟨hlt', hclause⟩⟩

/-! ## A word in its clause -/

theorem Casts.append {before roles roles' : List Role} {words words' : List (List Char)} (h : Casts before words roles)
    (h' : Casts (before ++ roles) words' roles') : Casts before (words ++ words') (roles ++ roles') := by
  induction h with
  | nil before => rwa [List.append_nil] at h'
  | cons hplays _ ih =>
    refine .cons hplays (ih ?_)
    rwa [List.append_assoc, List.singleton_append]

theorem unquote_quote_eq (text : String) :
    String.ofList (unquote (quote text)) = if text = "" then "\"\"" else text := by
  split
  · next hempty =>
    subst hempty
    rfl
  · next hne => rw [unquote_quote hne, String.ofList_toList]

theorem plays_quote {before : List Role} (hfree : ∀ r, ¬ Awaits before r) (text : String) :
    Plays before (quote text) (.means (.argument (String.ofList (unquote (quote text))))) := by
  refine .argument hfree (by simp [quote]) (by simp [quote]) (fun r file hword => ?_)
  have hsymbol : '"' = r.symbol := (List.cons.inj hword).1
  cases r <;> cases hsymbol

namespace Clause.Accounts

variable {roles before : List Role} {word : List Char} {more : List (List Char)} {role : Role}

theorem roles_eq (h : c.Accounts (words ++ word :: more) roles) (hbefore : Casts [] words before)
    (hplays : Plays before word role) : ∃ rest, roles = before ++ role :: rest := by
  obtain ⟨rest, hrest⟩ := exists_casts more (before ++ [role])
  exact ⟨rest, ((h.casts_iff _).1 (hbefore.append (.cons hplays hrest))).symm⟩

theorem argument_eq {argument : String} (h : c.Accounts (words ++ word :: more) roles) (hbefore : Casts [] words before)
    (hplays : Plays before word (.means (.argument argument))) :
    c.arguments[((said before).filterMap Word.argument?).length]? = some argument := by
  obtain ⟨rest, rfl⟩ := h.roles_eq hbefore hplays
  have hsaid : said (before ++ .means (.argument argument) :: rest) = said before ++ .argument argument :: said rest :=
    List.filterMap_append
  rw [← h.arguments_eq, hsaid, List.filterMap_append, List.getElem?_append_right (Nat.le_refl _), Nat.sub_self]
  rfl

theorem target_eq {r : Redirect} {file : String} (h : c.Accounts (words ++ word :: more) roles)
    (hbefore : Casts [] words before) (hplays : Plays before word (.means (r.word file))) : r.target c = file := by
  obtain ⟨rest, rfl⟩ := h.roles_eq hbefore hplays
  have hmem : file ∈ redirect (r.target c) := by
    rw [← h.redirect_eq r]
    exact List.mem_filterMap.2 ⟨_, mem_said.2 (by simp), r.file?_word file⟩
  unfold redirect at hmem
  split at hmem
  · cases hmem
  · exact (List.mem_singleton.1 hmem).symm

end Clause.Accounts

/-- **What a text in quotes says**, by its position among the words of its clause. -/
theorem Stands.text?_eq {row more : List (List Char)} {name : List Char} (h : Stands words glue p)
    (hrow : words ++ (glue ++ quote text) :: more = name :: row) (hne : ∀ word ∈ row, word ≠ []) :
    p.text? (Clause.readWords { name := String.ofList (unquote name) } row) =
      some (if text = "" then "\"\"" else text) := by
  obtain ⟨roles, hname, haccounts⟩ := Clause.exists_accounts (String.ofList (unquote name)) hne
  generalize Clause.readWords { name := String.ofList (unquote name) } row = c at hname haccounts
  rw [← unquote_quote_eq]
  cases h with
  | name =>
    obtain ⟨rfl, -⟩ := List.cons.inj hrow
    exact congrArg some hname
  | argument hbefore hfree =>
    obtain ⟨-, rfl⟩ := List.cons.inj hrow
    exact haccounts.argument_eq hbefore (plays_quote hfree text)
  | glued hbefore hfree hr =>
    obtain ⟨-, rfl⟩ := List.cons.inj hrow
    exact congrArg some (haccounts.target_eq hbefore (.glued hfree hr rfl))
  | spaced hbefore hr =>
    obtain ⟨-, rfl⟩ := List.cons.inj hrow
    exact congrArg some (haccounts.target_eq hbefore (.awaited hr))

/-! ## Lines -/

/-- **A text in quotes comes out without them**, in whatever line that is read, wherever the text stands for a name, an
argument or a file and whatever characters but a quote it has; the empty text alone keeps the two quotes. -/
theorem text?_of_quote {clauses : List Clause} (htext : '"' ∉ text.toList) (hfront : StandsBehind front p)
    (hback : Parts back) (hread : readLine (String.ofList (front ++ quote text ++ back)) = .ok clauses) :
    ∃ clause, clauses[(scanUpTo front).clauses.length]? = some clause ∧
      p.text? clause = some (if text = "" then "\"\"" else text) := by
  obtain ⟨more, hrow⟩ := exists_scanLine hfront.quoted_eq htext hback
  obtain ⟨name, row, hwords, hne, hclause⟩ := clause_of_scanLine hread (by rw [String.toList_ofList]; exact hrow)
  exact ⟨_, hclause, hfront.stands.text?_eq hwords hne⟩

/-- A file behind its sign, in the second clause of a line, with a bar, a blank and a dash in it. -/
theorem text?_of_quote_file :
    let clause : Clause := { name := "b", arguments := ["x"], input := "-| é", output := "o" }
    readLine "a|\"b\" x < \"-| é\" >o" = .ok [{ name := "a" }, clause] ∧ clause.input = "-| é" := by
  intro clause
  have hargument : Plays [] ['x'] (.means (.argument "x")) :=
    .argument nofun (by simp) (by simp) (fun r file hword => by cases r <;> cases hword)
  have hsign : Plays [.means (.argument "x")] ['<'] (.sign .input) :=
    .sign (not_awaits_means [] (.argument "x")) (by simp [Unset, Redirect.word]) rfl
  have hfront : StandsBehind "a|\"b\" x < ".toList (.file .input) :=
    ⟨by decide, .spaced (.cons hargument (.cons hsign (.nil _))) rfl⟩
  have hback : Parts " >o".toList := fun c rest h => .inl (by cases h; rfl)
  have hread : readLine (String.ofList ("a|\"b\" x < ".toList ++ quote "-| é" ++ " >o".toList)) =
      .ok [{ name := "a" }, clause] := by
    cbv
  obtain ⟨found, hfound, htext⟩ := text?_of_quote (by decide) hfront hback hread
  obtain rfl : clause = found := Option.some.inj hfound
  exact ⟨hread, Option.some.inj htext⟩

/-- The empty text in quotes is the argument of two quotes, and not the empty one. -/
theorem not_text?_of_quote : ¬ ∀ (front back : List Char) (p : Position) (text : String) (clauses : List Clause),
    '"' ∉ text.toList → StandsBehind front p → Parts back →
      readLine (String.ofList (front ++ quote text ++ back)) = .ok clauses →
        ∃ clause, clauses[(scanUpTo front).clauses.length]? = some clause ∧ p.text? clause = some text := by
  intro h
  have hfront : StandsBehind "echo ".toList (.argument 0) := ⟨by decide, .argument (.nil []) nofun⟩
  have hback : Parts [] := by rintro c rest ⟨⟩
  have hread : readLine (String.ofList ("echo ".toList ++ quote "" ++ [])) =
      .ok [{ name := "echo", arguments := ["\"\""] }] := by
    cbv
  obtain ⟨clause, hclause, htext⟩ := h _ _ _ _ _ (by decide) hfront hback hread
  obtain rfl := Option.some.inj hclause
  exact absurd (Option.some.inj htext) (by decide)

end LineShell
