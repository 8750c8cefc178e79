import LineShell.Proofs.CommandLine.Roles
import LineShell.Text.Excerpt
/-!
# Excerpts — a line read by bytes

The texts of a clause are parts of its words: an option and a glued file are their words without the first byte, a
text in quotes is its word without the first byte and the last.  `ByBytes.readLine` takes them as such excerpts, writes
down each one that it takes, and fails with the first that does not fit its word.  Sizes in bytes and the characters at
the ends of a word decide what is taken (`signed_iff`, `quoted_iff`), and that is enough for no line to fail, whatever
its characters are (`excerpts_of_readLine`).
-/
namespace LineShell

/-- A reading that takes excerpts: its result, unless one of them cannot be read, and all that were taken, in order. -/
abbrev Excerpting := ExceptT Excerpt.Misfit (StateM (List Excerpt))

namespace Excerpting

variable {α β : Type}

def take (e : Excerpt) : Excerpting String := do
  modify (· ++ [e])
  liftExcept e.read

def outcome (reading : Excerpting α) : Except Excerpt.Misfit α × List Excerpt := reading.run.run []

end Excerpting

def Clause.redirectOf? (c : Clause) (word : String) : Option Redirect :=
  if c.input = "" ∧ word.startsWith '<' then some .input
  else if c.output = "" ∧ word.startsWith '>' then some .output
  else none

namespace ByBytes

open Excerpting Excerpt

def unquote (word : String) : Excerpting String :=
  if 2 < word.utf8ByteSize ∧ word.startsWith '"' ∧ word.endsWith '"' then take (inside word) else pure word

def readWords (clause : Clause) : List String → Excerpting Clause
  | [] => pure clause
  | word :: words =>
    if word = "&" then readWords (clause.add .background) words
    else if 1 < word.utf8ByteSize ∧ word.startsWith '-' then do
      let option ← take (behindFirst word)
      readWords (clause.add (.option option)) words
    else
      match clause.redirectOf? word with
      | some r =>
        if 1 < word.utf8ByteSize then do
          let glued ← take (behindFirst word)
          let file ← unquote glued
          readWords (clause.add (r.word file)) words
        else
          match words with
          | [] => pure clause
          | next :: words => do
            let file ← unquote next
            readWords (clause.add (r.word file)) words
      | none => do
        let argument ← unquote word
        readWords (clause.add (.argument argument)) words

def readClause (segment : List Char) : ExceptT LineError Excerpting Clause :=
  match (segmentWords segment).map String.ofList with
  | [] => throw (.emptyClause (String.ofList segment))
  | name :: words => do
    let name ← unquote name
    readWords { name } words

/-- **The clauses that a line spells**, read by bytes. -/
def readLine (line : String) : ExceptT LineError Excerpting (List Clause) :=
  (lineSegments line.toList).mapM readClause

end ByBytes

variable {α β ε : Type} {m : Excerpting α} {f : α → Excerpting β} {a : α} {b : β} {e : Excerpt} {part : String}

/-! ## Readings that take what fits -/

/-- **Whether a reading obtains a result**, whatever was taken before it, and takes only excerpts that fit. -/
def Obtains (reading : Excerpting α) (a : α) : Prop :=
  ∀ before, ∃ taken, reading.run.run before = (.ok a, before ++ taken) ∧ ∀ e ∈ taken, e.Fits

theorem obtains_pure (a : α) : Obtains (pure a) a :=
  fun before => ⟨[], by rw [List.append_nil]; rfl, nofun⟩

theorem Obtains.bind (h : Obtains m a) (h' : Obtains (f a) b) : Obtains (m >>= f) b := by
  intro before
  obtain ⟨first, hfirst, hfits⟩ := h before
  obtain ⟨second, hsecond, hfits'⟩ := h' (before ++ first)
  refine ⟨first ++ second, ?_, List.forall_mem_append.2 ⟨hfits, hfits'⟩⟩
  rw [ExceptT.run_bind, StateT.run_bind, hfirst, ← List.append_assoc]
  exact hsecond

theorem obtains_take (h : e.read = .ok part) : Obtains (Excerpting.take e) part := by
  intro before
  refine ⟨[e], ?_, List.forall_mem_singleton.2 (Excerpt.fits_iff_exists_read.2 ⟨part, h⟩)⟩
  rw [Excerpting.take, h]
  rfl

theorem obtains_lift (h : Obtains m a) : Obtains (liftM m : ExceptT ε Excerpting α).run (.ok a) :=
  h.bind (obtains_pure _)

theorem Obtains.lift_bind {f : α → ExceptT ε Excerpting β} {y : Except ε β} (h : Obtains m a)
    (h' : Obtains (f a).run y) : Obtains (liftM m >>= f).run y := by
  rw [ExceptT.run_bind]
  exact (obtains_lift h).bind h'

theorem Obtains.run_bind {x : ExceptT ε Excerpting α} {f : α → ExceptT ε Excerpting β} {y : Except ε α}
    {g : α → Except ε β} (h : Obtains x.run y) (h' : ∀ a, Obtains (f a).run (g a)) :
    Obtains (x >>= f).run (y >>= g) := by
  rw [ExceptT.run_bind]
  cases y with
  | error e => exact h.bind (obtains_pure _)
  | ok a => exact h.bind (h' a)

theorem obtains_mapM {f : α → ExceptT ε Excerpting β} {g : α → Except ε β} (h : ∀ a, Obtains (f a).run (g a)) :
    ∀ l : List α, Obtains (l.mapM f).run (l.mapM g)
  | [] => obtains_pure _
  | a :: l => by
    rw [List.mapM_cons, List.mapM_cons]
    exact (h a).run_bind fun _ => (obtains_mapM h l).run_bind fun _ => obtains_pure _

/-! ## Words -/

theorem Redirect.size_symbol (r : Redirect) : r.symbol.utf8Size = 1 := by
  cases r <;> rfl

variable {word : List Char} {words : List (List Char)} {c : Clause} {before : List Role} {w : Word} {r : Redirect}

theorem startsWith_ofList {sign : Char} :
    (String.ofList word).startsWith sign = true ↔ ∃ text, word = sign :: text := by
  rw [String.startsWith_char_eq_head?, String.toList_ofList, beq_iff_eq, List.head?_eq_some_iff]

theorem endsWith_ofList {sign : Char} :
    (String.ofList word).endsWith sign = true ↔ ∃ text, word = text ++ [sign] := by
  rw [String.endsWith_char_eq_getLast?, String.toList_ofList, beq_iff_eq, List.getLast?_eq_some_iff]

theorem utf8ByteSize_pos_iff : 0 < (String.ofList word).utf8ByteSize ↔ word ≠ [] := by
  rw [Nat.pos_iff_ne_zero, ne_eq, String.utf8ByteSize_eq_zero_iff, ← String.ofList_nil, String.ofList_inj]

/-- **A word of two bytes or more that starts with a sign** of one byte has a character behind it. -/
theorem signed_iff {sign : Char} (hsign : sign.utf8Size = 1) :
    (1 < (String.ofList word).utf8ByteSize ∧ (String.ofList word).startsWith sign = true) ↔
      ∃ d text, word = sign :: d :: text := by
  rw [startsWith_ofList]
  constructor
  · rintro ⟨hsize, text, rfl⟩
    rw [Excerpt.utf8ByteSize_cons, hsign, Nat.lt_add_right_iff_pos, utf8ByteSize_pos_iff] at hsize
    obtain ⟨d, text, rfl⟩ := List.exists_cons_of_ne_nil hsize
    exact ⟨d, text, rfl⟩
  · rintro ⟨d, text, rfl⟩
    refine ⟨?_, d :: text, rfl⟩
    rw [Excerpt.utf8ByteSize_cons, hsign, Nat.lt_add_right_iff_pos, utf8ByteSize_pos_iff]
    exact List.cons_ne_nil d text

theorem ofList_quote (text : String) :
    String.ofList (quote text) = String.singleton '"' ++ text ++ String.singleton '"' := by
  rw [quote, String.ofList_append, String.ofList_cons, String.ofList_toList, ← String.singleton_eq_ofList]

theorem two_lt_size_quote_iff {text : String} : 2 < (String.ofList (quote text)).utf8ByteSize ↔ text ≠ "" := by
  have hquote : (String.singleton '"').utf8ByteSize = 1 := rfl
  rw [ofList_quote, String.utf8ByteSize_append, String.utf8ByteSize_append, hquote, ne_eq,
    ← String.utf8ByteSize_eq_zero_iff]
  omega

/-- **A word of three bytes or more with a quote at both ends** is a text in quotes, and not the empty one. -/
theorem quoted_iff : (2 < (String.ofList word).utf8ByteSize ∧ (String.ofList word).startsWith '"' = true ∧
    (String.ofList word).endsWith '"' = true) ↔ ∃ text, text ≠ "" ∧ word = quote text := by
  rw [startsWith_ofList, endsWith_ofList]
  constructor
  · rintro ⟨hsize, ⟨rest, hfront⟩, front, rfl⟩
    cases front with
    | nil => exact absurd hsize (by decide)
    | cons c text =>
      obtain ⟨rfl, -⟩ := List.cons.inj hfront
      have hquote : '"' :: text ++ ['"'] = quote (String.ofList text) := by
        rw [quote, String.toList_ofList]
      rw [hquote, two_lt_size_quote_iff] at hsize
      exact ⟨_, hsize, hquote⟩
  · rintro ⟨text, hne, rfl⟩
    exact ⟨two_lt_size_quote_iff.2 hne, ⟨_, rfl⟩, _, rfl⟩

theorem unquote_of_not_quote (h : ∀ text, text ≠ "" → word ≠ quote text) : unquote word = word := by
  unfold unquote
  split
  · next rest =>
    split
    · next inner hrest =>
      split
      · rfl
      · next hinner =>
        obtain rfl : rest = inner.reverse ++ ['"'] := by
          rw [← List.reverse_reverse rest, hrest, List.reverse_cons]
        refine absurd ?_ (h (String.ofList inner.reverse) ?_)
        · rw [quote, String.toList_ofList, List.cons_append]
        · exact ofList_ne_empty (by simpa using hinner)
    · rfl
  · rfl

/-! ## Parts of words -/

theorem obtains_behindFirst {sign : Char} (hsign : sign.utf8Size = 1) (text : List Char) :
    Obtains (Excerpting.take (.behindFirst (String.ofList (sign :: text)))) (String.ofList text) :=
  obtains_take (Excerpt.read_behindFirst_eq_ok_iff.2 ⟨sign, String.ofList_cons, hsign⟩)

/-- **The quotes of a word are taken off** without a misfit, if it has any. -/
theorem obtains_unquote (word : List Char) :
    Obtains (ByBytes.unquote (String.ofList word)) (String.ofList (unquote word)) := by
  unfold ByBytes.unquote
  by_cases hquoted : ∃ text, text ≠ "" ∧ word = quote text
  · rw [if_pos (quoted_iff.2 hquoted)]
    obtain ⟨text, hne, rfl⟩ := hquoted
    rw [unquote_quote hne, String.ofList_toList]
    exact obtains_take (Excerpt.read_inside_eq_ok_iff.2 ⟨'"', '"', ofList_quote text, rfl, rfl⟩)
  · rw [if_neg (mt quoted_iff.1 hquoted), unquote_of_not_quote (by simpa using hquoted)]
    exact obtains_pure _

theorem redirectOf?_eq_some_iff : c.redirectOf? (String.ofList word) = some r ↔
    r.target c = "" ∧ ∃ text, word = r.symbol :: text := by
  constructor
  · intro h
    unfold Clause.redirectOf? at h
    split at h
    · next hinput =>
      cases h
      exact ⟨hinput.1, startsWith_ofList.1 hinput.2⟩
    · split at h
      · next houtput =>
        cases h
        exact ⟨houtput.1, startsWith_ofList.1 houtput.2⟩
      · cases h
  · rintro ⟨hempty, hword⟩
    cases r with
    | input => exact if_pos ⟨hempty, startsWith_ofList.2 hword⟩
    | output =>
      have hsign : ¬ (String.ofList word).startsWith '<' = true := by
        rw [startsWith_ofList]
        rintro ⟨text, rfl⟩
        obtain ⟨text', h⟩ := hword
        cases h
      exact (if_neg (fun h => hsign h.2)).trans (if_pos ⟨hempty, startsWith_ofList.2 hword⟩)

/-! ## The words of a clause -/

theorem ofList_eq_mark_iff : String.ofList word = "&" ↔ word = ['&'] := by
  rw [← String.toList_inj, String.toList_ofList]
  rfl

namespace ByBytes

/-- **A word that says something** is taken apart without a misfit. -/
theorem obtains_readWords_of_means (h : Plays before word (.means w)) (hfree : ∀ r, ¬ Awaits before r)
    (hc : Agrees before c) {rest : List String} {c' : Clause} (hrest : Obtains (readWords (c.add w) rest) c') :
    Obtains (readWords c (String.ofList word :: rest)) c' := by
  cases h with
  | awaited h => exact absurd h (hfree _)
  | background _ hword =>
    subst hword
    rw [readWords, if_pos rfl]
    exact hrest
  | @option d text _ hword =>
    subst hword
    rw [readWords, if_neg (mt ofList_eq_mark_iff.1 (by simp)), if_pos ((signed_iff rfl).2 ⟨d, text, rfl⟩)]
    exact (obtains_behindFirst rfl (d :: text)).bind hrest
  | @glued r d file _ hr hword =>
    have hredirect := redirectOf?_eq_some_iff.2 ⟨(hc r).1 hr, _, hword⟩
    have hsize : 1 < (String.ofList word).utf8ByteSize := ((signed_iff r.size_symbol).2 ⟨d, file, hword⟩).1
    rw [readWords, if_neg (mt ofList_eq_mark_iff.1 (by simp [hword])),
      if_neg (mt (signed_iff rfl).1 (by simp [hword, r.symbol_ne.2])), hredirect]
    dsimp only
    rw [if_pos hsize]
    subst hword
    exact (obtains_behindFirst r.size_symbol (d :: file)).bind ((obtains_unquote (d :: file)).bind hrest)
  | argument _ hbackground hoption hset =>
    have hredirect : c.redirectOf? (String.ofList word) = none := by
      rw [Option.eq_none_iff_forall_ne_some]
      intro r hr
      obtain ⟨hempty, file, hword⟩ := redirectOf?_eq_some_iff.1 hr
      exact hset r file hword ((hc r).2 hempty)
    rw [readWords, if_neg (mt ofList_eq_mark_iff.1 hbackground),
      if_neg (mt (signed_iff rfl).1 (by simpa using hoption)), hredirect]
    exact (obtains_unquote word).bind hrest

/-- **A sign that stands alone** is read with the word behind it, and not at all without one. -/
theorem obtains_readWords_of_sign (h : Plays before word (.sign r)) (hc : Agrees before c) :
    Obtains (readWords c [String.ofList word]) c ∧ ∀ (file : List Char) {rest : List String} {c' : Clause},
      Obtains (readWords (c.add (r.word (String.ofList (LineShell.unquote file)))) rest) c' →
        Obtains (readWords c (String.ofList word :: String.ofList file :: rest)) c' := by
  cases h with
  | sign _ hr hword =>
    have hredirect := redirectOf?_eq_some_iff.2 ⟨(hc r).1 hr, _, hword⟩
    have hsize : ¬ 1 < (String.ofList word).utf8ByteSize := by
      rw [hword, Excerpt.utf8ByteSize_cons, r.size_symbol]
      decide
    have hread : ∀ rest, readWords c (String.ofList word :: rest) = match rest with
        | [] => pure c
        | next :: rest => unquote next >>= fun file => readWords (c.add (r.word file)) rest := by
      intro rest
      rw [readWords, if_neg (mt ofList_eq_mark_iff.1 (by simp [hword, r.symbol_ne.1])),
        if_neg (fun h => hsize h.1), hredirect]
      dsimp only
      rw [if_neg hsize]
    rw [hread]
    refine ⟨obtains_pure c, fun file rest c' hrest => ?_⟩
    rw [hread]
    exact (obtains_unquote file).bind hrest

/-- **The words behind a name** are read by bytes as they are by characters.  Whether a word is a file by itself depends
on the words in front of it, so the induction is on their roles. -/
theorem obtains_readWords {roles : List Role} (h : Casts before words roles) (hfree : ∀ r, ¬ Awaits before r)
    (hc : Agrees before c) (hne : ∀ word ∈ words, word ≠ []) :
    Obtains (readWords c (words.map String.ofList)) (c.readWords words) := by
  refine Casts.rounds (P := fun before words roles => ∀ {c : Clause}, Agrees before c → (∀ word ∈ words, word ≠ []) →
    Obtains (readWords c (words.map String.ofList)) (c.readWords words)) ?nil ?means ?last ?pair h hfree hc hne
  case nil => exact fun _ c _ _ => obtains_pure c
  case means =>
    intro before word words w roles hfree hplays ih c hc hne
    obtain ⟨hword, hne⟩ := List.forall_mem_cons.1 hne
    rw [Clause.readWords_of_means hplays hfree hc words]
    exact obtains_readWords_of_means hplays hfree hc (ih (hc.means (hplays.text_ne hword)) hne)
  case last =>
    intro before word r hplays c hc _
    rw [(Clause.readWords_of_sign hplays hc).1]
    exact (obtains_readWords_of_sign hplays hc).1
  case pair =>
    intro before word file words r roles hplays ih c hc hne
    obtain ⟨_, hfile, hne⟩ := by simpa only [List.forall_mem_cons] using hne
    have hplays' : Plays (before ++ [.sign r]) file (.means (r.word (String.ofList (LineShell.unquote file)))) :=
      .awaited (awaits_sign before r)
    rw [(Clause.readWords_of_sign hplays hc).2 file words]
    exact (obtains_readWords_of_sign hplays hc).2 file (ih ((hc.sign r).means (hplays'.text_ne hfile)) hne)

/-! ## Lines -/

theorem obtains_readClause (segment : List Char) : Obtains (readClause segment).run (LineShell.readClause segment) := by
  have hne := @ne_nil_of_segmentWords segment
  unfold readClause LineShell.readClause
  cases hwords : segmentWords segment with
  | nil => exact obtains_pure _
  | cons name words =>
    rw [hwords] at hne
    obtain ⟨roles, hroles⟩ := exists_casts words []
    have hread := obtains_readWords hroles nofun (agrees_nil (String.ofList (LineShell.unquote name)))
      (List.forall_mem_cons.1 hne).2
    exact (obtains_unquote name).lift_bind (obtains_lift hread)

theorem obtains_readLine (line : String) : Obtains (readLine line).run (LineShell.readLine line) :=
  obtains_mapM obtains_readClause _

end ByBytes

/-- **A line never fails to be read**, whatever characters it has: read by bytes, it takes only excerpts that fit their
words, and so it comes to what the line spells, which is a row of clauses or a segment without a word. -/
theorem excerpts_of_readLine (line : String) : ∃ excerpts,
    (ByBytes.readLine line).run.outcome = (.ok (readLine line), excerpts) ∧ (∀ e ∈ excerpts, e.Fits) ∧
      ((∃ clauses, readLine line = .ok clauses) ∨ ∃ segment, readLine line = .error (.emptyClause segment)) := by
  obtain ⟨excerpts, houtcome, hfits⟩ := ByBytes.obtains_readLine line []
  refine ⟨excerpts, houtcome, hfits, ?_⟩
  cases readLine line with
  | ok clauses => exact .inl ⟨clauses, rfl⟩
  | error e =>
    cases e with
    | emptyClause segment => exact .inr ⟨segment, rfl⟩

/-- Names, options and files of characters with two bytes, a file in quotes behind its sign, and a quote that is never
closed: it stays, and nothing is taken out of its word. -/
example : (ByBytes.readLine "\"é\" -ö <\"ß\" >a \" x").run.outcome =
    (.ok (.ok [{ name := "é", arguments := ["\" x"], options := ["ö"], input := "ß", output := "a" }]),
      [⟨"\"é\"", 1, 3⟩, ⟨"-ö", 1, 3⟩, ⟨"<\"ß\"", 1, 5⟩, ⟨"\"ß\"", 1, 3⟩, ⟨">a", 1, 2⟩]) := by
  cbv

end LineShell
