import LineShell.CommandLine.Scan
import LineShell.Proofs.CommandLine.RoundTrip
import Mathlib.Data.List.TakeWhile
/-!
# OnePass — cutting a line twice is scanning it once

A line is cut at its bars and each segment, trimmed, at its blanks.  One scan of the line without the blanks at its end
finds the same words (`readLine_eq_scan`).  The quotes start afresh in every segment, and so they do in the scan: a bar
that cuts stands outside quotes.  Trimming a segment takes away blanks outside quotes, which belong to no word, but at
the end of a line whose last quote is never closed; there they are part of a word, and the scan leaves them out too.
-/
namespace LineShell

variable {isSeparator : Char → Bool} {quoted : Bool} {c : Char} {front gap text : List Char}

/-! ## Where a text ends -/

def quotedBehind (quoted : Bool) (text : List Char) : Bool := text.foldl quotedAfter quoted

theorem quotedBehind_append (quoted : Bool) (front text : List Char) :
    quotedBehind quoted (front ++ text) = quotedBehind (quotedBehind quoted front) text := List.foldl_append

theorem quotedBehind_of_passes : ∀ {quoted quoted' : Bool} (text : List Char),
    passes isSeparator quoted text = some quoted' → quotedBehind quoted text = quoted'
  | _, _, [], h => Option.some.inj h
  | quoted, _, c :: text, h => by
    rw [passes] at h
    split at h
    · cases h
    · exact quotedBehind_of_passes text h

theorem quotedAfter_of_ne (quoted : Bool) (h : c ≠ '"') : quotedAfter quoted c = quoted := if_neg h

theorem ne_quote_of_isBlank (h : isBlank c = true) : c ≠ '"' := by
  rintro rfl
  cases h

theorem quotedBehind_of_blank (quoted : Bool) : ∀ gap : List Char, (∀ c ∈ gap, isBlank c = true) →
    quotedBehind quoted gap = quoted
  | [], _ => rfl
  | c :: gap, h => by
    show quotedBehind (quotedAfter quoted c) gap = quoted
    rw [quotedAfter_of_ne quoted (ne_quote_of_isBlank (h c List.mem_cons_self))]
    exact quotedBehind_of_blank quoted gap (fun c hc => h c (List.mem_cons_of_mem _ hc))

theorem piecesFrom_ne_nil (isSeparator : Char → Bool) : ∀ (quoted : Bool) (text : List Char),
    piecesFrom isSeparator quoted text ≠ []
  | _, [] => List.cons_ne_nil _ _
  | quoted, c :: text => by
    rw [piecesFrom]
    split
    · exact List.cons_ne_nil _ _
    · rw [Ne, List.modifyHead_eq_nil_iff]
      exact piecesFrom_ne_nil isSeparator _ text

/-- **A separator outside quotes parts the pieces** in front of it from those behind. -/
theorem piecesFrom_append_separator (text : List Char) (hq : c ≠ '"') (hc : isSeparator c = true) :
    ∀ (front : List Char) {quoted : Bool}, quotedBehind quoted front = false →
      piecesFrom isSeparator quoted (front ++ c :: text) =
        piecesFrom isSeparator quoted front ++ piecesFrom isSeparator false text
  | [], quoted, h => by
    obtain rfl : quoted = false := h
    have hfront : passes isSeparator false [] = some false := rfl
    exact piecesFrom_separator text hfront hq hc
  | d :: front, quoted, h => by
    have ih := piecesFrom_append_separator text hq hc front h
    obtain ⟨piece, pieces, hpieces⟩ := List.exists_cons_of_ne_nil (piecesFrom_ne_nil isSeparator (quotedAfter quoted d) front)
    rw [List.cons_append, piecesFrom, piecesFrom, ih, hpieces]
    split <;> rfl

theorem passes_or_cut : ∀ (quoted : Bool) (text : List Char),
    (∃ quoted', passes (· == '|') quoted text = some quoted') ∨
      ∃ front rest, text = front ++ '|' :: rest ∧ passes (· == '|') quoted front = some false
  | quoted, [] => .inl ⟨quoted, rfl⟩
  | quoted, c :: text => by
    by_cases hcut : (!quotedAfter quoted c && c == '|') = true
    · obtain ⟨hq, hc⟩ := Bool.and_eq_true_iff.1 hcut
      obtain rfl : c = '|' := by simpa using hc
      refine .inr ⟨[], text, rfl, ?_⟩
      rw [quotedAfter_of_ne quoted (by decide)] at hq
      simpa [passes] using hq
    · obtain ⟨quoted', h⟩ | ⟨front, rest, rfl, h⟩ := passes_or_cut (quotedAfter quoted c) text
      · refine .inl ⟨quoted', ?_⟩
        rw [passes, if_neg hcut]
        exact h
      · refine .inr ⟨c :: front, rest, rfl, ?_⟩
        rw [passes, if_neg hcut]
        exact h

/-! ## Trimming -/

theorem trimStart_eq (text : List Char) : ∃ gap, text = gap ++ trimStart text ∧ ∀ c ∈ gap, isBlank c = true :=
  ⟨text.takeWhile isBlank, (List.takeWhile_append_dropWhile).symm, fun _ hc => List.mem_takeWhile_imp hc⟩

theorem trimEnd_eq (text : List Char) : ∃ gap, text = trimEnd text ++ gap ∧ ∀ c ∈ gap, isBlank c = true := by
  refine ⟨(text.reverse.takeWhile isBlank).reverse, ?_, fun c hc => List.mem_takeWhile_imp (List.mem_reverse.1 hc)⟩
  rw [trimEnd, ← List.reverse_append, List.takeWhile_append_dropWhile, List.reverse_reverse]

theorem trimEnd_of_blank (h : ∀ c ∈ gap, isBlank c = true) : trimEnd gap = [] := by
  rw [trimEnd, List.reverse_eq_nil_iff, List.dropWhile_eq_nil_iff]
  exact fun c hc => h c (List.mem_reverse.1 hc)

theorem trimEnd_append_of_ne_nil (front : List Char) (h : trimEnd text ≠ []) :
    trimEnd (front ++ text) = front ++ trimEnd text := by
  have hne : (text.reverse.dropWhile isBlank).isEmpty = false := by
    simpa [trimEnd] using h
  rw [trimEnd, List.reverse_append, List.dropWhile_append, hne]
  simp [trimEnd]

theorem trimEnd_append_cons (front text : List Char) (h : isBlank c = false) :
    trimEnd (front ++ c :: text) = front ++ c :: trimEnd text := by
  have hc : trimEnd (c :: text) = c :: trimEnd text := by
    by_cases ht : trimEnd text = []
    · obtain ⟨gap, htext, hgap⟩ := trimEnd_eq text
      rw [ht, List.nil_append] at htext
      rw [ht, htext]
      exact trimEnd_append ⟨[], c, rfl, h⟩ hgap
    · exact trimEnd_append_of_ne_nil [c] ht
  rw [trimEnd_append_of_ne_nil front (by rw [hc]; exact List.cons_ne_nil _ _), hc]

theorem trimEnd_dropLineBreaks (line : List Char) : trimEnd (dropLineBreaks line) = trimEnd line := by
  obtain ⟨breaks, hline, hbreaks⟩ : ∃ breaks, line = dropLineBreaks line ++ breaks ∧ ∀ c ∈ breaks, isBlank c = true := by
    refine ⟨(line.reverse.takeWhile (fun c => c == '\n' || c == '\r')).reverse, ?_, fun c hc => ?_⟩
    · rw [dropLineBreaks, ← List.reverse_append, List.takeWhile_append_dropWhile, List.reverse_reverse]
    · have hbreak := List.mem_takeWhile_imp (List.mem_reverse.1 hc)
      rw [Bool.or_eq_true, beq_iff_eq, beq_iff_eq] at hbreak
      rcases hbreak with rfl | rfl <;> rfl
  generalize dropLineBreaks line = text at hline
  subst hline
  rw [trimEnd, trimEnd, List.reverse_append, List.dropWhile_append_of_pos fun c hc => hbreaks c (List.mem_reverse.1 hc)]

/-! ## The words of a segment -/

def wordsFrom (quoted : Bool) (text : List Char) : List (List Char) :=
  (piecesFrom isBlank quoted text).filter (fun word => !word.isEmpty)

theorem wordsFrom_of_blank (h : ∀ c ∈ gap, isBlank c = true) : wordsFrom false gap = [] := by
  have hwords := words_of_gap gap [] h
  rwa [List.append_nil] at hwords

theorem wordsFrom_trimEnd (h : quotedBehind false text = false) : wordsFrom false (trimEnd text) = wordsFrom false text := by
  obtain ⟨gap, htext, hgap⟩ := trimEnd_eq text
  generalize trimEnd text = core at htext
  subst htext
  rw [quotedBehind_append, quotedBehind_of_blank _ gap hgap] at h
  cases gap with
  | nil => rw [List.append_nil]
  | cons c gap =>
    have hc := hgap c List.mem_cons_self
    have hrest : wordsFrom false gap = [] := wordsFrom_of_blank fun c hc => hgap c (List.mem_cons_of_mem _ hc)
    rw [wordsFrom, wordsFrom, piecesFrom_append_separator gap (ne_quote_of_isBlank hc) hc core h, List.filter_append]
    rw [wordsFrom] at hrest
    rw [hrest, List.append_nil]

/-- **The words of a segment** need no trimming at its front. -/
theorem segmentWords_eq (segment : List Char) : segmentWords segment = wordsFrom false (trimEnd segment) := by
  obtain ⟨gap, hsegment, hgap⟩ := trimStart_eq segment
  rw [segmentWords, splitUnquoted_eq, trim]
  show wordsFrom false (trimEnd (trimStart segment)) = _
  generalize trimStart segment = text at hsegment
  subst hsegment
  by_cases ht : trimEnd text = []
  · obtain ⟨gap', htext, hgap'⟩ := trimEnd_eq text
    rw [ht, List.nil_append] at htext
    have hall : ∀ c ∈ gap ++ text, isBlank c = true := by
      rw [htext]
      exact fun c hc => (List.mem_append.1 hc).elim (hgap c) (hgap' c)
    rw [ht, trimEnd_of_blank hall]
  · rw [trimEnd_append_of_ne_nil gap ht]
    exact (words_of_gap gap _ hgap).symm

/-- **The segments of a line, trimmed one by one**, have the words of the segments of the trimmed line. -/
theorem map_segmentWords_pieces (line : List Char) :
    (piecesFrom (· == '|') false line).map segmentWords =
      (piecesFrom (· == '|') false (trimEnd line)).map (wordsFrom false) := by
  obtain ⟨quoted, h⟩ | ⟨front, rest, hline, h⟩ := passes_or_cut false line
  · obtain ⟨gap, hline, -⟩ := trimEnd_eq line
    have hpasses := h
    rw [hline, passes_append] at hpasses
    obtain ⟨quoted', htrim, -⟩ := Option.bind_eq_some_iff.1 hpasses
    rw [piecesFrom_of_passes h, piecesFrom_of_passes htrim, List.map_singleton, List.map_singleton, segmentWords_eq]
  · have hcut : ∀ rest, piecesFrom (· == '|') false (front ++ '|' :: rest) = front :: piecesFrom (· == '|') false rest :=
      fun rest => piecesFrom_separator rest h (by decide) rfl
    have hfront : segmentWords front = wordsFrom false front :=
      (segmentWords_eq front).trans (wordsFrom_trimEnd (quotedBehind_of_passes front h))
    have hrest := map_segmentWords_pieces rest
    rw [hline, trimEnd_append_cons front rest rfl, hcut, hcut, List.map_cons, List.map_cons, hfront, hrest]
termination_by line.length
decreasing_by
  rw [hline, List.length_append, List.length_cons]
  omega

/-! ## The scan -/

namespace LineScan

/-- What is still to come behind a scan, where the rest of the line is cut at its bars: the words of the clause under way,
and those of the clauses behind it. -/
def ahead (s : LineScan) : List (List Char) → List (List (List Char))
  | [] => []
  | piece :: pieces =>
    (s.words.reverse ++ ((piecesFrom isBlank s.quoted piece).modifyHead (s.current.reverse ++ ·)).filter
      (fun word => !word.isEmpty)) :: pieces.map (wordsFrom false)

theorem clauses_endWord (s : LineScan) : s.endWord.clauses = s.clauses := by
  unfold endWord
  split <;> rfl

theorem quoted_endWord (s : LineScan) : s.endWord.quoted = s.quoted := by
  unfold endWord
  split <;> rfl

theorem current_endWord (s : LineScan) : s.endWord.current = [] := by
  unfold endWord
  split
  · next h => exact List.isEmpty_iff.1 h
  · rfl

theorem reverse_words_endWord (s : LineScan) :
    s.endWord.words.reverse = s.words.reverse ++ [s.current.reverse].filter (fun word => !word.isEmpty) := by
  unfold endWord
  cases hc : s.current <;> simp

theorem ahead_nil (s : LineScan) (pieces : List (List Char)) :
    s.ahead ([] :: pieces) = s.endWord.words.reverse :: pieces.map (wordsFrom false) := by
  rw [ahead, reverse_words_endWord, piecesFrom, List.modifyHead_cons, List.append_nil]

theorem ahead_keep (s : LineScan) {c : Char} (h : (!quotedAfter s.quoted c && isBlank c) = false)
    (pieces : List (List Char)) : s.ahead (pieces.modifyHead (c :: ·)) =
      ahead { s with quoted := quotedAfter s.quoted c, current := c :: s.current } pieces := by
  cases pieces with
  | nil => rfl
  | cons piece pieces =>
    rw [List.modifyHead_cons, ahead, ahead, piecesFrom, if_neg (by simp [h]), List.modifyHead_modifyHead]
    simp [Function.comp_def]

theorem ahead_blank (s : LineScan) {c : Char} (hq : s.quoted = false) (hc : isBlank c = true)
    (pieces : List (List Char)) : s.ahead (pieces.modifyHead (c :: ·)) = s.endWord.ahead pieces := by
  cases pieces with
  | nil => rfl
  | cons piece pieces =>
    have hafter : quotedAfter s.quoted c = false := by rw [quotedAfter_of_ne _ (ne_quote_of_isBlank hc), hq]
    rw [List.modifyHead_cons, ahead, ahead, piecesFrom, hafter, hc, quoted_endWord, hq, current_endWord,
      reverse_words_endWord, List.reverse_nil, modifyHead_nil_append]
    simp only [Bool.not_false, Bool.and_true, if_true, List.modifyHead_cons, List.append_nil]
    rw [List.append_assoc, ← List.filter_append, List.singleton_append]

theorem ahead_fresh {s : LineScan} (hq : s.quoted = false) (hw : s.words = []) (hc : s.current = [])
    (pieces : List (List Char)) : s.ahead pieces = pieces.map (wordsFrom false) := by
  cases pieces with
  | nil => rfl
  | cons piece pieces =>
    rw [ahead, hq, hw, hc, List.reverse_nil, List.reverse_nil, modifyHead_nil_append, List.nil_append, List.map_cons]
    rfl

/-- **What a character does**: it goes into the word under way, ends it, or ends the clause with it. -/
theorem feed_cases (s : LineScan) (c : Char) :
    ((!quotedAfter s.quoted c && (isBlank c || c == '|')) = false ∧
      s.feed c = { s with quoted := quotedAfter s.quoted c, current := c :: s.current }) ∨
    (s.quoted = false ∧ isBlank c = true ∧ s.feed c = s.endWord) ∨ s.quoted = false ∧ c = '|' ∧ s.feed c = s.endClause := by
  unfold feed
  by_cases hquote : c = '"'
  · subst hquote
    exact .inl ⟨by simp [isBlank], by simp [quotedAfter]⟩
  rw [quotedAfter_of_ne s.quoted hquote, if_neg hquote]
  by_cases hquoted : s.quoted = true
  · exact .inl ⟨by simp [hquoted], by rw [if_pos hquoted]⟩
  rw [if_neg hquoted]
  have hquoted : s.quoted = false := by simpa using hquoted
  by_cases hblank : isBlank c = true
  · exact .inr (.inl ⟨hquoted, hblank, if_pos hblank⟩)
  rw [if_neg hblank]
  by_cases hbar : c = '|'
  · exact .inr (.inr ⟨hquoted, hbar, if_pos hbar⟩)
  · exact .inl ⟨by simp [hblank, hbar], by rw [if_neg hbar]⟩

/-- **What a scan will have found** once it is through the rest of the line. -/
theorem finish_foldl_feed : ∀ (text : List Char) (s : LineScan),
    (text.foldl feed s).finish = s.clauses.reverse ++ s.ahead (piecesFrom (· == '|') s.quoted text)
  | [], s => by
    rw [piecesFrom, ahead_nil]
    simp [finish, endClause, clauses_endWord]
  | c :: text, s => by
    rw [List.foldl_cons, finish_foldl_feed text, piecesFrom]
    obtain ⟨hkeep, hfeed⟩ | ⟨hquoted, hblank, hfeed⟩ | ⟨hquoted, rfl, hfeed⟩ := s.feed_cases c
    · rw [Bool.and_or_distrib_left, Bool.or_eq_false_iff] at hkeep
      rw [hfeed, if_neg (by simp [hkeep.2]), ahead_keep s hkeep.1]
    · have hbar : c ≠ '|' := by
        rintro rfl
        cases hblank
      rw [hfeed, clauses_endWord, quoted_endWord, quotedAfter_of_ne _ (ne_quote_of_isBlank hblank),
        if_neg (by simp [hbar]), ahead_blank s hquoted hblank]
    · have hquoted' : s.endClause.quoted = false := (quoted_endWord s).trans hquoted
      rw [hfeed, quotedAfter_of_ne _ (by decide), hquoted, if_pos (by simp), ahead_nil, hquoted',
        ahead_fresh hquoted' rfl (current_endWord s), endClause, List.reverse_cons, clauses_endWord, List.append_assoc]
      rfl

end LineScan

/-- **Scanning a line once** finds the words of the segments between its bars. -/
theorem foldl_feed_eq (text : List Char) :
    (text.foldl LineScan.feed {}).finish = (piecesFrom (· == '|') false text).map (wordsFrom false) := by
  rw [LineScan.finish_foldl_feed text {}, LineScan.ahead_fresh rfl rfl rfl]
  rfl

theorem map_segmentWords_lineSegments (line : List Char) : (lineSegments line).map segmentWords = scanLine line := by
  rw [lineSegments, splitUnquoted_eq, map_segmentWords_pieces, trimEnd_dropLineBreaks, scanLine, foldl_feed_eq]

/-! ## The clauses of a line -/

def Clause.ofWords? : List (List Char) → Option Clause
  | [] => none
  | name :: words => some (Clause.readWords { name := String.ofList (unquote name) } words)

theorem readClause_eq (segment : List Char) :
    readClause segment = match Clause.ofWords? (segmentWords segment) with
      | some clause => .ok clause
      | none => .error (.emptyClause (String.ofList segment)) := by
  unfold readClause
  cases segmentWords segment <;> rfl

theorem toOption_mapM_readClause : ∀ segments : List (List Char),
    (segments.mapM readClause).toOption = (segments.map segmentWords).mapM Clause.ofWords?
  | [] => rfl
  | segment :: segments => by
    rw [List.mapM_cons, List.map_cons, List.mapM_cons, ← toOption_mapM_readClause segments, readClause_eq]
    cases Clause.ofWords? (segmentWords segment) with
    | none => rfl
    | some clause => cases segments.mapM readClause <;> rfl

theorem mapM_ofWords?_eq_none_iff : ∀ rows : List (List (List Char)), rows.mapM Clause.ofWords? = none ↔ [] ∈ rows
  | [] => by simp
  | row :: rows => by
    rw [List.mapM_cons, List.mem_cons, ← mapM_ofWords?_eq_none_iff rows]
    cases row with
    | nil => simp [Clause.ofWords?]
    | cons name words => cases rows.mapM Clause.ofWords? <;> simp [Clause.ofWords?]

/-- **A line that is cut twice is scanned once.**  The words of its segments are those that one scan finds; a segment is
refused exactly if the scan finds a clause without a word, and otherwise the clauses are what the scanned words spell. -/
theorem readLine_eq_scan (line : String) :
    (lineSegments line.toList).map segmentWords = scanLine line.toList ∧
    ((∃ segment, readLine line = .error (.emptyClause segment)) ↔ [] ∈ scanLine line.toList) ∧
    ∀ clauses, readLine line = .ok clauses ↔ (scanLine line.toList).mapM Clause.ofWords? = some clauses := by
  have hwords := map_segmentWords_lineSegments line.toList
  have hread : (readLine line).toOption = (scanLine line.toList).mapM Clause.ofWords? := by
    rw [readLine, toOption_mapM_readClause, hwords]
  refine ⟨hwords, ?_, fun clauses => ?_⟩
  · rw [← mapM_ofWords?_eq_none_iff, ← hread]
    cases readLine line with
    | error e => cases e; simp [Except.toOption]
    | ok clauses => simp [Except.toOption]
  · rw [← hread]
    cases readLine line <;> simp [Except.toOption]

/-- The quote that is never closed keeps a bar and a blank, and loses the blanks at the end of the line. -/
example : (scanLine "a\t|b \"c | d \n ".toList).map (List.map String.ofList) = [["a"], ["b", "\"c | d"]] := by decide

end LineShell
