import LineShell.CommandLine.Printer
import LineShell.CommandLine.Reading
import LineShell.Proofs.CommandLine.Pieces
/-!
# RoundTrip — a line that writes clauses is read as them

Read back, a line gives exactly the clauses it writes, in whatever order the words of each stand and whatever blanks
are between them (`readLine_spellLine`).  A written word is never cut, neither at a blank nor at a pipe, and the line
ends with a character that is no blank; so the pieces of the line are its segments with blanks around them, and the
pieces of a segment are its words.
-/
namespace LineShell

/-! ## Written words -/

namespace Word

def Writable : Word → Prop
  | argument text => Clause.Quotable text
  | option text => Clause.OptionWritable text
  | input file => Clause.Quotable file
  | output file => Clause.Quotable file
  | background => True

end Word

theorem toList_ne_nil {text : String} (h : text ≠ "") : text.toList ≠ [] :=
  fun hnil => h (String.toList_inj.1 hnil)

theorem passes_quote {isSeparator : Char → Bool} {text : String} (hsep : isSeparator '"' = false)
    (h : Clause.Quotable text) : passes isSeparator false (quote text) = some false := by
  show passes isSeparator true (text.toList ++ ['"']) = some false
  rw [passes_append, passes_of_quoted _ h.2, Option.bind_some, passes, if_neg (by simp [hsep])]
  rfl

theorem passes_spell {isSeparator : Char → Bool} (hsep : ∀ c ∈ ['"', '-', '<', '>', '&'], isSeparator c = false)
    (hplain : ∀ c, c ≠ '|' → isBlank c = false → isSeparator c = false) {w : Word} (hw : w.Writable) :
    passes isSeparator false w.spell = some false := by
  have hquote := hsep '"' (by simp)
  cases w with
  | argument text => exact passes_quote hquote hw
  | option text =>
    refine passes_of_plain _ (fun c hc => ?_)
    rcases List.mem_cons.1 hc with rfl | hc
    · exact ⟨by decide, hsep _ (by simp)⟩
    · obtain ⟨hq, hp, hb⟩ := hw.2 c hc
      exact ⟨hq, hplain c hp hb⟩
  | input file =>
    show passes isSeparator false (['<'] ++ quote file) = _
    rw [passes_append, passes_of_plain ['<'] (by simpa using hsep '<' (by simp)), Option.bind_some]
    exact passes_quote hquote hw
  | output file =>
    show passes isSeparator false (['>'] ++ quote file) = _
    rw [passes_append, passes_of_plain ['>'] (by simpa using hsep '>' (by simp)), Option.bind_some]
    exact passes_quote hquote hw
  | background => exact passes_of_plain ['&'] (by simpa using hsep '&' (by simp))

theorem blank_symbols : ∀ c ∈ ['"', '-', '<', '>', '&'], isBlank c = false := by simp [isBlank]

theorem pipe_symbols : ∀ c ∈ ['"', '-', '<', '>', '&'], (c == '|') = false := by simp

theorem unquote_quote {text : String} (h : text ≠ "") : unquote (quote text) = text.toList := by
  have hne : text.toList.reverse.isEmpty = false := by simpa using toList_ne_nil h
  have hrev : (text.toList ++ ['"']).reverse = '"' :: text.toList.reverse := by simp
  simp only [unquote, quote, List.cons_append, hrev, hne, Bool.false_eq_true, if_false, List.reverse_reverse]

/-! ## Ends of texts -/

def EndsFirm (text : List Char) : Prop := ∃ front c, text = front ++ [c] ∧ isBlank c = false

theorem EndsFirm.append {text : List Char} (front : List Char) (h : EndsFirm text) : EndsFirm (front ++ text) := by
  obtain ⟨front', c, rfl, hc⟩ := h
  exact ⟨front ++ front', c, (List.append_assoc _ _ _).symm, hc⟩

theorem endsFirm_quote (text : String) : EndsFirm (quote text) := ⟨'"' :: text.toList, '"', rfl, rfl⟩

theorem endsFirm_spell {w : Word} (hw : w.Writable) : EndsFirm w.spell := by
  cases w with
  | argument text => exact endsFirm_quote text
  | option text =>
    have hne := toList_ne_nil hw.1
    refine ⟨'-' :: text.toList.dropLast, text.toList.getLast hne, ?_, (hw.2 _ (List.getLast_mem hne)).2.2⟩
    rw [List.cons_append, List.dropLast_append_getLast]
    rfl
  | input file => exact (endsFirm_quote file).append ['<']
  | output file => exact (endsFirm_quote file).append ['>']
  | background => exact ⟨[], '&', rfl, rfl⟩

theorem reverse_dropWhile_reverse {p : Char → Bool} {front gap : List Char} {c : Char} (hc : p c = false)
    (hgap : ∀ c ∈ gap, p c = true) : ((front ++ [c] ++ gap).reverse.dropWhile p).reverse = front ++ [c] := by
  rw [List.reverse_append, List.dropWhile_append_of_pos (fun c hc => hgap c (List.mem_reverse.1 hc)),
    List.reverse_append, List.reverse_singleton, List.singleton_append, List.dropWhile_cons_of_neg (by simp [hc]),
    List.reverse_cons, List.reverse_reverse]

theorem trimEnd_append {text gap : List Char} (h : EndsFirm text) (hgap : ∀ c ∈ gap, isBlank c = true) :
    trimEnd (text ++ gap) = text := by
  obtain ⟨front, c, rfl, hc⟩ := h
  exact reverse_dropWhile_reverse hc hgap

theorem trimStart_append {text gap : List Char} {c : Char} (hc : isBlank c = false)
    (hgap : ∀ c ∈ gap, isBlank c = true) : trimStart (gap ++ c :: text) = c :: text := by
  rw [trimStart, List.dropWhile_append_of_pos hgap, List.dropWhile_cons_of_neg (by simp [hc])]

theorem dropLineBreaks_of_endsFirm {text : List Char} (h : EndsFirm text) : dropLineBreaks text = text := by
  obtain ⟨front, c, rfl, hc⟩ := h
  have hbreak : (c == '\n' || c == '\r') = false := by
    rw [Bool.or_eq_false_iff, beq_eq_false_iff_ne, beq_eq_false_iff_ne]
    constructor <;> rintro rfl <;> cases hc
  have hdrop : ((front ++ [c] ++ []).reverse.dropWhile (fun c => c == '\n' || c == '\r')).reverse = front ++ [c] :=
    reverse_dropWhile_reverse hbreak (by simp)
  rwa [List.append_nil] at hdrop

/-! ## The words of a segment -/

variable {name : String} {words : List (List Char × Word)}

theorem words_of_gap : ∀ (gap text : List Char), (∀ c ∈ gap, isBlank c = true) →
    (piecesFrom isBlank false (gap ++ text)).filter (fun word => !word.isEmpty) =
      (piecesFrom isBlank false text).filter (fun word => !word.isEmpty)
  | [], _, _ => rfl
  | c :: gap, text, h => by
    have hc := h c List.mem_cons_self
    have hq : c ≠ '"' := by rintro rfl; cases hc
    have hpass : passes isBlank false [] = some false := rfl
    have hcut : piecesFrom isBlank false (c :: (gap ++ text)) = [] :: piecesFrom isBlank false (gap ++ text) :=
      piecesFrom_separator (gap ++ text) hpass hq hc
    rw [List.cons_append, hcut]
    exact words_of_gap gap text (fun c hc => h c (List.mem_cons_of_mem _ hc))

theorem words_of_spelled : ∀ (words : List (List Char × Word)) (word : List Char),
    word ≠ [] → passes isBlank false word = some false → (∀ w ∈ words, IsGap w.1 ∧ w.2.Writable) →
    (piecesFrom isBlank false (word ++ words.flatMap (fun (gap, w) => gap ++ w.spell))).filter
      (fun word => !word.isEmpty) = word :: words.map (fun w => w.2.spell)
  | [], word, hne, hpass, _ => by
    rw [List.flatMap_nil, List.append_nil, piecesFrom_of_passes hpass]
    simp [hne]
  | (gap, w) :: words, word, hne, hpass, h => by
    obtain ⟨⟨hgne, hgap⟩, hw⟩ := h (gap, w) List.mem_cons_self
    obtain ⟨c, gap, rfl⟩ := List.exists_cons_of_ne_nil hgne
    have hc : isBlank c = true := hgap c List.mem_cons_self
    have hq : c ≠ '"' := by rintro rfl; cases hc
    obtain ⟨front, last, hspell, -⟩ := endsFirm_spell hw
    have hrest := words_of_spelled words w.spell (by rw [hspell]; simp)
      (passes_spell blank_symbols (fun _ _ hb => hb) hw) (fun w hw => h w (List.mem_cons_of_mem _ hw))
    rw [List.flatMap_cons]
    dsimp only
    rw [List.cons_append, List.cons_append, piecesFrom_separator _ hpass hq hc, List.append_assoc,
      List.filter_cons_of_pos (by simp [hne]), words_of_gap gap _ (fun c hc => hgap c (List.mem_cons_of_mem _ hc)),
      hrest, List.map_cons]

theorem endsFirm_flatMap : ∀ (words : List (List Char × Word)) (front : List Char),
    EndsFirm front → (∀ w ∈ words, w.2.Writable) →
    EndsFirm (front ++ words.flatMap (fun (gap, w) => gap ++ w.spell))
  | [], _, hfront, _ => by rwa [List.flatMap_nil, List.append_nil]
  | (gap, w) :: words, front, _, h => by
    rw [List.flatMap_cons, ← List.append_assoc, ← List.append_assoc]
    exact endsFirm_flatMap words _ ((endsFirm_spell (h _ List.mem_cons_self)).append _)
      (fun w hw => h w (List.mem_cons_of_mem _ hw))

theorem endsFirm_spellSegment (h : ∀ w ∈ words, w.2.Writable) : EndsFirm (spellSegment name words) :=
  endsFirm_flatMap words _ (endsFirm_quote name) h

/-- **The words of a written segment** are its name and its words, whatever blanks are around it. -/
theorem segmentWords_spellSegment {front back : List Char} (hname : Clause.Quotable name)
    (h : ∀ w ∈ words, IsGap w.1 ∧ w.2.Writable) (hfront : ∀ c ∈ front, isBlank c = true)
    (hback : ∀ c ∈ back, isBlank c = true) :
    segmentWords (front ++ spellSegment name words ++ back) = quote name :: words.map (fun w => w.2.spell) := by
  have hfirm : EndsFirm (spellSegment name words) := endsFirm_spellSegment (fun w hw => (h w hw).2)
  have htrim : trim (front ++ spellSegment name words ++ back) = spellSegment name words := by
    rw [trim, List.append_assoc]
    show trimEnd (trimStart (front ++ '"' :: _)) = _
    rw [trimStart_append rfl hfront]
    exact trimEnd_append hfirm hback
  rw [segmentWords, htrim, splitUnquoted_eq]
  exact words_of_spelled words (quote name) (List.cons_ne_nil _ _) (passes_quote rfl hname) h

/-! ## The clause of a segment -/

namespace Clause

def add (c : Clause) : Word → Clause
  | .argument text => { c with arguments := c.arguments ++ [text] }
  | .option text => { c with options := c.options ++ [text] }
  | .input file => { c with input := file }
  | .output file => { c with output := file }
  | .background => { c with background := true }

/-- **A written word is read as what it says**, a redirect if the clause has none of its kind yet. -/
theorem readWords_spell {c : Clause} {w : Word} (rest : List (List Char)) (hw : w.Writable)
    (hi : w.input? ≠ none → c.input = "") (ho : w.output? ≠ none → c.output = "") :
    c.readWords (w.spell :: rest) = (c.add w).readWords rest := by
  cases w with
  | argument text =>
    show { c with arguments := c.arguments ++ [String.ofList (unquote (quote text))] }.readWords rest = _
    rw [unquote_quote hw.1, String.ofList_toList]
    rfl
  | option text =>
    obtain ⟨x, more, hx⟩ := List.exists_cons_of_ne_nil (toList_ne_nil hw.1)
    show c.readWords (('-' :: text.toList) :: rest) = _
    rw [hx]
    show { c with options := c.options ++ [String.ofList (x :: more)] }.readWords rest = _
    rw [← hx, String.ofList_toList]
    rfl
  | input file =>
    have hfree : c.input = "" := hi (by simp [Word.input?])
    show (if c.input = "" then { c with input := String.ofList (unquote (quote file)) }.readWords rest else _) = _
    rw [if_pos hfree, unquote_quote hw.1, String.ofList_toList]
    rfl
  | output file =>
    have hfree : c.output = "" := ho (by simp [Word.output?])
    show (if c.output = "" then { c with output := String.ofList (unquote (quote file)) }.readWords rest else _) = _
    rw [if_pos hfree, unquote_quote hw.1, String.ofList_toList]
    rfl
  | background => rfl

end Clause

theorem redirect_of_ne {file : String} (h : file ≠ "") : redirect file = [file] := if_neg h

theorem length_redirect_le (file : String) : (redirect file).length ≤ 1 := by
  unfold redirect
  split <;> simp

theorem getLastD_redirect (file : String) : (redirect file).getLastD "" = file := by
  unfold redirect
  split
  · next h => rw [h]; rfl
  · rfl

namespace Clause

/-- **Written words are read as what they say**, if the clause and they have one redirect of each kind at most. -/
theorem readWords_map_spell : ∀ (words : List Word) (c : Clause), (∀ w ∈ words, w.Writable) →
    (redirect c.input ++ words.filterMap Word.input?).length ≤ 1 →
    (redirect c.output ++ words.filterMap Word.output?).length ≤ 1 →
    c.readWords (words.map Word.spell) = words.foldl add c
  | [], _, _, _, _ => rfl
  | w :: words, c, hw, hi, ho => by
    have hone := hw w List.mem_cons_self
    have hfree : (w.input? ≠ none → c.input = "") ∧ (w.output? ≠ none → c.output = "") := by
      constructor
      · intro hsome
        by_contra hne
        obtain ⟨file, hfile⟩ := Option.ne_none_iff_exists'.1 hsome
        rw [redirect_of_ne hne, List.filterMap_cons_some hfile] at hi
        simp at hi
      · intro hsome
        by_contra hne
        obtain ⟨file, hfile⟩ := Option.ne_none_iff_exists'.1 hsome
        rw [redirect_of_ne hne, List.filterMap_cons_some hfile] at ho
        simp at ho
    rw [List.map_cons, readWords_spell _ hone hfree.1 hfree.2, List.foldl_cons]
    refine readWords_map_spell words (c.add w) (fun w hmem => hw w (List.mem_cons_of_mem _ hmem)) ?_ ?_
    · cases w with
      | input file =>
        have hadd : redirect (c.add (.input file)).input = redirect c.input ++ [file] := by
          rw [hfree.1 (by simp [Word.input?])]
          exact redirect_of_ne hone.1
        rwa [hadd, List.append_assoc]
      | argument | option | output | background => exact hi
    · cases w with
      | output file =>
        have hadd : redirect (c.add (.output file)).output = redirect c.output ++ [file] := by
          rw [hfree.2 (by simp [Word.output?])]
          exact redirect_of_ne hone.1
        rwa [hadd, List.append_assoc]
      | argument | option | input | background => exact ho

theorem foldl_add : ∀ (words : List Word) (c : Clause), words.foldl add c =
    { name := c.name
      arguments := c.arguments ++ words.filterMap Word.argument?
      options := c.options ++ words.filterMap Word.option?
      input := (words.filterMap Word.input?).getLastD c.input
      output := (words.filterMap Word.output?).getLastD c.output
      background := c.background || words.contains .background }
  | [], c => by simp
  | w :: words, c => by
    rw [List.foldl_cons, foldl_add words]
    cases w <;>
      simp [add, List.filterMap_cons, Word.argument?, Word.option?, Word.input?, Word.output?, List.getLastD_cons,
        -List.getLastD_eq_getLast?]

end Clause

namespace Clause

/-- Whether a segment, given by its name and its words with their gaps, writes a clause. -/
structure WrittenBy (c : Clause) (segment : String × List (List Char × Word)) : Prop where
  name_eq : segment.1 = c.name
  gaps : ∀ w ∈ segment.2, IsGap w.1
  spelled : c.SpelledBy (segment.2.map Prod.snd)

variable {c : Clause}

theorem SpelledBy.writable {words : List Word} (h : c.SpelledBy words) (hw : c.Writable) : ∀ w ∈ words, w.Writable := by
  have quotable : ∀ {file file' : String}, (file' ≠ "" → Quotable file') → file ∈ redirect file' → Quotable file := by
    intro file file' hq hmem
    unfold redirect at hmem
    split at hmem
    · cases hmem
    · next hne =>
      obtain rfl := List.mem_singleton.1 hmem
      exact hq hne
  intro w hmem
  cases w with
  | argument text =>
    exact hw.arguments_quotable text (h.arguments_eq ▸ List.mem_filterMap.2 ⟨_, hmem, rfl⟩)
  | option text =>
    exact hw.options_writable text (h.options_eq ▸ List.mem_filterMap.2 ⟨_, hmem, rfl⟩)
  | input file =>
    exact quotable hw.input_quotable (h.input_eq ▸ List.mem_filterMap.2 ⟨_, hmem, rfl⟩)
  | output file =>
    exact quotable hw.output_quotable (h.output_eq ▸ List.mem_filterMap.2 ⟨_, hmem, rfl⟩)
  | background => trivial

/-- **The clause of a written segment** is the one it writes. -/
theorem WrittenBy.readClause {front back : List Char} (h : c.WrittenBy (name, words)) (hw : c.Writable)
    (hfront : ∀ c ∈ front, isBlank c = true) (hback : ∀ c ∈ back, isBlank c = true) :
    readClause (front ++ spellSegment name words ++ back) = .ok c := by
  have hs : c.SpelledBy (words.map Prod.snd) := h.spelled
  obtain rfl : name = c.name := h.name_eq
  have hwords := hs.writable hw
  have hseg := segmentWords_spellSegment hw.name_quotable
    (fun w hmem => ⟨h.gaps w hmem, hwords _ (List.mem_map_of_mem hmem)⟩) hfront hback
  have hmap : words.map (fun w => w.2.spell) = (words.map Prod.snd).map Word.spell := by
    rw [List.map_map]
    rfl
  have hread := readWords_map_spell (words.map Prod.snd) { name := c.name } hwords
    (by rw [hs.input_eq]; exact length_redirect_le c.input) (by rw [hs.output_eq]; exact length_redirect_le c.output)
  have hbackground : (words.map Prod.snd).contains .background = c.background := by
    have hcount := hs.background_eq
    cases hb : c.background with
    | true =>
      rw [hb, if_pos rfl] at hcount
      exact List.contains_iff_mem.2 (List.count_pos_iff.1 (by omega))
    | false =>
      rw [hb] at hcount
      simpa using List.count_eq_zero.1 hcount
  rw [LineShell.readClause, hseg, hmap]
  dsimp only
  rw [unquote_quote hw.name_quotable.1, String.ofList_toList, hread, foldl_add, hs.arguments_eq, hs.options_eq,
    hs.input_eq, hs.output_eq, hbackground, getLastD_redirect, getLastD_redirect]
  rfl

end Clause

/-! ## The clauses of a line -/

theorem passes_of_blank {gap : List Char} (h : ∀ c ∈ gap, isBlank c = true) :
    passes (· == '|') false gap = some false := by
  refine passes_of_plain gap (fun c hc => ?_)
  have hc := h c hc
  constructor
  · rintro rfl; cases hc
  · rw [beq_eq_false_iff_ne]; rintro rfl; cases hc

theorem passes_flatMap_spell : ∀ words : List (List Char × Word), (∀ w ∈ words, IsGap w.1 ∧ w.2.Writable) →
    passes (· == '|') false (words.flatMap (fun (gap, w) => gap ++ w.spell)) = some false
  | [], _ => rfl
  | w :: words, h => by
    obtain ⟨hgap, hw⟩ := h w List.mem_cons_self
    rw [List.flatMap_cons, passes_append, passes_append, passes_of_blank hgap.2, Option.bind_some,
      passes_spell pipe_symbols (fun c hp _ => by simpa using hp) hw, Option.bind_some]
    exact passes_flatMap_spell words (fun w hw => h w (List.mem_cons_of_mem _ hw))

theorem passes_spellSegment (hname : Clause.Quotable name) (h : ∀ w ∈ words, IsGap w.1 ∧ w.2.Writable) :
    passes (· == '|') false (spellSegment name words) = some false := by
  rw [spellSegment, passes_append, passes_quote rfl hname, Option.bind_some]
  exact passes_flatMap_spell words h

variable {clauses : List Clause} {segments : List (String × List (List Char × Word))}

theorem spellLine_cons_cons (segment segment' : String × List (List Char × Word))
    (segments : List (String × List (List Char × Word))) : spellLine (segment :: segment' :: segments) =
      spellSegment segment.1 segment.2 ++ [' '] ++ '|' :: ([' '] ++ spellLine (segment' :: segments)) := by
  simp [spellLine, segmentGap]

theorem mapM_cons_ok {α β ε : Type} {f : α → Except ε β} {a : α} {b : β} {l : List α} {bs : List β}
    (ha : f a = .ok b) (hl : l.mapM f = .ok bs) : (a :: l).mapM f = .ok (b :: bs) := by
  rw [List.mapM_cons, ha]
  show (l.mapM f >>= fun bs => pure (b :: bs)) = _
  rw [hl]
  rfl

theorem mapM_readClause_spellLine : ∀ {clauses : List Clause} {segments : List (String × List (List Char × Word))}
    (front : List Char), clauses ≠ [] → (∀ c ∈ clauses, c.Writable) → List.Forall₂ Clause.WrittenBy clauses segments →
    (∀ c ∈ front, isBlank c = true) →
    (piecesFrom (· == '|') false (front ++ spellLine segments)).mapM readClause = .ok clauses
  | c :: clauses, segment :: segments, front, _, hw, .cons hc hcs, hfront => by
    have hwc := hw c List.mem_cons_self
    have hwords : ∀ w ∈ segment.2, IsGap w.1 ∧ w.2.Writable := fun w hmem =>
      ⟨hc.gaps w hmem, hc.spelled.writable hwc _ (List.mem_map_of_mem hmem)⟩
    have hpass : passes (· == '|') false (front ++ spellSegment segment.1 segment.2) = some false := by
      rw [passes_append, passes_of_blank hfront, Option.bind_some]
      exact passes_spellSegment (hc.name_eq ▸ hwc.name_quotable) hwords
    -- Behind the last segment nothing stands; behind any other a blank, and the first bar that cuts.
    cases hcs with
    | nil =>
      have hread : readClause (front ++ spellSegment segment.1 segment.2 ++ []) = .ok c :=
        hc.readClause hwc hfront (by simp)
      rw [List.append_nil] at hread
      rw [show spellLine [segment] = spellSegment segment.1 segment.2 by simp [spellLine], piecesFrom_of_passes hpass]
      exact mapM_cons_ok hread rfl
    | @cons c' segment' clauses segments hc' hcs =>
      have hblank : ∀ c ∈ [' '], isBlank c = true := by simp [isBlank]
      have hpass : passes (· == '|') false (front ++ (spellSegment segment.1 segment.2 ++ [' '])) = some false := by
        rw [← List.append_assoc, passes_append, hpass, Option.bind_some, passes_of_blank hblank]
      have hread := hc.readClause hwc hfront hblank
      rw [List.append_assoc] at hread
      rw [spellLine_cons_cons, ← List.append_assoc, piecesFrom_separator _ hpass (by decide) rfl]
      exact mapM_cons_ok hread (mapM_readClause_spellLine [' '] (List.cons_ne_nil c' clauses)
        (fun c hmem => hw c (List.mem_cons_of_mem _ hmem)) (.cons hc' hcs) hblank)

theorem endsFirm_spellLine : ∀ {clauses : List Clause} {segments : List (String × List (List Char × Word))},
    clauses ≠ [] → (∀ c ∈ clauses, c.Writable) → List.Forall₂ Clause.WrittenBy clauses segments →
    EndsFirm (spellLine segments)
  | c :: clauses, segment :: segments, _, hw, .cons hc hcs => by
    cases hcs with
    | nil =>
      rw [show spellLine [segment] = spellSegment segment.1 segment.2 by simp [spellLine]]
      exact endsFirm_spellSegment
        (fun w hmem => hc.spelled.writable (hw c List.mem_cons_self) _ (List.mem_map_of_mem hmem))
    | @cons c' segment' clauses segments hc' hcs =>
      have hrest := endsFirm_spellLine (List.cons_ne_nil c' clauses)
        (fun c hmem => hw c (List.mem_cons_of_mem _ hmem)) (.cons hc' hcs)
      rw [spellLine_cons_cons]
      exact ((hrest.append [' ']).append ['|']).append _

/-- **A line that writes clauses is read as them**, whatever the order of the words of each and the blanks between. -/
theorem readLine_spellLine (hne : clauses ≠ []) (hw : ∀ c ∈ clauses, c.Writable)
    (hs : List.Forall₂ Clause.WrittenBy clauses segments) :
    readLine (String.ofList (spellLine segments)) = .ok clauses := by
  rw [readLine, String.toList_ofList, lineSegments, dropLineBreaks_of_endsFirm (endsFirm_spellLine hne hw hs),
    splitUnquoted_eq]
  exact mapM_readClause_spellLine [] hne hw hs (by simp)

/-- Two clauses with blanks, pipes, redirect signs and a line break in quotes, a redirect in front of the arguments and
the mark for the background among them. -/
theorem readLine_spellLine_mixed :
    readLine "\"a | b\" <\"in & out\"\t\"-x\" -l  & \"\n\" | \">\" -- >\"è\"" = .ok
      [{ name := "a | b", arguments := ["-x", "\n"], options := ["l"], input := "in & out", background := true },
        { name := ">", options := ["-"], output := "è" }] := by
  let segments : List (String × List (List Char × Word)) :=
    [("a | b", [([' '], .input "in & out"), (['\t'], .argument "-x"), ([' '], .option "l"), ([' ', ' '], .background),
      ([' '], .argument "\n")]), (">", [([' '], .option "-"), ([' '], .output "è")])]
  show readLine (String.ofList (spellLine segments)) = _
  refine readLine_spellLine (by decide) (by decide) ?_
  exact .cons ⟨rfl, by decide, by decide⟩ (.cons ⟨rfl, by decide, by decide⟩ .nil)

end LineShell
