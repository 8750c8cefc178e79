import LineShell.Text.Lines
import Mathlib.Data.List.Basic
/-!
# Portions — the lines and words of a text

Lines and words are counted and cut in one pass, a character at a time.  Said without the pass: the lines of a text are
its pieces between newlines (`textLines_eq`), and its words are its pieces between blanks that are not empty
(`wordCount_eq`).  Both follow from what a newline and a blank do to the pass: they part what is in front of them from
what is behind (`textLines_newline`, `wordCount_blank`).
-/
namespace LineShell

/-! ## Lines -/

namespace LineCutter

def behind (l : LineCutter) (front : List (List Char)) : LineCutter := { l with lines := l.lines ++ front }

theorem feed_behind (l : LineCutter) (front : List (List Char)) (c : Char) :
    (l.behind front).feed c = (l.feed c).behind front := by
  obtain ⟨lines, current⟩ := l
  simp only [feed, behind]
  split
  · split <;> rfl
  · rfl

theorem foldl_behind (text : List Char) (l : LineCutter) (front : List (List Char)) :
    text.foldl feed (l.behind front) = (text.foldl feed l).behind front :=
  List.foldl_hom (fun l : LineCutter => l.behind front) (fun l c => l.feed_behind front c)

theorem finish_behind (l : LineCutter) (front : List (List Char)) :
    (l.behind front).finish = front.reverse ++ l.finish := by
  obtain ⟨lines, current⟩ := l
  cases current <;> simp [finish, behind]

/-- **A newline ends the line under way.** -/
theorem feed_newline (l : LineCutter) : ∃ lines, l.feed '\n' = ({} : LineCutter).behind lines := by
  simp only [feed, if_true]
  split <;> exact ⟨_, rfl⟩

theorem foldl_of_not_mem {text : List Char} (h : '\n' ∉ text) (l : LineCutter) :
    text.foldl feed l = ⟨l.lines, text.reverse ++ l.current⟩ := by
  induction text generalizing l with
  | nil => rfl
  | cons c text ih =>
    obtain ⟨hc, htext⟩ : '\n' ≠ c ∧ '\n' ∉ text := by simpa using h
    rw [List.foldl_cons, ih htext, feed, if_neg (Ne.symm hc)]
    simp

end LineCutter

/-- **A newline parts the lines**: it ends one, and those behind it are lines of their own. -/
theorem textLines_newline (front back : List Char) :
    textLines (front ++ '\n' :: back) = textLines (front ++ ['\n']) ++ textLines back := by
  obtain ⟨lines, hfeed⟩ := (front.foldl LineCutter.feed {}).feed_newline
  have hlines : ∀ text, textLines (front ++ '\n' :: text) = lines.reverse ++ textLines text := by
    intro text
    rw [textLines, List.foldl_append, List.foldl_cons, hfeed, LineCutter.foldl_behind, LineCutter.finish_behind]
    rfl
  rw [hlines, hlines]
  exact congrArg (· ++ _) (List.append_nil _).symm

def dropReturn (line : List Char) : List Char := if line.getLast? = some '\r' then line.dropLast else line

/-- **The lines of a text**: what stands before each newline, without the carriage return there, and what stands behind
the last one, if anything does. -/
def linesOf (text : List Char) : List (List Char) :=
  let pieces := text.splitOn '\n'
  pieces.dropLast.map dropReturn ++ pieces.getLast?.toList.filter (· ≠ [])

theorem textLines_of_not_mem {text : List Char} (h : '\n' ∉ text) : textLines text = [text].filter (· ≠ []) := by
  rw [textLines, LineCutter.foldl_of_not_mem h]
  obtain rfl | ⟨front, last, rfl⟩ := List.eq_nil_or_concat text
  · rfl
  · simp [LineCutter.finish]

theorem textLines_ended {line : List Char} (h : '\n' ∉ line) : textLines (line ++ ['\n']) = [dropReturn line] := by
  rw [textLines, List.foldl_append, LineCutter.foldl_of_not_mem h]
  obtain rfl | ⟨front, last, rfl⟩ := List.eq_nil_or_concat line
  · rfl
  · by_cases hlast : last = '\r'
    · simp [LineCutter.feed, LineCutter.finish, dropReturn, hlast]
    · simp [LineCutter.feed, LineCutter.finish, dropReturn, hlast]

theorem linesOf_of_not_mem {text : List Char} (h : '\n' ∉ text) : linesOf text = [text].filter (· ≠ []) := by
  rw [linesOf, List.splitOn_eq_singleton h]
  rfl

theorem linesOf_newline {line : List Char} (h : '\n' ∉ line) (back : List Char) :
    linesOf (line ++ '\n' :: back) = dropReturn line :: linesOf back := by
  have hsplit : (line ++ '\n' :: back).splitOn '\n' = line :: back.splitOn '\n' :=
    List.splitOnP_append_cons_of_forall_mem (by simpa using fun c hc => ne_of_mem_of_not_mem hc h) '\n' rfl back
  obtain ⟨last, hlast⟩ := Option.ne_none_iff_exists'.1 (mt List.getLast?_eq_none_iff.1 (List.splitOn_ne_nil '\n' back))
  simp only [linesOf, hsplit, List.dropLast_cons_of_ne_nil (List.splitOn_ne_nil '\n' back), List.getLast?_cons, hlast,
    Option.getD_some, List.map_cons, List.cons_append]

/-- **What is cut in one pass are the lines of the text.** -/
theorem textLines_eq (text : List Char) : textLines text = linesOf text := by
  by_cases h : '\n' ∈ text
  · obtain ⟨line, back, rfl, hline⟩ := List.eq_append_cons_of_mem h
    have hshort : back.length < (line ++ '\n' :: back).length := by simp; omega
    rw [textLines_newline, textLines_ended hline, linesOf_newline hline, textLines_eq back]
    rfl
  · rw [textLines_of_not_mem h, linesOf_of_not_mem h]
  termination_by text.length

/-! ## Words -/

namespace WordCounter

def behind (w : WordCounter) (front : Nat) : WordCounter := { w with count := w.count + front }

theorem feed_behind (w : WordCounter) (front : Nat) (c : Char) : (w.behind front).feed c = (w.feed c).behind front := by
  obtain ⟨count, inside⟩ := w
  simp only [feed, behind]
  split
  · rfl
  · cases inside with
    | true => rfl
    | false => exact congrArg (WordCounter.mk · true) (Nat.add_right_comm count front 1)

theorem foldl_behind (text : List Char) (w : WordCounter) (front : Nat) :
    text.foldl feed (w.behind front) = (text.foldl feed w).behind front :=
  List.foldl_hom (fun w : WordCounter => w.behind front) (fun w c => w.feed_behind front c)

theorem foldl_inside {text : List Char} (h : ∀ c ∈ text, isBlank c = false) (count : Nat) :
    text.foldl feed ⟨count, true⟩ = ⟨count, true⟩ := by
  induction text with
  | nil => rfl
  | cons c text ih =>
    obtain ⟨hc, htext⟩ := List.forall_mem_cons.1 h
    rw [List.foldl_cons, feed, if_neg (by simp [hc]), if_pos rfl, ih htext]

end WordCounter

/-- **A blank parts the words.** -/
theorem wordCount_blank {c : Char} (hc : isBlank c = true) (front back : List Char) :
    wordCount (front ++ c :: back) = wordCount front + wordCount back := by
  have hfeed : ∀ w : WordCounter, w.feed c = ({} : WordCounter).behind w.count := by
    intro w
    rw [WordCounter.feed, if_pos hc, WordCounter.behind, Nat.zero_add]
  rw [wordCount, List.foldl_append, List.foldl_cons, hfeed, WordCounter.foldl_behind]
  exact Nat.add_comm _ _

/-- **The words of a text**: what stands between blanks, if anything does. -/
def wordsIn (text : List Char) : List (List Char) := (text.splitOnP isBlank).filter (· ≠ [])

theorem wordsIn_blank {c : Char} (hc : isBlank c = true) (front back : List Char) :
    wordsIn (front ++ c :: back) = wordsIn front ++ wordsIn back := by
  rw [wordsIn, List.splitOnP_append_cons front back hc, List.filter_append]
  rfl

theorem wordCount_of_forall {text : List Char} (h : ∀ c ∈ text, isBlank c = false) :
    wordCount text = (wordsIn text).length := by
  rw [wordsIn, List.splitOnP_eq_singleton h]
  cases text with
  | nil => rfl
  | cons c text =>
    obtain ⟨hc, htext⟩ := List.forall_mem_cons.1 h
    rw [wordCount, List.foldl_cons, WordCounter.feed, if_neg (by simp [hc]), if_neg Bool.false_ne_true,
      WordCounter.foldl_inside htext]
    rfl

/-- **What is counted in one pass are the words of the text.** -/
theorem wordCount_eq (text : List Char) : wordCount text = (wordsIn text).length := by
  by_cases h : ∃ c ∈ text, isBlank c = true
  · obtain ⟨c, hmem, hc⟩ := h
    obtain ⟨front, back, rfl⟩ := List.append_of_mem hmem
    have hfront : front.length < (front ++ c :: back).length := by simp
    have hback : back.length < (front ++ c :: back).length := by simp; omega
    rw [wordCount_blank hc, wordsIn_blank hc, List.length_append, wordCount_eq front, wordCount_eq back]
  · exact wordCount_of_forall fun c hc => by simpa using fun hblank => h ⟨c, hc, hblank⟩
  termination_by text.length

end LineShell
