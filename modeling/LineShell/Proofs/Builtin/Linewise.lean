import LineShell.Proofs.Command.Feeding
import LineShell.Proofs.Flow.Textual
import LineShell.Proofs.Text.Decoding
import LineShell.Proofs.Text.Portions
import Mathlib
/-!
# Linewise — data that are cut at the end of a line

A newline ends whatever is being read: the character that is being decoded, the line and the word.  What is decoded,
cut into lines and counted behind it is what would be without anything in front.  So `wc` counts data as it counts their
parts, and `grep` prints of them what it prints of their parts, if they are cut at the end of a line (`linewise`).
-/
namespace LineShell

/-! ## Characters -/

namespace Utf8

/-- **A newline parts what is decoded.** -/
theorem decode_newline (front back : Bytes) :
    decode (front ++ Bytes.newline :: back) = decode front ++ '\n' :: decode back :=
  decode_of_lt (by decide) front back

end Utf8

/-! ## Data -/

def Bytes.EndsLine (data : Bytes) : Prop := data = [] ∨ data.getLast? = some Bytes.newline

theorem Bytes.EndsLine.cases {data : Bytes} (h : data.EndsLine) : data = [] ∨ ∃ front, data = front ++ [Bytes.newline] :=
  h.imp_right (fun hlast => List.getLast?_eq_some_iff.1 hlast)

variable {a : Bytes} {passes : List Char → Bool}

/-- **What is decoded falls into the same lines** as that of the parts, if the first of them ends a line. -/
theorem textLines_decode_append (ha : a.EndsLine) (b : Bytes) :
    textLines (Utf8.decode (a ++ b)) = textLines (Utf8.decode a) ++ textLines (Utf8.decode b) := by
  obtain rfl | ⟨front, rfl⟩ := ha.cases
  · rfl
  · have hfront : Utf8.decode (front ++ [Bytes.newline]) = Utf8.decode front ++ ['\n'] := Utf8.decode_newline front []
    rw [List.append_assoc, List.singleton_append, Utf8.decode_newline, hfront]
    exact textLines_newline _ _

theorem wordCount_decode_append (ha : a.EndsLine) (b : Bytes) :
    wordCount (Utf8.decode (a ++ b)) = wordCount (Utf8.decode a) + wordCount (Utf8.decode b) := by
  obtain rfl | ⟨front, rfl⟩ := ha.cases
  · exact (Nat.zero_add _).symm
  · have hfront : Utf8.decode (front ++ [Bytes.newline]) = Utf8.decode front ++ ['\n'] := Utf8.decode_newline front []
    have hlast : wordCount (Utf8.decode front ++ ['\n']) = wordCount (Utf8.decode front) :=
      wordCount_blank (by decide) _ []
    rw [List.append_assoc, List.singleton_append, Utf8.decode_newline, wordCount_blank (by decide), hfront, hlast]

/-! ## Builtins -/

namespace Action

variable {α β γ : Type}

theorem bind_assoc (x : Action α) (f : α → Action β) (g : β → Action γ) :
    Action.bind (Action.bind x f) g = Action.bind x (fun a => Action.bind (f a) g) := by
  refine (Program.bind_assoc x _ _).trans (congrArg (Program.bind x) (funext fun result => ?_))
  cases result <;> rfl

end Action

namespace Grep

def output (passes : List Char → Bool) (label : String) (data : Bytes) : Bytes :=
  (selected passes data).flatMap (fun line => Bytes.ofString (label ++ String.ofList line ++ "\n"))

theorem selected_append (ha : a.EndsLine) (passes : List Char → Bool) (b : Bytes) :
    selected passes (a ++ b) = selected passes a ++ selected passes b := by
  rw [selected, textLines_decode_append ha, List.filter_append]
  rfl

theorem printLines_append (label : String) (more : List (List Char)) : ∀ lines : List (List Char),
    printLines label (lines ++ more) = Action.bind (printLines label lines) (fun _ => printLines label more)
  | [] => rfl
  | line :: lines => by
    show Action.bind _ (fun _ => printLines label (lines ++ more)) = _
    rw [printLines_append label more lines]
    exact (Action.bind_assoc _ _ _).symm

open Program in
/-- **What is printed of the input** is its lines that pass. -/
theorem ends_runWith_input (files : Files) (passes : List Char → Bool) (path : String) (data : Bytes) : ∃ n,
    Ends files n (runWith passes path []) (some data) (output passes "" data) (Leaves () none []) := by
  obtain ⟨m, hm⟩ := ends_printLines files "" none [] (selected passes data)
  rw [List.append_nil] at hm
  exact ⟨_, Ends.andThen (ends_readAll data) hm⟩

/-- **At a bench that delivers some data**, whatever the pieces are, the lines that pass are printed. -/
theorem does_runWith_input {files : Files} {bench : Bench} {data : Bytes} (hb : bench.Gives files (some data))
    (passes : List Char → Bool) (path : String) :
    ∃ bench', Bench.Does (runWith passes path []) bench (.ok ()) (output passes "" data) bench' := by
  obtain ⟨n, hn⟩ := ends_runWith_input files passes path data
  obtain ⟨result, rest, left, bench', told, hleads, ⟨rfl, rfl, rfl⟩, -, hout, htold⟩ := hn.brings hb
  rw [List.append_nil] at hout
  exact ⟨bench', Bench.leads_done_iff.1 hleads, hout ▸ htold⟩

end Grep

/-- **Data that are cut at the end of a line are taken line by line**: what is counted of them adds up, and what is printed
of them is what is printed of the one part and then of the other, whatever lines pass.  It is one program to do both. -/
theorem linewise (ha : a.EndsLine) (b : Bytes) :
    Wc.counts (a ++ b) = ⟨(Wc.counts a).lines + (Wc.counts b).lines, (Wc.counts a).words + (Wc.counts b).words,
      (Wc.counts a).bytes + (Wc.counts b).bytes⟩ ∧
    ∀ passes : List Char → Bool,
      (∀ label, Grep.output passes label (a ++ b) = Grep.output passes label a ++ Grep.output passes label b ∧
        Grep.printSelected passes label (a ++ b) =
          Action.bind (Grep.printSelected passes label a) (fun _ => Grep.printSelected passes label b)) ∧
      ∀ data path files bench, Bench.Gives files (some data) bench →
        ∃ bench', Bench.Does (Grep.runWith passes path []) bench (.ok ()) (Grep.output passes "" data) bench' := by
  refine ⟨?_, fun passes => ⟨fun label => ⟨?_, ?_⟩, fun _ path _ _ hb => Grep.does_runWith_input hb passes path⟩⟩
  · simp only [Wc.counts, textLines_decode_append ha, wordCount_decode_append ha, List.length_append]
  · rw [Grep.output, Grep.selected_append ha, List.flatMap_append]
    rfl
  · rw [Grep.printSelected, Grep.selected_append ha]
    exact Grep.printLines_append label _ _

/-- A byte that is no character and a carriage return before the newline, and a character cut short by a blank behind it,
read in three pieces. -/
theorem linewise_ill_formed :
    let a : Bytes := [0x61, 0xFF, 0x0D, 0x0A]
    let b : Bytes := [0xC3, 0x20, 0x62]
    let events : List ReadEvent := [.data [0x61, 0xFF, 0x0D], .interrupted, .data [0x0A, 0xC3], .data [0x20, 0x62]]
    let bench : Bench := { reader := ⟨events⟩, files := .blank }
    Wc.counts (a ++ b) = ⟨2, 3, 7⟩ ∧ ∃ bench',
      Bench.Does (Grep.runWith (·.contains 'b') "" []) bench (.ok ()) [0xEF, 0xBF, 0xBD, 0x20, 0x62, 0x0A] bench' := by
  intro a b events bench
  have hline : a.EndsLine := .inr rfl
  have hgives : bench.Gives .blank (some (a ++ b)) := by
    refine ⟨rfl, ⟨rfl, rfl, rfl, rfl, rfl, rfl⟩, rfl, ?_⟩
    rintro data ⟨⟩
    exact .data [0x61, 0xFF, 0x0D] (.interrupted (.data [0x0A, 0xC3] (.data [0x20, 0x62] .nil)))
  obtain ⟨hcounts, hgrep⟩ := linewise hline b
  obtain ⟨houtput, hdoes⟩ := hgrep (·.contains 'b')
  have hfront : Wc.counts a = ⟨1, 1, 4⟩ ∧ Grep.output (·.contains 'b') "" a = [] := by constructor <;> cbv
  have hback : Wc.counts b = ⟨1, 2, 3⟩ ∧ Grep.output (·.contains 'b') "" b = [0xEF, 0xBF, 0xBD, 0x20, 0x62, 0x0A] := by
    constructor <;> cbv
  constructor
  · rw [hcounts, hfront.1, hback.1]
    rfl
  · have hboth := hdoes (a ++ b) "" _ bench hgives
    rwa [(houtput "").1, hfront.2, hback.2] at hboth

end LineShell
