import LineShell.Text.Unicode.Property
/-!
# Quoted — text shown in quotes

A text is shown between double quotes with what would not be seen, or would end the quotes, written as an escape:
`\0`, `\t`, `\r`, `\n`, `\"`, `\\`, and `\u` with the code point in braces for marks that attach to the character
before them and for characters without a shape of their own.
-/
namespace LineShell
namespace Quoted

def hex (n : Nat) : List Char := Nat.toDigits 16 n

def escape (c : Char) : List Char :=
  if c = Char.ofNat 0 then ['\\', '0']
  else if c = '\t' then ['\\', 't']
  else if c = '\r' then ['\\', 'r']
  else if c = '\n' then ['\\', 'n']
  else if c = '"' then ['\\', '"']
  else if c = '\\' then ['\\', '\\']
  else if Unicode.graphemeExtenders.contains c || Unicode.unprintable.contains c then
    ['\\', 'u', '\x7b'] ++ hex c.toNat ++ ['\x7d']
  else [c]

/-- One character more of the parts that are finished and the run of characters shown as themselves, both latest
first. -/
def put (p : List String × List Char) (c : Char) : List String × List Char :=
  let e := escape c
  if e.length = 1 then (p.1, c :: p.2) else (String.ofList e :: String.ofList p.2.reverse :: p.1, [])

/-- The parts in which a quoted text is written: the opening quote, runs of characters shown as themselves and
escapes in turn, the closing quote. -/
def parts (text : List Char) : List String :=
  let (done, run) := text.foldl put ([], [])
  ("\"" :: (String.ofList run.reverse :: done).reverse) ++ ["\""]

def render (text : List Char) : String := String.join (parts text)

theorem escape_eq_of_length {c : Char} (h : (escape c).length = 1) : escape c = [c] := by
  grind [escape]

/-- What was shown so far. -/
def shown (p : List String × List Char) : List Char := (p.1.reverse.flatMap String.toList) ++ p.2.reverse

theorem shown_put (p : List String × List Char) (c : Char) : shown (put p c) = shown p ++ escape c := by
  unfold put
  by_cases h : (escape c).length = 1
  · simp [shown, escape_eq_of_length h]
  · simp [shown, h]

theorem shown_foldl (text : List Char) : ∀ p : List String × List Char,
    shown (text.foldl put p) = shown p ++ text.flatMap escape := by
  induction text with
  | nil => simp
  | cons c text ih =>
    intro p
    rw [List.foldl_cons, ih, shown_put, List.flatMap_cons, List.append_assoc]

/-- **A text in quotes** is what its characters are shown as, between the quotes. -/
theorem render_eq (text : List Char) : render text = "\"" ++ String.ofList (text.flatMap escape) ++ "\"" := by
  refine String.toList_inj.1 ?_
  rw [render, parts, String.toList_join]
  have hall : (text.foldl put ([], [])).1.reverse.flatMap String.toList ++ (text.foldl put ([], [])).2.reverse =
      text.flatMap escape := by simpa [shown] using shown_foldl text ([], [])
  simp [← hall]

end Quoted
end LineShell
