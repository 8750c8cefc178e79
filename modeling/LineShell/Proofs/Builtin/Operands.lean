import LineShell.Builtin.Catalogue
/-!
# Operands — which words a builtin takes as its operands

Most builtins declare one greedy positional and nothing else but switches (`Usage.IsGreedy`).  The words of a call are
sorted once more there, and what was an argument of the call need not be an operand: words with a dash are switches, and
`help` asks for help, until a word comes that is neither (`IsPlain`) or a `--`, which is dropped.  `operandsIn` says
which words are left.  So the arguments of a call without options are the operands exactly when the first of them is
plain (`Builtin.operands_eq_arguments_iff`).
-/
namespace LineShell

/-- A word that is no option and asks for no help, wherever it stands. -/
def IsPlain (word : String) : Prop := word ≠ "help" ∧ word.toList.head? ≠ some '-'

instance (word : String) : Decidable (IsPlain word) := inferInstanceAs (Decidable (_ ∧ _))

/-- **The operands among the words after a name**: those from the first plain word on, or those behind `--`. -/
def operandsIn : List String → List String
  | [] => []
  | word :: words => if word = "--" then words else if IsPlain word then word :: words else operandsIn words

theorem length_operandsIn_le : ∀ words : List String, (operandsIn words).length ≤ words.length
  | [] => Nat.le_refl 0
  | word :: words => by
    have ih := length_operandsIn_le words
    rw [operandsIn]
    split
    · exact Nat.le_succ _
    · split
      · exact Nat.le_refl _
      · exact Nat.le_succ_of_le ih

/-- **Every word is an operand** exactly when the first is plain. -/
theorem operandsIn_eq_self_iff : ∀ words : List String, operandsIn words = words ↔ ∀ word ∈ words.head?, IsPlain word
  | [] => by simp [operandsIn]
  | word :: words => by
    simp only [List.head?_cons, Option.mem_some_iff, forall_eq']
    rw [operandsIn]
    split
    · rename_i hends
      subst hends
      constructor
      · intro h
        exact absurd (congrArg List.length h) (Nat.ne_of_lt (Nat.lt_succ_self _))
      · intro h
        exact absurd rfl h.2
    · split
      · rename_i hplain
        exact ⟨fun _ => hplain, fun _ => rfl⟩
      · rename_i hplain
        constructor
        · intro h
          have hlength := congrArg List.length h
          exact absurd hlength (Nat.ne_of_lt (Nat.lt_succ_of_le (length_operandsIn_le words)))
        · intro h
          exact absurd h hplain

namespace Usage

structure IsGreedy (u : Usage) (name : String) : Prop where
  positionals : u.positionals = [(name, .greedy)]
  switches : ∀ f ∈ u.flags, f.2.2 = .switch

def Progress.taking (p : Progress) (name : String) (words : List String) : Progress :=
  { p with operands := { p.operands with words := p.operands.words ++ words.map (fun word => (name, word)) },
           optionsEnded := true }

theorem Progress.taking_taking (p : Progress) (name : String) (words words' : List String) :
    (p.taking name words).taking name words' = p.taking name (words ++ words') := by
  simp [taking]

variable {u : Usage} {name : String} {p : Progress}

theorem takePositional_greedy (hp : p.positionals = [(name, .greedy)]) (word : String) :
    takePositional p word = .ok (p.taking name [word]) := by
  obtain ⟨operands, helpAsked, optionsEnded, positionals⟩ := p
  obtain rfl : positionals = [(name, .greedy)] := hp
  rfl

theorem scan_taking (u : Usage) (hp : p.positionals = [(name, .greedy)]) : ∀ words taken : List String,
    u.scan (p.taking name taken) words = .ok (p.taking name (taken ++ words))
  | [], taken => by rw [scan, List.append_nil]
  | word :: words, taken => by
    have htake : takePositional (p.taking name taken) word = .ok (p.taking name (taken ++ [word])) := by
      rw [← Progress.taking_taking]
      exact takePositional_greedy (p := p.taking name taken) hp word
    have hended : (p.taking name taken).optionsEnded = true := rfl
    rw [scan, if_pos hended, htake]
    dsimp only
    rw [scan_taking u hp words, List.append_assoc, List.singleton_append]

theorem scan_plain (u : Usage) (hp : p.positionals = [(name, .greedy)]) {word : String} (hword : IsPlain word)
    (words : List String) : u.scan p (word :: words) = .ok (p.taking name (word :: words)) := by
  have hlong : word ≠ "--help" := by rintro rfl; exact hword.2 rfl
  have hends : word ≠ "--" := by rintro rfl; exact hword.2 rfl
  rw [scan, takePositional_greedy hp, if_neg (not_or.2 ⟨hlong, hword.1⟩), if_neg hends, if_neg hword.2, ite_self]
  exact scan_taking u hp words [word]

theorem scan_ends (u : Usage) (hp : p.positionals = [(name, .greedy)]) (hended : p.optionsEnded = false)
    (words : List String) : u.scan p ("--" :: words) = .ok (p.taking name words) := by
  have htaking : { p with optionsEnded := true } = p.taking name [] := by simp [Progress.taking]
  rw [scan, hended, if_neg Bool.false_ne_true, if_neg (by decide), if_pos rfl, htaking]
  exact scan_taking u hp words []

theorem scan_other (hu : ∀ f ∈ u.flags, f.2.2 = .switch) {word : String} (hword : ¬ IsPlain word) (hends : word ≠ "--")
    {words : List String} {p' : Progress} (hended : p.optionsEnded = false)
    (h : u.scan p (word :: words) = .ok p') : ∃ q : Progress, u.scan q words = .ok p' ∧
      q.positionals = p.positionals ∧ q.optionsEnded = false ∧ q.operands.words = p.operands.words := by
  rw [scan, hended, if_neg Bool.false_ne_true, if_neg hends] at h
  split at h
  · exact ⟨_, h, rfl, rfl, rfl⟩
  rename_i hhelp
  have hdash : word.toList.head? = some '-' :=
    Decidable.byContradiction fun hdash => hword ⟨fun hw => hhelp (.inr hw), hdash⟩
  rw [if_pos hdash] at h
  split at h
  · cases h
  cases hflag : u.flags.lookup word with
  | none =>
    rw [hflag] at h
    cases h
  | some flag =>
    obtain ⟨key, kind⟩ := flag
    obtain ⟨before, after, hflags, -⟩ := List.lookup_eq_some_iff.1 hflag
    obtain rfl : kind = .switch := hu _ (hflags ▸ List.mem_append_right before List.mem_cons_self)
    rw [hflag] at h
    exact ⟨_, h, rfl, rfl, rfl⟩

/-- **Which words are operands**, whatever the words in front of them ask for. -/
theorem words_of_scan (hu : u.IsGreedy name) : ∀ (words : List String) {p p' : Progress},
    p.positionals = [(name, .greedy)] → p.optionsEnded = false → u.scan p words = .ok p' →
    p'.operands.words = p.operands.words ++ (operandsIn words).map (fun word => (name, word))
  | [], p, p', _, _, h => by
    obtain rfl := Except.ok.inj h
    simp [operandsIn]
  | word :: words, p, p', hp, hended, h => by
    by_cases hends : word = "--"
    · subst hends
      rw [scan_ends u hp hended] at h
      obtain rfl := Except.ok.inj h
      rw [operandsIn, if_pos rfl]
      rfl
    by_cases hword : IsPlain word
    · rw [scan_plain u hp hword] at h
      obtain rfl := Except.ok.inj h
      rw [operandsIn, if_neg hends, if_pos hword]
      rfl
    obtain ⟨q, hq, hpositionals, hopen, hwords⟩ := scan_other hu.switches hword hends hended h
    rw [operandsIn, if_neg hends, if_neg hword, ← hwords]
    exact words_of_scan hu words (hpositionals.trans hp) hopen hq

theorem words_of_read (hu : u.IsGreedy name) {words : List String} {operands : Operands}
    (h : u.read words = .ok operands) : operands.words = (operandsIn words).map (fun word => (name, word)) := by
  rw [read] at h
  split at h
  · cases h
  rename_i p hscan
  split at h
  · cases h
  split at h
  · obtain rfl := Except.ok.inj h
    exact words_of_scan hu words hu.positionals rfl hscan
  · cases h

theorem missing_eq_nil (hu : u.IsGreedy name) (o : Operands) : u.missing o = [] := by
  rw [missing, hu.positionals]
  rfl

/-- **All words are operands** exactly when the first of them is plain. -/
theorem read_eq_all_iff (hu : u.IsGreedy name) (words : List String) :
    u.read words = .ok { words := words.map (fun word => (name, word)) } ↔ ∀ word ∈ words.head?, IsPlain word := by
  constructor
  · intro h
    have hwords : words.map (fun word => (name, word)) = (operandsIn words).map (fun word => (name, word)) :=
      words_of_read hu h
    have hinjective : ∀ word word' : String, (name, word) = (name, word') → word = word' :=
      fun _ _ he => (Prod.mk.inj he).2
    exact (operandsIn_eq_self_iff words).1 ((List.map_inj_right hinjective).1 hwords).symm
  · intro h
    have hscan : ∃ p, u.scan { positionals := u.positionals } words = .ok p ∧ p.helpAsked = false ∧
        p.operands = { words := words.map (fun word => (name, word)) } := by
      cases words with
      | nil => exact ⟨_, rfl, rfl, rfl⟩
      | cons word words => exact ⟨_, scan_plain u hu.positionals (h word rfl) words, rfl, rfl⟩
    obtain ⟨p, hp, hhelp, hoperands⟩ := hscan
    rw [read, hp]
    simp only [hhelp, Bool.false_eq_true, if_false, missing_eq_nil hu, hoperands]

end Usage

namespace Builtin

theorem flags_are_switches {b : Builtin} (hb : b ∈ all) : ∀ f ∈ b.usage.flags, f.2.2 = .switch := by
  revert b
  decide

variable {b : Builtin} {name : String}

theorem isGreedy (hb : b ∈ all) (hname : b.usage.positionals = [(name, .greedy)]) : b.usage.IsGreedy name :=
  ⟨hname, flags_are_switches hb⟩

/-- **The operands of a builtin with one greedy positional** are exactly the arguments of a call without options if the
first argument is plain, and then its work is its run with these operands.  If the first argument is not plain they are
not: a first argument `help` or one with a dash is no operand. -/
theorem operands_eq_arguments_iff (hb : b ∈ all) (hname : b.usage.positionals = [(name, .greedy)]) (call : Call)
    (hoptions : call.options = []) :
    (b.usage.read call.words = .ok { words := call.arguments.map (fun word => (name, word)) } ↔
      ∀ word ∈ call.arguments.head?, IsPlain word) ∧
    ((∀ word ∈ call.arguments.head?, IsPlain word) →
      b.work call = b.run call.path { words := call.arguments.map (fun word => (name, word)) }) := by
  have hwords : call.words = call.arguments := by rw [Call.words, hoptions]; rfl
  have hiff := Usage.read_eq_all_iff (isGreedy hb hname) call.arguments
  rw [hwords]
  refine ⟨hiff, fun hplain => ?_⟩
  rw [work, hwords, hiff.2 hplain]

/-- A dash behind a plain word is an operand. -/
theorem operands_eq_arguments_iff_dash :
    Rm.builtin.usage.read ["a", "-r", "help"] = .ok { words := [("names", "a"), ("names", "-r"), ("names", "help")] } ∧
    Rm.builtin.work { arguments := ["a", "-r", "help"] } =
      Rm.run "" false ["a", "-r", "help"] := by
  have hrm : Rm.builtin ∈ all := by simp [all]
  have hplain : ∀ word ∈ ["a", "-r", "help"].head?, IsPlain word := by decide
  obtain ⟨hiff, hwork⟩ := operands_eq_arguments_iff hrm rfl { arguments := ["a", "-r", "help"] } rfl
  exact ⟨hiff.2 hplain, hwork hplain⟩

/-- **Arguments are not always operands**: a quoted `-n` makes `echo` leave the line break out. -/
theorem not_operands_eq_arguments : ¬ ∀ b ∈ all, ∀ name, b.usage.positionals = [(name, .greedy)] →
    ∀ call : Call, call.options = [] →
      b.usage.read call.words = .ok { words := call.arguments.map (fun word => (name, word)) } := by
  intro h
  have hecho : Echo.builtin ∈ all := by simp [all]
  have hread := h Echo.builtin hecho "args" rfl { arguments := ["-n", "x"] } rfl
  have hswitch : Echo.builtin.usage.read ["-n", "x"] = .ok { switches := ["bare"], words := [("args", "x")] } := rfl
  have hboth := Except.ok.inj (hswitch.symm.trans hread)
  exact absurd hboth (by decide)

end Builtin
end LineShell
