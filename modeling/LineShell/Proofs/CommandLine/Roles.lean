import LineShell.Proofs.CommandLine.RoundTrip
import Mathlib.Data.List.Forall2
/-!
# Roles — what each word of a clause is for

The first word of a clause is its name, and every other has exactly one role, which depends on the roles in front of it
(`Plays`): behind the sign of a redirect that stands alone it is the file; otherwise it may be the mark for the background,
an option, a sign or a file of a redirect that is still unset, and in all other cases it is an argument.  A clause that was
read holds what its words say, each thing once and in their order, and the only word that says nothing is a sign at the
end (`roles_of_readLine`).
-/
namespace LineShell

inductive Redirect where
  | input
  | output
  deriving DecidableEq, Repr

namespace Redirect

def symbol : Redirect → Char
  | input => '<'
  | output => '>'

def word : Redirect → String → Word
  | input => .input
  | output => .output

def file? : Redirect → Word → Option String
  | input => Word.input?
  | output => Word.output?

def target (c : Clause) : Redirect → String
  | input => c.input
  | output => c.output

theorem file?_word (r : Redirect) (file : String) : r.file? (r.word file) = some file := by
  cases r <;> rfl

theorem eq_word {r : Redirect} {w : Word} {file : String} (h : r.file? w = some file) : w = r.word file := by
  cases r <;> cases w <;> cases h <;> rfl

end Redirect

inductive Role where
  | means (word : Word)
  /-- A sign that stands alone: the word behind it is the file. -/
  | sign (r : Redirect)
  deriving DecidableEq, Repr

namespace Role

def meaning? : Role → Option Word
  | means word => some word
  | sign _ => none

def isSign : Role → Bool
  | means _ => false
  | sign _ => true

end Role

def said (roles : List Role) : List Word := roles.filterMap Role.meaning?

/-- Whether the sign of a redirect was the last word, and so the next is its file. -/
def Awaits (before : List Role) (r : Redirect) : Prop := before.getLast? = some (.sign r)

def Unset (before : List Role) (r : Redirect) : Prop := ∀ file, .means (r.word file) ∉ before

/-- **The role of a word** behind words with some roles. -/
inductive Plays (before : List Role) (word : List Char) : Role → Prop
  | awaited {r : Redirect} (h : Awaits before r) : Plays before word (.means (r.word (String.ofList (unquote word))))
  | background (h : ∀ r, ¬ Awaits before r) (hword : word = ['&']) : Plays before word (.means .background)
  | option {c : Char} {text : List Char} (h : ∀ r, ¬ Awaits before r) (hword : word = '-' :: c :: text) :
      Plays before word (.means (.option (String.ofList (c :: text))))
  | glued {r : Redirect} {c : Char} {file : List Char} (h : ∀ r, ¬ Awaits before r) (hr : Unset before r)
      (hword : word = r.symbol :: c :: file) :
      Plays before word (.means (r.word (String.ofList (unquote (c :: file)))))
  | sign {r : Redirect} (h : ∀ r, ¬ Awaits before r) (hr : Unset before r) (hword : word = [r.symbol]) :
      Plays before word (.sign r)
  | argument (h : ∀ r, ¬ Awaits before r) (hbackground : word ≠ ['&']) (hoption : ∀ c text, word ≠ '-' :: c :: text)
      (hset : ∀ r file, word = r.symbol :: file → ¬ Unset before r) :
      Plays before word (.means (.argument (String.ofList (unquote word))))

/-- **The roles of words** behind words with some roles, from left to right. -/
inductive Casts : List Role → List (List Char) → List Role → Prop
  | nil (before : List Role) : Casts before [] []
  | cons {before : List Role} {word : List Char} {words : List (List Char)} {role : Role} {roles : List Role}
      (h : Plays before word role) (hrest : Casts (before ++ [role]) words roles) :
      Casts before (word :: words) (role :: roles)

variable {before : List Role} {word : List Char} {words : List (List Char)} {role role' : Role} {roles roles' : List Role}
  {r : Redirect} {w : Word}

/-! ## Each word has one role -/

theorem exists_plays (before : List Role) (word : List Char) : ∃ role, Plays before word role := by
  by_cases hawait : ∃ r, Awaits before r
  · obtain ⟨r, h⟩ := hawait
    exact ⟨_, .awaited h⟩
  have hfree : ∀ r, ¬ Awaits before r := fun r h => hawait ⟨r, h⟩
  by_cases hbackground : word = ['&']
  · exact ⟨_, .background hfree hbackground⟩
  by_cases hoption : ∃ c text, word = '-' :: c :: text
  · obtain ⟨c, text, hword⟩ := hoption
    exact ⟨_, .option hfree hword⟩
  by_cases hredirect : ∃ r file, word = r.symbol :: file ∧ Unset before r
  · obtain ⟨r, file, hword, hr⟩ := hredirect
    cases file with
    | nil => exact ⟨_, .sign hfree hr hword⟩
    | cons c file => exact ⟨_, .glued hfree hr hword⟩
  · exact ⟨_, .argument hfree hbackground (fun c text h => hoption ⟨c, text, h⟩)
      fun r file h hr => hredirect ⟨r, file, h, hr⟩⟩

theorem Redirect.symbol_inj : ∀ {r r' : Redirect}, r.symbol = r'.symbol → r = r'
  | .input, .input, _ | .output, .output, _ => rfl

theorem Redirect.symbol_ne (r : Redirect) : r.symbol ≠ '&' ∧ r.symbol ≠ '-' := by
  cases r <;> decide

/-- A sign in front that waits for its file settles the role; otherwise the first characters tell the roles apart. -/
theorem Plays.unique (h : Plays before word role) (h' : Plays before word role') : role = role' := by
  cases h <;> cases h' <;> grind [Redirect.symbol_inj, Redirect.symbol_ne, Awaits]

theorem awaits_sign (before : List Role) (r : Redirect) : Awaits (before ++ [.sign r]) r := List.getLast?_concat

theorem not_awaits_means (before : List Role) (w : Word) (r : Redirect) : ¬ Awaits (before ++ [.means w]) r := by
  simp [Awaits]

theorem Plays.of_awaits (h : Plays before word role) (hr : Awaits before r) :
    role = .means (r.word (String.ofList (unquote word))) := h.unique (.awaited hr)

theorem exists_casts : ∀ (words : List (List Char)) (before : List Role), ∃ roles, Casts before words roles
  | [], before => ⟨[], .nil before⟩
  | word :: words, before => by
    obtain ⟨role, h⟩ := exists_plays before word
    obtain ⟨roles, hrest⟩ := exists_casts words (before ++ [role])
    exact ⟨role :: roles, .cons h hrest⟩

theorem Casts.unique (h : Casts before words roles) (h' : Casts before words roles') : roles = roles' := by
  induction h generalizing roles' with
  | nil =>
    cases h'
    rfl
  | cons hplays _ ih =>
    cases h' with
    | cons hplays' hrest' =>
      obtain rfl := hplays.unique hplays'
      rw [ih hrest']

theorem Casts.length_eq (h : Casts before words roles) : roles.length = words.length := by
  induction h with
  | nil => rfl
  | cons _ _ ih => rw [List.length_cons, List.length_cons, ih]

theorem Casts.sign_cases (h : Casts before words roles) : ∀ i r, roles[i]? = some (.sign r) →
    i + 1 = words.length ∨ ∃ file, roles[i + 1]? = some (.means (r.word file)) := by
  induction h with
  | nil => exact nofun
  | @cons before word words role roles _ hrest ih =>
    intro i r hi
    cases i with
    | zero =>
      obtain rfl := Option.some.inj hi
      cases hrest with
      | nil => exact .inl rfl
      | cons hplays _ =>
        obtain rfl := hplays.of_awaits (awaits_sign before r)
        exact .inr ⟨_, rfl⟩
    | succ i => exact (ih i r hi).imp_left (congrArg (· + 1))

/-! ## What the words say is read -/

theorem unquote_ne_nil (h : word ≠ []) : unquote word ≠ [] := by
  unfold unquote
  split
  · split
    · split
      · exact h
      · next hinner => simpa using hinner
    · exact h
  · exact h

theorem ofList_ne_empty {text : List Char} (h : text ≠ []) : String.ofList text ≠ "" := by
  rintro hempty
  exact h (String.ofList_injective hempty)

def Word.text : Word → String
  | argument text | option text | input text | output text => text
  | background => "&"

theorem Plays.text_ne (h : Plays before word (.means w)) (hword : word ≠ []) : w.text ≠ "" := by
  have hredirect : ∀ (r : Redirect) {text : List Char}, text ≠ [] → (r.word (String.ofList (unquote text))).text ≠ "" := by
    intro r text htext
    cases r <;> exact ofList_ne_empty (unquote_ne_nil htext)
  cases h with
  | awaited => exact hredirect _ hword
  | background => decide
  | option => exact ofList_ne_empty (List.cons_ne_nil _ _)
  | glued => exact hredirect _ (List.cons_ne_nil _ _)
  | argument => exact ofList_ne_empty (unquote_ne_nil hword)

theorem Redirect.word_inj {r r' : Redirect} {file file' : String} (h : r.word file = r'.word file') :
    r = r' ∧ file = file' := by
  cases r <;> cases r' <;> cases h <;> exact ⟨rfl, rfl⟩

theorem Plays.unset {file : String} (h : Plays before word (.means (r.word file))) (hfree : ∀ r, ¬ Awaits before r) :
    Unset before r := by
  generalize hw : Role.means (r.word file) = role at h
  cases h with
  | awaited h => exact absurd h (hfree _)
  | glued _ hr => exact (Redirect.word_inj (Role.means.inj hw)).1 ▸ hr
  | background | option | sign | argument => cases r <;> cases hw

theorem Plays.unset_of_sign (h : Plays before word (.sign r)) : Unset before r := by
  cases h with
  | sign _ hr => exact hr

def Agrees (before : List Role) (c : Clause) : Prop := ∀ r, Unset before r ↔ r.target c = ""

variable {c : Clause}

theorem agrees_nil (name : String) : Agrees [] { name } := by
  intro r
  cases r <;> simp [Unset, Redirect.target]

theorem Agrees.means (h : Agrees before c) (hw : w.text ≠ "") : Agrees (before ++ [.means w]) (c.add w) := by
  intro r
  have hunset : Unset (before ++ [.means w]) r ↔ Unset before r ∧ ∀ file, w ≠ r.word file := by
    simp [Unset, forall_and, eq_comm]
  rw [hunset, h r]
  cases w <;> cases r <;> simp_all [Redirect.word, Redirect.target, Clause.add, Word.text]

theorem Agrees.sign (h : Agrees before c) (r : Redirect) : Agrees (before ++ [.sign r]) c := by
  intro r'
  rw [← h r']
  simp [Unset]

namespace Clause

/-- **A word that says something** is read as that. -/
theorem readWords_of_means (h : Plays before word (.means w)) (hfree : ∀ r, ¬ Awaits before r) (hc : Agrees before c)
    (rest : List (List Char)) : c.readWords (word :: rest) = (c.add w).readWords rest := by
  cases h with
  | awaited h => exact absurd h (hfree _)
  | background _ hword | option _ hword =>
    subst hword
    rfl
  | @glued r _ _ _ hr hword =>
    subst hword
    have hempty := (hc r).1 hr
    cases r with
    | input => exact if_pos hempty
    | output => exact if_pos hempty
  | argument _ hbackground hoption hset =>
    have hmark : isBackgroundMark word = false := by simpa [isBackgroundMark] using hbackground
    have hread := readWords.eq_def c (word :: rest)
    dsimp only at hread
    rw [hread, hmark, if_neg Bool.false_ne_true]
    -- What is left are the words that look like an option or a redirect.
    split
    · exact absurd rfl (hoption _ _)
    · have hne : c.input ≠ "" := fun hempty => hset .input _ rfl ((hc .input).2 hempty)
      rw [if_neg hne]
      rfl
    · have hne : c.output ≠ "" := fun hempty => hset .output _ rfl ((hc .output).2 hempty)
      rw [if_neg hne]
      rfl
    · rfl

/-- **A sign that stands alone** is read with the word behind it, and not at all without one. -/
theorem readWords_of_sign (h : Plays before word (.sign r)) (hc : Agrees before c) :
    c.readWords [word] = c ∧ ∀ file rest,
      c.readWords (word :: file :: rest) = (c.add (r.word (String.ofList (unquote file)))).readWords rest := by
  cases h with
  | sign _ hr hword =>
    subst hword
    have hempty := (hc r).1 hr
    cases r with
    | input => exact ⟨if_pos hempty, fun file rest => if_pos hempty⟩
    | output => exact ⟨if_pos hempty, fun file rest => if_pos hempty⟩

end Clause

/-- **Induction from sign to file**: words are gone through one by one, but a sign together with the word behind it. -/
theorem Casts.rounds {P : List Role → List (List Char) → List Role → Prop} (nil : ∀ before, P before [] [])
    (means : ∀ {before word words w roles}, (∀ r, ¬ Awaits before r) → Plays before word (.means w) →
      P (before ++ [.means w]) words roles → P before (word :: words) (.means w :: roles))
    (last : ∀ {before word r}, Plays before word (.sign r) → P before [word] [.sign r])
    (pair : ∀ {before word file words r roles}, Plays before word (.sign r) →
      P (before ++ [.sign r] ++ [.means (r.word (String.ofList (unquote file)))]) words roles →
      P before (word :: file :: words) (.sign r :: .means (r.word (String.ofList (unquote file))) :: roles)) :
    ∀ {words : List (List Char)} {before roles : List Role}, Casts before words roles → (∀ r, ¬ Awaits before r) →
      P before words roles
  | [], _, _, .nil before, _ => nil before
  | word :: words, before, .means w :: roles, .cons h hrest, hfree =>
    means hfree h (rounds nil means last pair hrest (not_awaits_means before w))
  | [word], _, [.sign r], .cons h (.nil _), _ => last h
  | word :: file :: words, before, .sign r :: _ :: roles, .cons h (.cons hfile hrest), _ => by
    obtain rfl := hfile.of_awaits (awaits_sign before r)
    exact pair h (rounds nil means last pair hrest (not_awaits_means _ _))

/-! ## What a clause holds -/

namespace Clause

/-- **Words that a clause takes up** one after the other: none is empty, and none gives a file where one is given. -/
inductive TakesUp : Clause → List Word → Prop
  | nil (c : Clause) : TakesUp c []
  | cons {c : Clause} {w : Word} {ws : List Word} (htext : w.text ≠ "")
      (hfile : ∀ (r : Redirect) file, w = r.word file → r.target c = "") (hrest : TakesUp (c.add w) ws) :
      TakesUp c (w :: ws)

/-- **The words behind a name are read as what they say**, and all of that is taken up. -/
theorem readWords_of_casts (h : Casts before words roles) (hfree : ∀ r, ¬ Awaits before r) (hc : Agrees before c)
    (hne : ∀ word ∈ words, word ≠ []) :
    c.readWords words = (said roles).foldl add c ∧ c.TakesUp (said roles) := by
  refine Casts.rounds (P := fun before words roles => ∀ {c : Clause}, Agrees before c → (∀ word ∈ words, word ≠ []) →
    c.readWords words = (said roles).foldl add c ∧ c.TakesUp (said roles)) ?nil ?means ?last ?pair h hfree hc hne
  case nil => exact fun _ _ _ _ => ⟨rfl, .nil _⟩
  case means =>
    intro before word words w roles hfree hplays ih c hc hne
    obtain ⟨hword, hne⟩ := List.forall_mem_cons.1 hne
    have htext := hplays.text_ne hword
    obtain ⟨hread, htakes⟩ := ih (hc.means htext) hne
    exact ⟨(readWords_of_means hplays hfree hc words).trans hread,
      .cons htext (fun r file hw => (hc r).1 ((hw ▸ hplays).unset hfree)) htakes⟩
  case last =>
    intro before word r hplays c hc _
    exact ⟨(readWords_of_sign hplays hc).1, .nil c⟩
  case pair =>
    intro before word file words r roles hplays ih c hc hne
    obtain ⟨_, hfile, hne⟩ := by simpa only [List.forall_mem_cons] using hne
    have hplays' : Plays (before ++ [.sign r]) file (.means (r.word (String.ofList (unquote file)))) :=
      .awaited (awaits_sign before r)
    have htext := hplays'.text_ne hfile
    obtain ⟨hread, htakes⟩ := ih ((hc.sign r).means htext) hne
    refine ⟨((readWords_of_sign hplays hc).2 file words).trans hread, .cons htext (fun r' file' hw => ?_) htakes⟩
    exact (Redirect.word_inj hw).1 ▸ (hc r).1 hplays.unset_of_sign

theorem redirect_add (hw : w.text ≠ "") (hfile : ∀ (r : Redirect) file, w = r.word file → r.target c = "")
    (r : Redirect) : redirect (r.target (c.add w)) = redirect (r.target c) ++ (r.file? w).toList := by
  cases w with
  | argument | option | background => cases r <;> exact (List.append_nil _).symm
  | input file =>
    have hempty : c.input = "" := hfile .input file rfl
    cases r with
    | input =>
      show redirect file = redirect c.input ++ [file]
      rw [hempty]
      exact redirect_of_ne hw
    | output => exact (List.append_nil _).symm
  | output file =>
    have hempty : c.output = "" := hfile .output file rfl
    cases r with
    | input => exact (List.append_nil _).symm
    | output =>
      show redirect file = redirect c.output ++ [file]
      rw [hempty]
      exact redirect_of_ne hw

/-- **Of each redirect one file is given at most**, and the clause has it. -/
theorem TakesUp.redirect_eq {ws : List Word} (h : c.TakesUp ws) (r : Redirect) :
    redirect (r.target (ws.foldl add c)) = redirect (r.target c) ++ ws.filterMap r.file? := by
  induction h with
  | nil => exact (List.append_nil _).symm
  | @cons c w ws htext hfile _ ih =>
    rw [List.foldl_cons, ih, redirect_add htext hfile, List.append_assoc]
    cases hw : r.file? w <;> simp [hw]

theorem TakesUp.text_ne {ws : List Word} (h : c.TakesUp ws) : ∀ w ∈ ws, w.text ≠ "" := by
  induction h with
  | nil => exact nofun
  | cons htext _ _ ih => exact List.forall_mem_cons.2 ⟨htext, ih⟩

theorem TakesUp.not_mem_filterMap {ws : List Word} (h : c.TakesUp ws) {text? : Word → Option String}
    (htext : ∀ w, text? w = some "" → w.text = "") : "" ∉ ws.filterMap text? := by
  intro hmem
  obtain ⟨w, hw, hempty⟩ := List.mem_filterMap.1 hmem
  exact h.text_ne w hw (htext w hempty)

theorem length_eq_of_words (ws : List Word) : ws.length = (ws.filterMap Word.argument?).length +
    (ws.filterMap Word.option?).length + (ws.filterMap Word.input?).length + (ws.filterMap Word.output?).length +
      ws.count .background := by
  induction ws with
  | nil => rfl
  | cons w ws ih =>
    cases w <;>
      simp [List.filterMap_cons, Word.argument?, Word.option?, Word.input?, Word.output?, ih] <;> omega

/-- **A clause accounts for its words**: each has exactly one role, what the words say is what the clause holds, in the
same order, and the one word that says nothing is a sign with no word behind it. -/
structure Accounts (c : Clause) (words : List (List Char)) (roles : List Role) : Prop where
  casts_iff : ∀ roles', Casts [] words roles' ↔ roles' = roles
  arguments_eq : (said roles).filterMap Word.argument? = c.arguments
  options_eq : (said roles).filterMap Word.option? = c.options
  /-- A redirect has one file at most, and none if the clause names none. -/
  redirect_eq : ∀ r : Redirect, (said roles).filterMap r.file? = redirect (r.target c)
  background_iff : .background ∈ said roles ↔ c.background = true
  sign_cases : ∀ i r, roles[i]? = some (.sign r) →
    i + 1 = words.length ∨ ∃ file, roles[i + 1]? = some (.means (r.word file))
  length_eq : words.length = c.arguments.length + c.options.length + (redirect c.input).length +
    (redirect c.output).length + (said roles).count .background + roles.countP Role.isSign
  arguments_ne : "" ∉ c.arguments
  options_ne : "" ∉ c.options
  target_eq_empty_iff : ∀ r : Redirect, r.target c = "" ↔ Unset roles r

theorem redirect_eq_nil_iff {file : String} : redirect file = [] ↔ file = "" := by
  unfold redirect
  split <;> simp [*]

theorem mem_said : w ∈ said roles ↔ .means w ∈ roles := by
  simp only [said, List.mem_filterMap]
  constructor
  · rintro ⟨role, hrole, hw⟩
    cases role <;> cases hw
    exact hrole
  · exact fun h => ⟨_, h, rfl⟩

theorem length_said (roles : List Role) :
    roles.length = (said roles).length + roles.countP Role.isSign := by
  induction roles with
  | nil => rfl
  | cons role roles ih =>
    rw [List.length_cons, ih]
    cases role <;> simp [said, List.filterMap_cons, List.countP_cons, Role.meaning?, Role.isSign] <;> omega

/-- **What was read accounts for the words it was read from.** -/
theorem exists_accounts (name : String) (hne : ∀ word ∈ words, word ≠ []) :
    ∃ roles, (readWords { name } words).name = name ∧ (readWords { name } words).Accounts words roles := by
  obtain ⟨roles, hroles⟩ := exists_casts words []
  obtain ⟨hread, htakes⟩ := readWords_of_casts hroles nofun (agrees_nil name) hne
  have hredirect : ∀ r : Redirect, (said roles).filterMap r.file? = redirect (r.target (readWords { name } words)) := by
    intro r
    rw [hread, htakes.redirect_eq]
    cases r <;> rfl
  rw [foldl_add] at hread
  generalize readWords { name } words = c at hread hredirect
  refine ⟨roles, congrArg Clause.name hread, ?_⟩
  have harguments : (said roles).filterMap Word.argument? = c.arguments := (congrArg Clause.arguments hread).symm
  have hoptions : (said roles).filterMap Word.option? = c.options := (congrArg Clause.options hread).symm
  exact
    { casts_iff := fun roles' => ⟨fun h => h.unique hroles, fun h => h ▸ hroles⟩
      arguments_eq := harguments
      options_eq := hoptions
      redirect_eq := hredirect
      background_iff := by simp [hread]
      sign_cases := hroles.sign_cases
      length_eq := by
        have hinput : (said roles).filterMap Word.input? = redirect c.input := hredirect .input
        have houtput : (said roles).filterMap Word.output? = redirect c.output := hredirect .output
        rw [← hroles.length_eq, length_said, length_eq_of_words, harguments, hoptions, hinput, houtput]
      arguments_ne := harguments ▸ htakes.not_mem_filterMap (by rintro (_ | _ | _ | _ | _) ⟨⟩; rfl)
      options_ne := hoptions ▸ htakes.not_mem_filterMap (by rintro (_ | _ | _ | _ | _) ⟨⟩; rfl)
      target_eq_empty_iff := fun r => by
        rw [← redirect_eq_nil_iff, ← hredirect r, List.filterMap_eq_nil_iff]
        constructor
        · exact fun h file hmem => nomatch (r.file?_word file).symm.trans (h _ (mem_said.2 hmem))
        · intro h w hw
          rw [Option.eq_none_iff_forall_ne_some]
          exact fun file hfile => h file (mem_said.1 (r.eq_word hfile ▸ hw)) }

end Clause

/-! ## Lines -/

theorem forall₂_of_mapM {α β ε : Type} {f : α → Except ε β} : ∀ {l : List α} {bs : List β}, l.mapM f = .ok bs →
    List.Forall₂ (fun a b => f a = .ok b) l bs
  | [], bs, h => by
    obtain rfl : [] = bs := Except.ok.inj h
    exact .nil
  | a :: l, bs, h => by
    rw [List.mapM_cons] at h
    cases ha : f a with
    | error e => rw [ha] at h; cases h
    | ok b =>
      cases hl : l.mapM f with
      | error e => rw [ha, hl] at h; cases h
      | ok bs' =>
        rw [ha, hl] at h
        obtain rfl : b :: bs' = bs := Except.ok.inj h
        exact .cons ha (forall₂_of_mapM hl)

theorem words_of_readClause {segment : List Char} (h : readClause segment = .ok c) : ∃ name words,
    segmentWords segment = name :: words ∧ c = Clause.readWords { name := String.ofList (unquote name) } words := by
  unfold readClause at h
  split at h
  · cases h
  · next name words hwords => exact ⟨name, words, hwords, (Except.ok.inj h).symm⟩

theorem ne_nil_of_segmentWords {segment : List Char} : ∀ word ∈ segmentWords segment, word ≠ [] := by
  intro word hword
  simpa using (List.mem_filter.1 hword).2

/-- **No word of a line is lost or counted twice.**  Each segment has a name, which is not empty without the quotes around
it, and its clause accounts for all the words behind the name. -/
theorem roles_of_readLine {line : String} {clauses : List Clause} (h : readLine line = .ok clauses) :
    List.Forall₂ (fun segment clause => ∃ name words roles, segmentWords segment = name :: words ∧
      clause.name = String.ofList (unquote name) ∧ clause.name ≠ "" ∧ clause.Accounts words roles)
      (lineSegments line.toList) clauses := by
  refine (forall₂_of_mapM h).imp fun segment clause hclause => ?_
  obtain ⟨name, words, hwords, rfl⟩ := words_of_readClause hclause
  obtain ⟨hname, hne⟩ := List.forall_mem_cons.1 (hwords ▸ @ne_nil_of_segmentWords segment)
  obtain ⟨roles, hsame, haccounts⟩ := Clause.exists_accounts (String.ofList (unquote name)) hne
  refine ⟨name, words, roles, hwords, hsame, ?_, haccounts⟩
  rw [hsame]
  exact ofList_ne_empty (unquote_ne_nil hname)

/-- A sign takes the mark for the background as its file; a second redirect and a lone dash are arguments, and the sign at
the end is nothing. -/
theorem roles_of_readLine_signs :
    let clause : Clause :=
      { name := "cmd", arguments := ["a b", "<b", "-"], options := ["x"], input := "&", background := true }
    readLine "cmd < & -x \"a b\" <b & - >" = .ok [clause] ∧ ∃ roles,
      clause.Accounts (["<", "&", "-x", "\"a b\"", "<b", "&", "-", ">"].map String.toList) roles := by
  intro clause
  have hread : readLine "cmd < & -x \"a b\" <b & - >" = .ok [clause] := by cbv
  refine ⟨hread, ?_⟩
  have hwords : lineSegments "cmd < & -x \"a b\" <b & - >".toList = ["cmd < & -x \"a b\" <b & - >".toList] ∧
      segmentWords "cmd < & -x \"a b\" <b & - >".toList =
        "cmd".toList :: ["<", "&", "-x", "\"a b\"", "<b", "&", "-", ">"].map String.toList := by
    constructor <;> cbv
  cases hwords.1 ▸ roles_of_readLine hread with
  | cons h _ =>
    obtain ⟨name, words, roles, heq, _, _, haccounts⟩ := h
    obtain ⟨rfl, rfl⟩ := List.cons.inj (hwords.2.symm.trans heq)
    exact ⟨roles, haccounts⟩

end LineShell
