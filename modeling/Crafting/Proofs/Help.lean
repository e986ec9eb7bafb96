import Mathlib.Data.List.Infix
import Crafting.Proofs.Craft
import Crafting.Proofs.Dispatch
import Crafting.Proofs.Text.Case

/-!
# Help on one command

Help looks a command up by the first word behind it alone. So it tells of every command that has a name of one word; of
a name of several words it tells only if the first of them is by itself a name with the same details.
-/

namespace Crafting

namespace Console

open FormatCode

/-! ## Names in lower case -/

/-- A word in lower case. -/
structure LowerWord (word : String) : Prop where
  isWord : Text.IsWord word.toList
  lowered : word.lowered = word

theorem lowerWord_iff {word : String} : LowerWord word ↔ Text.IsWord word.toList ∧ word.lowered = word :=
  ⟨fun h => ⟨h.isWord, h.lowered⟩, fun h => ⟨h.1, h.2⟩⟩

instance : DecidablePred LowerWord := fun _ => decidable_of_iff _ lowerWord_iff.symm

theorem help_lowerWord : LowerWord "help" := by
  decide +kernel

theorem lowered_intercalate {words : List String} (h : ∀ word ∈ words, word.lowered = word) :
    (" ".intercalate words).lowered = " ".intercalate words := by
  rw [String.lowered_eq_self_iff, String.toList_intercalate]
  induction words with
  | nil => exact List.forall_mem_nil _
  | cons word others ih =>
      obtain ⟨hword, hothers⟩ := List.forall_mem_cons.1 h
      rw [String.lowered_eq_self_iff] at hword
      cases others with
      | nil => rwa [List.map_singleton, List.intercalate_singleton]
      | cons next others =>
          rw [List.map_cons, List.map_cons, List.intercalate_cons_cons]
          have hspace : ∀ c ∈ " ".toList, Text.lowerLetter c = [c] := List.forall_mem_singleton.2 Text.lowerLetter_space
          have hfirst := List.forall_mem_append.2 ⟨hword, hspace⟩
          exact List.forall_mem_append.2 ⟨hfirst, ih hothers⟩

theorem keyOf_lowerWords {words : List String} (h : ∀ word ∈ words, LowerWord word) :
    Table.keyOf words = " ".intercalate words :=
  lowered_intercalate fun word hword => (h word hword).lowered

/-! ## The commands of a workshop and others besides -/

variable {α : Type}

def withCommands (commands : List (Command (Deed α))) : Table (Deed α) :=
  commands.foldl (fun table command => table.register command) builtIn

theorem Table.find?_registerAll {commands : List (Command α)} {key : String}
    (h : ∀ command ∈ commands, key ∉ command.name :: command.aliases) (table : Table α) :
    (commands.foldl (fun table command => table.register command) table).find? key = table.find? key := by
  induction commands generalizing table with
  | nil => rfl
  | cons command commands ih =>
      obtain ⟨hcommand, hcommands⟩ := List.forall_mem_cons.1 h
      rw [List.foldl_cons, ih hcommands, find?_register, if_neg hcommand]

/-- Help is found under its name as long as no other command takes that. -/
theorem find?_help {commands : List (Command (Deed α))}
    (h : ∀ command ∈ commands, "help" ∉ command.name :: command.aliases) :
    ∃ command, (withCommands commands).find? "help" = some command ∧ command.name = "help" ∧ command.deed = .help := by
  refine ⟨_, (Table.find?_registerAll h builtIn).trans rfl, rfl, rfl⟩

/-! ## What help answers -/

def noHelp (name : String) : String :=
  paint .red ("No help found for '" ++ name ++ "'.")

theorem yellow_ne_red (title rest text : String) : paint .yellow title ++ rest ≠ paint .red text := by
  intro h
  have hsame := congrArg String.toList h
  simp only [paint, Code.text, Code.word, String.toList_append, List.append_assoc, List.append_cancel_left_eq] at hsame
  -- Behind the brackets comes the colour's name.
  have hcolour : some 'Y' = some 'R' := congrArg List.head? hsame
  cases hcolour

/-- The colours tell the two apart. -/
theorem details_ne_noHelp (command : Command α) (name : String) : Table.details command ≠ noHelp name := by
  unfold Table.details
  rw [String.append_assoc, String.append_assoc]
  exact yellow_ne_red _ _ _

theorem help_of_lowerWord (table : Table α) {word : String} (h : LowerWord word) :
    table.help (some word) = (table.find? word).elim (noHelp word) Table.details := by
  have hsome : word ≠ "" := by
    rintro rfl
    exact h.isWord.ne_nil rfl
  unfold Table.help
  split
  · rename_i heq
    cases heq
  · rename_i heq
    cases heq
    exact absurd rfl hsome
  · rename_i heq
    cases heq
    rw [h.lowered]
    cases table.find? word <;> rfl

/-- The line that asks for help on what some words name. -/
def helpLine (words : List String) : String :=
  "help " ++ " ".intercalate words

theorem blankWords_helpLine {first : String} {rest : List String} (h : ∀ word ∈ first :: rest, LowerWord word) :
    (helpLine (first :: rest)).blankWords = "help" :: first :: rest := by
  have hwords : ∀ word ∈ "help" :: first :: rest, Text.IsWord word.toList :=
    List.forall_mem_cons.2 ⟨help_lowerWord.isWord, fun word hword => (h word hword).isWord⟩
  have hline : " ".intercalate ("help" :: first :: rest) = helpLine (first :: rest) := by
    rw [String.intercalate_cons_cons]
    rfl
  rw [← hline, String.blankWords_intercalate hwords]

/-- Help is what a line calls that begins with its name, if no longer beginning is a name. -/
theorem helpLine_longestName {table : Table (Deed α)} {words : List String} {help : Command (Deed α)}
    (hhelp : table.find? "help" = some help) (hwords : ∀ word ∈ words, LowerWord word)
    (hfree : ∀ verb, verb ≠ [] → verb <+: "help" :: words → " ".intercalate verb ≠ "help" →
      table.find? (" ".intercalate verb) = none) :
    table.LongestName ("help" :: words) ["help"] words help := by
  have hlower : ∀ word ∈ "help" :: words, LowerWord word := List.forall_mem_cons.2 ⟨help_lowerWord, hwords⟩
  refine ⟨List.cons_ne_nil _ _, rfl, ?_, fun longer hbegins hlonger => ?_⟩
  · rw [keyOf_lowerWords (List.forall_mem_singleton.2 help_lowerWord)]
    exact hhelp
  · rw [keyOf_lowerWords fun word hword => hlower word (hbegins.subset hword)]
    refine hfree longer (List.length_pos_iff.1 (Nat.zero_lt_of_lt hlonger)) hbegins fun hsame => ?_
    exact absurd (hsame ▸ space_mem_of_length hlonger) (by decide)

section

variable {σ ι ω : Type} [Inventory σ] [DecidableEq ι] [Audience ι Notice ω]

/-- Where no longer name gets in the way, help on a name of lower-case words is answered with the details of the command
that has the name just when the first of its words is a name with the same details. So it is for every name of one word.
That there is no help is answered just when the first word is no name. -/
theorem help_tells_iff (commands : List (Command (Deed α))) (extra : α → List String → Act (Workshop σ ι ω) String)
    (w : Workshop σ ι ω) (first : String) (rest : List String) (command : Command (Deed α))
    (hhelp : ∀ other ∈ commands, "help" ∉ other.name :: other.aliases)
    (hwords : ∀ word ∈ first :: rest, LowerWord word)
    (hregistered : (withCommands commands).find? (" ".intercalate (first :: rest)) = some command)
    (hfree : ∀ verb, verb ≠ [] → verb <+: "help" :: first :: rest → " ".intercalate verb ≠ "help" →
      (withCommands commands).find? (" ".intercalate verb) = none) :
    ∃ text, answer (withCommands commands) extra (helpLine (first :: rest)) w = ⟨.ok ⟨text, some "help"⟩, w, []⟩ ∧
      (text = Table.details command ↔
        ∃ other, (withCommands commands).find? first = some other ∧ Table.details other = Table.details command) ∧
      (rest = [] → text = Table.details command) ∧
      (text = noHelp first ↔ (withCommands commands).find? first = none) := by
  obtain ⟨help, hfound, hname, hdeed⟩ := find?_help hhelp
  have hdispatch : (withCommands commands).dispatch (helpLine (first :: rest)).blankWords =
      some (help, first :: rest) := by
    rw [blankWords_helpLine hwords]
    exact Table.dispatch_eq_some_iff.2 ⟨["help"], helpLine_longestName hfound hwords hfree⟩
  have hanswer : answer (withCommands commands) extra (helpLine (first :: rest)) w =
      ⟨.ok ⟨(withCommands commands).help (some first), some "help"⟩, w, []⟩ := by
    unfold answer
    rw [answerWords_of_some hdispatch, hdeed, hname]
    rfl
  -- Of the words behind its name help takes the first.
  have hlower : LowerWord first := hwords first List.mem_cons_self
  rw [help_of_lowerWord _ hlower] at hanswer
  refine ⟨_, hanswer, ?_⟩
  cases hother : (withCommands commands).find? first with
  | none =>
      refine ⟨?_, ?_, iff_of_true rfl rfl⟩
      · exact iff_of_false (fun h => details_ne_noHelp command first h.symm) nofun
      · -- A name of one word is its first word.
        rintro rfl
        exact nomatch hother.symm.trans hregistered
  | some other =>
      refine ⟨⟨fun h => ⟨other, rfl, h⟩, ?_⟩, ?_, iff_of_false (details_ne_noHelp other first) nofun⟩
      · rintro ⟨found, hsame, hdetails⟩
        cases hsame
        exact hdetails
      · rintro rfl
        obtain rfl := Option.some.inj (hother.symm.trans hregistered)
        rfl

end

end Console

namespace Sample

open Console

/-- A command of two words, as a workshop may have it besides its own. -/
def payIn : Command (Deed String) :=
  { name := "bank deposit", help := "Pay in gold.", deed := .extra "deposit" }

/-- A shop that has nothing. -/
def bareShop : Workshop (Faulty Party) Empty Unit :=
  shop ⟨{ gold := 0 }, .clear⟩ []

/-- Help on it is asked for by its name, and says that there is none on the first word. -/
theorem deposit_unhelped :
    (withCommands [payIn]).find? "bank deposit" = some payIn ∧
      ∃ text,
        answer (withCommands [payIn]) (fun _ _ => pure "") (helpLine ["bank", "deposit"]) bareShop =
            ⟨.ok ⟨text, some "help"⟩, bareShop, []⟩ ∧
          text = noHelp "bank" ∧ text ≠ Table.details payIn := by
  have hhelp : ∀ other ∈ [payIn], "help" ∉ other.name :: other.aliases := by decide +kernel
  have hwords : ∀ word ∈ ["bank", "deposit"], LowerWord word := by decide +kernel
  have hregistered : (withCommands [payIn]).find? (" ".intercalate ["bank", "deposit"]) = some payIn :=
    (Table.find?_register payIn builtIn _).trans (if_pos (by decide))
  have hnone : ∀ verb ∈ ["help", "bank", "deposit"].inits, verb ≠ [] → " ".intercalate verb ≠ "help" →
      ((withCommands [payIn]).find? (" ".intercalate verb)).isNone = true := by
    decide +kernel
  have hfree : ∀ verb, verb ≠ [] → verb <+: ["help", "bank", "deposit"] → " ".intercalate verb ≠ "help" →
      (withCommands [payIn]).find? (" ".intercalate verb) = none := fun verb hverb hbegins hother =>
    Option.isNone_iff_eq_none.1 (hnone verb ((List.mem_inits verb _).2 hbegins) hverb hother)
  have hunnamed : ((withCommands [payIn]).find? "bank").isNone = true := by decide +kernel
  obtain ⟨text, hanswer, -, -, hunknown⟩ :=
    help_tells_iff [payIn] (fun _ _ => pure "") bareShop "bank" ["deposit"] payIn hhelp hwords hregistered hfree
  have htext : text = noHelp "bank" := hunknown.2 (Option.isNone_iff_eq_none.1 hunnamed)
  exact ⟨hregistered, text, hanswer, htext, htext ▸ (details_ne_noHelp payIn "bank").symm⟩

end Sample

end Crafting
