import Crafting.Console.Basic
import Crafting.Proofs.Assoc
import Crafting.Proofs.Text.Words

/-!
# Which command a line calls

Of the beginnings of a line that are names of commands the longest one calls its command, once and with the words behind
it. Other commands have no part in that: to register one whose names are no beginnings of the line changes nothing for
it.
-/

namespace Crafting

/-! ## Spaces -/

namespace Text

theorem lowerLetter_space : lowerLetter ' ' = [' '] := by
  decide

/-- In lower case a text has the spaces that it had. -/
theorem space_mem_lowerAfter {text : List Char} (h : ' ' ∈ text) (before : List Char) :
    ' ' ∈ lowerAfter before text := by
  induction text generalizing before with
  | nil => exact h
  | cons c rest ih =>
      rw [lowerAfter]
      rcases List.mem_cons.1 h with rfl | hrest
      · refine List.mem_append_left _ ?_
        rw [lowerBetween, if_neg (by decide), lowerLetter_space]
        exact List.mem_singleton_self ' '
      · exact List.mem_append_right _ (ih hrest _)

end Text

namespace Console

open FormatCode

variable {α : Type}

theorem space_mem_intercalate (first second : String) (rest : List String) :
    ' ' ∈ (" ".intercalate (first :: second :: rest)).toList := by
  rw [String.toList_intercalate, List.map_cons, List.map_cons, List.intercalate_cons_cons]
  exact List.mem_append_left _ (List.mem_append_right _ (List.mem_singleton_self ' '))

/-- More words than one have a space between them. -/
theorem space_mem_of_length {words : List String} (h : 1 < words.length) : ' ' ∈ (" ".intercalate words).toList := by
  match words with
  | [] => cases h
  | [word] => exact absurd h (Nat.lt_irrefl 1)
  | first :: second :: rest => exact space_mem_intercalate first second rest

namespace Table

theorem space_mem_keyOf {words : List String} (h : 1 < words.length) : ' ' ∈ (keyOf words).toList := by
  rw [keyOf, String.lowered, String.toList_ofList]
  exact Text.space_mem_lowerAfter (space_mem_of_length h) []

/-! ## Names at the beginning of a line -/

/-- Some of the first words of a line make up the key. -/
def Begins (words : List String) (key : String) : Prop :=
  ∃ verb, verb ≠ [] ∧ verb <+: words ∧ keyOf verb = key

/-- The first words of a line are a name of the command, more of them are no name, and the others are its arguments. -/
structure LongestName (table : Table α) (words verb args : List String) (command : Command α) : Prop where
  ne_nil : verb ≠ []
  words_eq : words = verb ++ args
  named : table.find? (keyOf verb) = some command
  longest : ∀ longer, longer <+: words → verb.length < longer.length → table.find? (keyOf longer) = none

variable {table : Table α} {words verb args : List String} {command : Command α}

theorem LongestName.begins (h : table.LongestName words verb args command) : Begins words (keyOf verb) :=
  ⟨verb, h.ne_nil, ⟨args, h.words_eq.symm⟩, rfl⟩

theorem LongestName.length_le {verb' args' : List String} {command' : Command α}
    (h : table.LongestName words verb args command) (h' : table.LongestName words verb' args' command') :
    verb'.length ≤ verb.length := by
  refine Nat.le_of_not_lt fun hlonger => ?_
  have hnone := h.longest verb' ⟨args', h'.words_eq.symm⟩ hlonger
  rw [h'.named] at hnone
  cases hnone

/-- There is one longest name at most. -/
theorem LongestName.unique {verb' args' : List String} {command' : Command α}
    (h : table.LongestName words verb args command) (h' : table.LongestName words verb' args' command') :
    verb = verb' ∧ args = args' ∧ command = command' := by
  have hlength : verb.length = verb'.length := Nat.le_antisymm (h'.length_le h) (h.length_le h')
  obtain ⟨rfl, rfl⟩ := List.append_inj (h.words_eq.symm.trans h'.words_eq) hlength
  exact ⟨rfl, rfl, Option.some.inj (h.named.symm.trans h'.named)⟩

/-! ## Looking for the longest -/

theorem dispatchUpTo_eq_none_iff {count : Nat} :
    table.dispatchUpTo words count = none ↔ ∀ n, 0 < n → n ≤ count → table.find? (keyOf (words.take n)) = none := by
  induction count with
  | zero => exact iff_of_true rfl fun n hpos hle => absurd hpos (Nat.not_lt.2 hle)
  | succ count ih =>
      rw [dispatchUpTo]
      cases hfound : table.find? (keyOf (words.take (count + 1))) with
      | some command =>
          refine iff_of_false nofun fun h => ?_
          rw [h (count + 1) (Nat.succ_pos count) (Nat.le_refl _)] at hfound
          cases hfound
      | none =>
          refine ih.trans ⟨fun h n hpos hle => ?_, fun h n hpos hle => h n hpos (Nat.le_succ_of_le hle)⟩
          rcases Nat.lt_or_eq_of_le hle with hlt | rfl
          · exact h n hpos (Nat.le_of_lt_succ hlt)
          · exact hfound

/-- What is found is named by some of the first words, and by no more of those that were looked at. -/
theorem dispatchUpTo_eq_some {count : Nat} (h : table.dispatchUpTo words count = some (command, args)) :
    ∃ n, 0 < n ∧ n ≤ count ∧ table.find? (keyOf (words.take n)) = some command ∧ args = words.drop n ∧
      ∀ m, n < m → m ≤ count → table.find? (keyOf (words.take m)) = none := by
  induction count with
  | zero => cases h
  | succ count ih =>
      -- The search comes down from all of the words, so what was looked at before is longer.
      rw [dispatchUpTo] at h
      cases hfound : table.find? (keyOf (words.take (count + 1))) with
      | some found =>
          rw [hfound] at h
          cases h
          refine ⟨count + 1, Nat.succ_pos count, Nat.le_refl _, hfound, rfl, fun m hlt hle => ?_⟩
          exact absurd hlt (Nat.not_lt.2 hle)
      | none =>
          rw [hfound] at h
          obtain ⟨n, hpos, hle, hnamed, hargs, hlonger⟩ := ih h
          refine ⟨n, hpos, Nat.le_succ_of_le hle, hnamed, hargs, fun m hlt hm => ?_⟩
          rcases Nat.lt_or_eq_of_le hm with hfew | rfl
          · exact hlonger m hlt (Nat.le_of_lt_succ hfew)
          · exact hfound

theorem take_ne_nil {n : Nat} (hpos : 0 < n) (hle : n ≤ words.length) : words.take n ≠ [] := by
  rw [← List.length_pos_iff, List.length_take, Nat.min_eq_left hle]
  exact hpos

theorem begins_take {n : Nat} (hpos : 0 < n) (hle : n ≤ words.length) : Begins words (keyOf (words.take n)) :=
  ⟨words.take n, take_ne_nil hpos hle, List.take_prefix n words, rfl⟩

theorem take_of_prefix {some : List String} (h : some <+: words) : words.take some.length = some :=
  (List.prefix_iff_eq_take.1 h).symm

theorem dispatch_eq_none_iff : table.dispatch words = none ↔ ∀ key, Begins words key → table.find? key = none := by
  rw [dispatch, dispatchUpTo_eq_none_iff]
  constructor
  · rintro h key ⟨verb, hverb, hbegins, rfl⟩
    rw [← take_of_prefix hbegins]
    exact h verb.length (List.length_pos_iff.2 hverb) hbegins.length_le
  · exact fun h n hpos hle => h _ (begins_take hpos hle)

theorem longestName_of_dispatch (h : table.dispatch words = some (command, args)) :
    ∃ verb, table.LongestName words verb args command := by
  obtain ⟨n, hpos, hle, hnamed, rfl, hlonger⟩ := dispatchUpTo_eq_some h
  have hlength : (words.take n).length = n := by rw [List.length_take, Nat.min_eq_left hle]
  refine ⟨words.take n, take_ne_nil hpos hle, (List.take_append_drop n words).symm, hnamed, ?_⟩
  intro longer hbegins hlt
  rw [← take_of_prefix hbegins]
  exact hlonger longer.length (hlength ▸ hlt) hbegins.length_le

/-- The command with the longest name is called, and with the words behind it. -/
theorem dispatch_eq_some_iff :
    table.dispatch words = some (command, args) ↔ ∃ verb, table.LongestName words verb args command := by
  refine ⟨longestName_of_dispatch, fun ⟨verb, h⟩ => ?_⟩
  cases hfound : table.dispatch words with
  | none =>
      have hnone := dispatch_eq_none_iff.1 hfound _ h.begins
      rw [h.named] at hnone
      cases hnone
  | some found =>
      -- What is called has a longest name too, and there is but one.
      obtain ⟨verb', h'⟩ := longestName_of_dispatch hfound
      obtain ⟨-, rfl, rfl⟩ := h.unique h'
      rfl

/-! ## Other commands -/

theorem find?_register (added : Command α) (table : Table α) (key : String) :
    (table.register added).find? key = if key ∈ added.name :: added.aliases then some added else table.find? key :=
  Assoc.get?_putAll _ added key table.entries

theorem dispatchUpTo_congr {other : Table α} {count : Nat}
    (h : ∀ n, 0 < n → n ≤ count → other.find? (keyOf (words.take n)) = table.find? (keyOf (words.take n))) :
    other.dispatchUpTo words count = table.dispatchUpTo words count := by
  induction count with
  | zero => rfl
  | succ count ih =>
      rw [dispatchUpTo, dispatchUpTo, h (count + 1) (Nat.succ_pos count) (Nat.le_refl _)]
      rw [ih fun n hpos hle => h n hpos (Nat.le_succ_of_le hle)]

/-- A command without a name at the beginning of a line has no part in what the line calls. -/
theorem dispatch_register {added : Command α} (h : ∀ key ∈ added.name :: added.aliases, ¬Begins words key) :
    (table.register added).dispatch words = table.dispatch words := by
  refine dispatchUpTo_congr fun n hpos hle => ?_
  rw [find?_register, if_neg fun hkey => h _ hkey (begins_take hpos hle)]

/-! ## Names of one word -/

/-- Where no name has a space in it, more words than one are no name. -/
theorem find?_of_length (h : ∀ entry ∈ table.entries, ' ' ∉ entry.1.toList) (hlong : 1 < verb.length) :
    table.find? (keyOf verb) = none := by
  refine Option.eq_none_iff_forall_ne_some.2 fun command hnamed => ?_
  exact h _ (Assoc.mem_of_get?_eq_some hnamed) (space_mem_keyOf hlong)

/-- Where no name has a space in it, the first word alone names the command. -/
theorem dispatch_cons (h : ∀ entry ∈ table.entries, ' ' ∉ entry.1.toList) (word : String) (rest : List String) :
    table.dispatch (word :: rest) = (table.find? word.lowered).map fun command => (command, rest) := by
  have hkey : keyOf [word] = word.lowered := rfl
  cases hnamed : table.find? word.lowered with
  | some command =>
      have hlongest : table.LongestName (word :: rest) [word] rest command :=
        ⟨List.cons_ne_nil _ _, rfl, hkey ▸ hnamed, fun longer _ hlonger => find?_of_length h hlonger⟩
      exact dispatch_eq_some_iff.2 ⟨[word], hlongest⟩
  | none =>
      refine dispatch_eq_none_iff.2 fun key hbegins => ?_
      obtain ⟨verb, hverb, hprefix, rfl⟩ := hbegins
      -- One word of the line is its first; of more than one the key has a space.
      match verb with
      | [] => exact absurd rfl hverb
      | [first] =>
          obtain ⟨rfl, -⟩ := List.cons_prefix_cons.1 hprefix
          exact hnamed
      | first :: second :: others => exact find?_of_length h (Nat.one_lt_succ_succ others.length)

/-! ## Lines without a name -/

/-- Some beginning of the words is the name of a command. -/
def Names (table : Table α) (words : List String) : Prop :=
  ∃ key, Begins words key ∧ ∃ command, table.find? key = some command

theorem names_iff_exists_longestName :
    table.Names words ↔ ∃ verb args command, table.LongestName words verb args command := by
  constructor
  · rintro ⟨key, hbegins, command, hnamed⟩
    cases hfound : table.dispatch words with
    | none =>
        rw [dispatch_eq_none_iff.1 hfound key hbegins] at hnamed
        cases hnamed
    | some found =>
        obtain ⟨verb, hlongest⟩ := longestName_of_dispatch hfound
        exact ⟨verb, found.2, found.1, hlongest⟩
  · rintro ⟨verb, args, command, h⟩
    exact ⟨keyOf verb, h.begins, command, h.named⟩

theorem dispatch_of_not_names (h : ¬table.Names words) : table.dispatch words = none := by
  refine dispatch_eq_none_iff.2 fun key hbegins => Option.eq_none_iff_forall_ne_some.2 fun command hnamed => ?_
  exact h ⟨key, hbegins, command, hnamed⟩

end Table

/-! ## What a line does -/

section

variable {table : Table α} {words args : List String} {command : Command α} {τ : Type}

theorem answerWords_of_some (h : table.dispatch words = some (command, args)) (act : α → List String → Act τ String) :
    answerWords table words act = (fun text => { text, command := some command.name }) <$> act command.deed args := by
  unfold answerWords
  rw [h, map_eq_pure_bind]

theorem answerWords_of_none (h : table.dispatch words = none) (act : α → List String → Act τ String) :
    answerWords table words act =
      pure { text := words.head?.elim "" fun word => paint .red ("Unknown command: " ++ word) } := by
  unfold answerWords
  rw [h]
  cases words <;> rfl

end

/-- A line is cut into words at its blanks. If some of its first words are a name, the longest such name calls its
command: the line does what that command does with the words behind the name, once and nothing else, and answers what it
answers. A line that begins with no name calls nothing; its answer tells its first word, and is empty if it has none. A
command that is registered besides changes nothing of this unless a name of it is at the beginning of the line. -/
theorem longest_name_calls {α : Type} (table : Table α) (line : String) :
    let words := line.blankWords
    Text.Worded line.toList (words.map String.toList) ∧
      (table.Names words ↔ ∃ verb args command, table.LongestName words verb args command) ∧
      ∀ {τ : Type} (act : α → List String → Act τ String),
        (∀ verb args command, table.LongestName words verb args command →
          answerWords table words act =
            (fun text => { text, command := some command.name }) <$> act command.deed args) ∧
        (¬table.Names words →
          (words = [] → answerWords table words act = pure { text := "" }) ∧
          ∀ word rest, words = word :: rest →
            answerWords table words act = pure { text := paint .red ("Unknown command: " ++ word) }) ∧
        ∀ added : Command α, (∀ key ∈ added.name :: added.aliases, ¬Table.Begins words key) →
          answerWords (table.register added) words act = answerWords table words act := by
  intro words
  refine ⟨?_, Table.names_iff_exists_longestName, fun act => ⟨?_, ?_, ?_⟩⟩
  · exact Text.words_eq_iff.1 (String.map_toList_blankWords line).symm
  · intro verb args command hlongest
    exact answerWords_of_some (Table.dispatch_eq_some_iff.2 ⟨verb, hlongest⟩) act
  · intro hnone
    have hanswer := answerWords_of_none (Table.dispatch_of_not_names hnone) act
    refine ⟨fun hwords => ?_, fun word rest hwords => ?_⟩
    · rw [hanswer, hwords]
      rfl
    · rw [hanswer, hwords]
      rfl
  · intro added hadded
    unfold answerWords
    rw [Table.dispatch_register hadded]

/-- Only help tells of other commands: what else a line calls comes to the same with them. -/
theorem answer_register {σ ι ω α : Type} [Inventory σ] [DecidableEq ι] [Audience ι Notice ω] (table : Table (Deed α))
    (extra : α → List String → Act (Workshop σ ι ω) String) (line : String) {added : Command (Deed α)}
    (hadded : ∀ key ∈ added.name :: added.aliases, ¬Table.Begins line.blankWords key)
    (hhelp : ∀ command args, table.dispatch line.blankWords = some (command, args) → command.deed ≠ .help) :
    answer (table.register added) extra line = answer table extra line := by
  have hsame : (table.register added).dispatch line.blankWords = table.dispatch line.blankWords :=
    Table.dispatch_register hadded
  unfold answer
  cases hfound : table.dispatch line.blankWords with
  | none => rw [answerWords_of_none hfound, answerWords_of_none (hsame.trans hfound)]
  | some found =>
      obtain ⟨command, args⟩ := found
      have hdeed := hhelp command args hfound
      -- The same is called; of the deeds just help reads the table.
      rw [answerWords_of_some hfound, answerWords_of_some (hsame.trans hfound)]
      cases hcalled : command.deed with
      | help => exact absurd hcalled hdeed
      | recipes | recipe | craft | checkNotes | extra => rfl

end Console

namespace Sample

open Console

/-- A bank with an account, to pay in at and to be paid out at. One name begins another one. -/
def bank : Table String :=
  let account : Command String := { name := "bank", deed := "account" }
  let deposit : Command String := { name := "bank deposit", aliases := ["pay in"], deed := "deposit" }
  (({} : Table String).register account).register deposit

/-- The longer name calls, in whatever case, and the words behind it keep theirs. -/
theorem deposit_called :
    bank.Names " Bank  DEPOSIT\t5 Gold".blankWords ∧ ¬bank.Names "pay 5 Gold".blankWords ∧
      ∀ {τ : Type} (act : String → List String → Act τ String),
        answerWords bank " Bank  DEPOSIT\t5 Gold".blankWords act =
            (fun text => { text, command := some "bank deposit" }) <$> act "deposit" ["5", "Gold"] ∧
          answerWords bank "pay 5 Gold".blankWords act =
            pure { text := FormatCode.paint .red ("Unknown command: " ++ "pay") } := by
  have hdeposit : (bank.dispatch " Bank  DEPOSIT\t5 Gold".blankWords).map
      (fun found => (found.1.name, found.1.deed, found.2)) = some ("bank deposit", "deposit", ["5", "Gold"]) := by
    decide +kernel
  have hpay : (bank.dispatch "pay 5 Gold".blankWords).isNone = true := by decide +kernel
  have hwords : "pay 5 Gold".blankWords = ["pay", "5", "Gold"] := by decide +kernel
  obtain ⟨⟨command, args⟩, hfound, hcommand⟩ := Option.map_eq_some_iff.1 hdeposit
  obtain ⟨hname, hdeed, rfl⟩ : command.name = "bank deposit" ∧ command.deed = "deposit" ∧ args = ["5", "Gold"] := by
    simpa using hcommand
  obtain ⟨verb, hlongest⟩ := Table.dispatch_eq_some_iff.1 hfound
  have hnames : bank.Names " Bank  DEPOSIT\t5 Gold".blankWords :=
    Table.names_iff_exists_longestName.2 ⟨verb, _, command, hlongest⟩
  have hnone : ¬bank.Names "pay 5 Gold".blankWords := by
    rintro ⟨key, hbegins, called, hcalled⟩
    rw [Table.dispatch_eq_none_iff.1 (Option.isNone_iff_eq_none.1 hpay) key hbegins] at hcalled
    cases hcalled
  refine ⟨hnames, hnone, fun act => ⟨?_, ?_⟩⟩
  · rw [((longest_name_calls bank _).2.2 act).1 verb _ command hlongest, hname, hdeed]
  · exact (((longest_name_calls bank "pay 5 Gold").2.2 act).2.1 hnone).2 "pay" _ hwords

end Sample

end Crafting
