import Crafting.Text.CaseTable

/-!
# Letter case

Lower, upper and title case by the full mappings, in which one letter may become several. A capital sigma that ends a
word becomes `ς`: a cased letter stands before it and none after it, where letters without case of their own (accents,
apostrophes) are passed over.
-/

namespace Crafting.Text

/-- Looks a letter up in a table of several letters, then among the runs. -/
def mapLetter (runs : List CaseRun) (expansions : List (Nat × List Nat)) (c : Char) : Option (List Char) :=
  match expansions.lookup c.toNat with
  | some letters => some (letters.map Char.ofNat)
  | none => (runs.findSome? (·.image? c.toNat)).map fun n => [Char.ofNat n]

/-- The lower case of a letter on its own. -/
def lowerLetter (c : Char) : List Char :=
  (mapLetter lowerRuns lowerExpansions c).getD [c]

/-- The upper case of a letter. -/
def upperLetter (c : Char) : List Char :=
  (mapLetter upperRuns upperExpansions c).getD [c]

/-- The case of a letter that begins a word: mostly the upper case. -/
def titleLetter (c : Char) : List Char :=
  ((mapLetter titleRuns titleExpansions c) <|> (mapLetter upperRuns upperExpansions c)).getD [c]

def inRanges (ranges : List (Nat × Nat)) (c : Char) : Bool :=
  ranges.any fun (first, last) => first ≤ c.toNat && c.toNat ≤ last

/-- Letters that have case. -/
def isCased (c : Char) : Bool :=
  inRanges casedRanges c

/-- Characters that the sigma rule passes over. -/
def isCaseIgnorable (c : Char) : Bool :=
  inRanges caseIgnorableRanges c

/-- Whether the next character that counts is a cased letter. -/
def meetsCased (text : List Char) : Bool :=
  (text.dropWhile isCaseIgnorable).head?.any isCased

/-- The lower case of a letter between the text before it, nearest character first, and the text after it. -/
def lowerBetween (before : List Char) (c : Char) (after : List Char) : List Char :=
  if c = 'Σ' then
    if meetsCased before && !meetsCased after then ['ς'] else ['σ']
  else lowerLetter c

/-- The lower case of a text that follows the characters `before`, nearest first. -/
def lowerAfter (before : List Char) : List Char → List Char
  | [] => []
  | c :: rest => lowerBetween before c rest ++ lowerAfter (c :: before) rest

/-- The title case of a text: a letter after a cased letter is lowered, the others are capital. -/
def titleAfter (before : List Char) : List Char → List Char
  | [] => []
  | c :: rest =>
      (if before.head?.any isCased then lowerBetween before c rest else titleLetter c) ++ titleAfter (c :: before) rest

end Crafting.Text

namespace String

open Crafting.Text

/-- The text in lower case. -/
def lowered (text : String) : String :=
  ofList (lowerAfter [] text.toList)

/-- The text in lower case, each letter taken by itself. -/
def loweredByLetter (text : String) : String :=
  ofList (text.toList.flatMap lowerLetter)

/-- The text in upper case. -/
def uppered (text : String) : String :=
  ofList (text.toList.flatMap upperLetter)

/-- The text with a capital at the start of each word. -/
def titled (text : String) : String :=
  ofList (titleAfter [] text.toList)

/-- The text with a capital first letter and all else in lower case. -/
def capitalized (text : String) : String :=
  match text.toList with
  | [] => ""
  | c :: rest => ofList (titleLetter c ++ lowerAfter [c] rest)

end String
