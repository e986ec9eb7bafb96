/-!
# Tags and blocks

A note holds recipe blocks between the tags `<recipe>` and `</recipe>`. The letters of a tag match in either case, and
the letter `i` matches both dotted and dotless forms. Blocks are searched for from the left: one begins at an opener and
ends with the first closer after it, unless another opener stands before that closer. The search goes on behind a block,
and where no block begins, one character further.
-/

namespace Crafting.Note

def openTag : List Char := "<recipe>".toList

def closeTag : List Char := "</recipe>".toList

/-- Whether a character of a note stands for a character of a tag. -/
def matchesLetter (tag c : Char) : Bool :=
  c.toLower == tag || (tag == 'i' && (c == 'İ' || c == 'ı'))

/-- Whether a text begins with a tag. -/
def beginsWith : (tag text : List Char) → Bool
  | [], _ => true
  | _ :: _, [] => false
  | t :: tag, c :: text => matchesLetter t c && beginsWith tag text

/-- What stands before the first closer of a text that follows an opener, unless another opener comes first. -/
def bodyOf? : List Char → Option (List Char)
  | [] => none
  | c :: rest =>
      if beginsWith closeTag (c :: rest) then some []
      else if beginsWith openTag (c :: rest) then none
      else (bodyOf? rest).map (c :: ·)

/-- The body of the block that begins with the text, if one does. -/
def blockAt? (text : List Char) : Option (List Char) :=
  if beginsWith openTag text then bodyOf? (text.drop openTag.length) else none

/-- The bodies of the blocks of a text whose first `skip` characters belong to a block that was already found. -/
def blocksFrom : (skip : Nat) → List Char → List (List Char)
  | _, [] => []
  | skip + 1, _ :: rest => blocksFrom skip rest
  | 0, c :: rest =>
      match blockAt? (c :: rest) with
      | none => blocksFrom 0 rest
      | some body => body :: blocksFrom (openTag.length + body.length + closeTag.length - 1) rest

/-- The bodies of the blocks of a note. -/
def blocks (note : List Char) : List (List Char) :=
  blocksFrom 0 note

end Crafting.Note
