/-!
# Format codes

Colour codes stand in a text between double brackets. For a plain terminal they are taken out; other text between double
brackets stays, and a line end closes no bracket.
-/

namespace Crafting.FormatCode

inductive Code where
  | red
  | yellow
  | green
  | cyan
  | reset
  deriving DecidableEq

def Code.word : Code → String
  | .red => "RED"
  | .yellow => "YELLOW"
  | .green => "GREEN"
  | .cyan => "CYAN"
  | .reset => "/"

def Code.text (code : Code) : String :=
  "[[" ++ code.word ++ "]]"

def all : List Code := [.red, .yellow, .green, .cyan, .reset]

def isWord (body : List Char) : Bool :=
  all.any fun code => code.word.toList == body

/-- A text between a code and the reset. -/
def paint (code : Code) (text : String) : String :=
  code.text ++ text ++ Code.reset.text

/-- What stands before the next closing brackets on this line, and what follows them. -/
def takeBody? : List Char → Option (List Char × List Char)
  | [] => none
  | ']' :: ']' :: rest => some ([], rest)
  | c :: rest => if c = '\n' then none else (takeBody? rest).map fun (body, after) => (c :: body, after)

theorem length_of_takeBody? {text body after : List Char} (h : takeBody? text = some (body, after)) :
    after.length < text.length := by
  fun_induction takeBody? text generalizing body after with
  | case1 => simp at h
  | case2 rest =>
      simp only [Option.some.injEq, Prod.mk.injEq] at h
      rw [← h.2, List.length_cons, List.length_cons]
      omega
  | case3 => simp at h
  | case4 c rest _ hc ih =>
      obtain ⟨⟨b, a⟩, hb, hp⟩ := Option.map_eq_some_iff.1 h
      simp only [Prod.mk.injEq] at hp
      have := ih hb
      rw [← hp.2, List.length_cons]
      omega

/-- The text without codes. -/
def strip : List Char → List Char
  | '[' :: '[' :: rest =>
      match h : takeBody? rest with
      | some (body, after) =>
          have := length_of_takeBody? h
          if isWord body then strip after else "[[".toList ++ body ++ "]]".toList ++ strip after
      | none => '[' :: strip ('[' :: rest)
  | c :: rest => c :: strip rest
  | [] => []
termination_by text => text.length

end Crafting.FormatCode

/-- The text without colour codes. -/
def String.withoutCodes (text : String) : String :=
  String.ofList (Crafting.FormatCode.strip text.toList)
