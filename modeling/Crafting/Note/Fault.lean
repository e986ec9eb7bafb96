import Crafting.Failure
import Crafting.Text.Quoted

/-!
# Faults of a block

Why a block holds no recipe, and the line at which its author finds the fault.
-/

namespace Crafting.Note

inductive Cause where
  /-- A line is no field. -/
  | notAField (line : String)
  /-- Another field than the expected one, or none. -/
  | missingField (key : String) (found : Option String)
  | unknownKind (name : String)
  | notARef (key value : String)
  | notAMaterial (key value : String)
  | notACount (key value : String)
  /-- The value has the right form and is refused all the same. -/
  | refused (failure : Failure)
  | unexpectedField (key : String)
  deriving DecidableEq

def Cause.message : Cause → String
  | notAField line => "expected 'Key: value', got " ++ line.quoted
  | missingField key (some found) => "expected '" ++ key ++ "', found '" ++ found ++ "'"
  | missingField key none => "expected '" ++ key ++ "', block ended"
  | unknownKind name => "unknown entity kind " ++ name.quoted
  | notARef key value => "'" ++ key ++ "' expects '<Kind> <id>', got " ++ value.quoted
  | notAMaterial key value => "'" ++ key ++ "' expects '<Kind> <id>, <quantity>', got " ++ value.quoted
  | notACount key value => "'" ++ key ++ "' expects a non-negative integer, got " ++ value.quoted
  | refused failure => failure.message
  | unexpectedField key => "unexpected field '" ++ key ++ "'"

/-- A fault of the author, with its line in the block where there is one. -/
structure Fault where
  cause : Cause
  line : Option Nat
  deriving DecidableEq

def Fault.message (fault : Fault) : String :=
  match fault.line with
  | none => fault.cause.message
  | some line => "line " ++ toString line ++ ": " ++ fault.cause.message

/-- Why a block cannot be read: it is malformed, or its cost is a numeral beyond the limit on digits. -/
inductive Refusal where
  | malformed (fault : Fault)
  | costTooLong (digits : Nat)
  deriving DecidableEq

end Crafting.Note
