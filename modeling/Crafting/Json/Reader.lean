import Crafting.Assoc
import Crafting.Json.Value

/-!
# Reading JSON

A text is cut into tokens, and the tokens are read by a machine with a stack of open arrays and objects. Of several
faults the first in the text wins. `NaN`, `Infinity` and `-Infinity` are numbers; a key that comes again replaces the
value and keeps its place; a control character inside a string is refused.
-/

namespace Crafting.Json

/-! ## Numbers -/

/-- A number as it is written. -/
structure NumberText where
  negative : Bool
  whole : List Char
  fraction : List Char
  exponent : Option (Bool × List Char)

def digitValue (digits : List Char) : Nat :=
  digits.foldl (fun n c => 10 * n + (c.toNat - 48)) 0

/-- The nearest float to `digits * 10 ^ power`. -/
def nearestFloat (digits : List Char) (power : Int) : Float :=
  let digits := digits.dropWhile (· == '0')
  if digits.isEmpty then 0
  else if digits.length + power > 400 then 1 / 0
  else if digits.length + power < -400 then 0
  else if power < 0 then Binary.nearest (digitValue digits) (Nat.pow 10 power.natAbs)
  else Binary.nearest (digitValue digits * Nat.pow 10 power.natAbs) 1

/-- The value of a number. Only a whole one may have a limit on its digits. -/
def NumberText.value (text : NumberText) (limit : Option Nat) : Except Failure Json :=
  if text.fraction.isEmpty && text.exponent.isNone then
    if limit.any (· < text.whole.length) then .error (.tooManyDigits text.whole.length)
    else .ok (.whole (if text.negative then -(digitValue text.whole) else digitValue text.whole))
  else
    let power : Int := match text.exponent with
      | none => 0
      | some (negative, digits) => if negative then -(digitValue digits) else digitValue digits
    let size := nearestFloat (text.whole ++ text.fraction) (power - text.fraction.length)
    .ok (.float (if text.negative then -size else size))

def isAsciiDigit (c : Char) : Bool :=
  '0' ≤ c && c ≤ '9'

/-- A fraction, if a point and a digit stand next. -/
def takeFraction : List Char → List Char × List Char
  | '.' :: rest =>
      match rest.span isAsciiDigit with
      | ([], _) => ([], '.' :: rest)
      | split => split
  | rest => ([], rest)

/-- The digits of an exponent behind its letter and sign. -/
def takeExponentDigits (text : List Char) (negative : Bool) (rest : List Char) :
    Option (Bool × List Char) × List Char :=
  match rest.span isAsciiDigit with
  | ([], _) => (none, text)
  | (digits, after) => (some (negative, digits), after)

/-- An exponent, if one stands next. -/
def takeExponent (text : List Char) : Option (Bool × List Char) × List Char :=
  match text with
  | 'e' :: '-' :: rest | 'E' :: '-' :: rest => takeExponentDigits text true rest
  | 'e' :: '+' :: rest | 'E' :: '+' :: rest => takeExponentDigits text false rest
  | 'e' :: rest | 'E' :: rest => takeExponentDigits text false rest
  | _ => (none, text)

/-- The number that begins a text: a zero on its own or digits without a zero in front. -/
def takeNumber? (text : List Char) : Option (NumberText × List Char) :=
  let (negative, rest) := match text with
    | '-' :: rest => (true, rest)
    | rest => (false, rest)
  let split := match rest with
    | '0' :: after => (['0'], after)
    | _ => rest.span isAsciiDigit
  match split with
  | ([], _) => none
  | (digits, after) =>
      let (fraction, after) := takeFraction after
      let (exponent, after) := takeExponent after
      some (⟨negative, digits, fraction, exponent⟩, after)

/-! ## Strings -/

def hexValue? (c : Char) : Option Nat :=
  if '0' ≤ c && c ≤ '9' then some (c.toNat - 48)
  else if 'a' ≤ c && c ≤ 'f' then some (c.toNat - 87)
  else if 'A' ≤ c && c ≤ 'F' then some (c.toNat - 55)
  else none

def hexValue4? (a b c d : Char) : Option Nat := do
  return 4096 * (← hexValue? a) + 256 * (← hexValue? b) + 16 * (← hexValue? c) + (← hexValue? d)

/-- The character behind a backslash, `u` apart. -/
def escaped? : Char → Option Nat
  | '"' => some 0x22
  | '\\' => some 0x5C
  | '/' => some 0x2F
  | 'b' => some 0x08
  | 'f' => some 0x0C
  | 'n' => some 0x0A
  | 'r' => some 0x0D
  | 't' => some 0x09
  | _ => none

/-- The code units of a string up to its closing quote, and what follows it. -/
def takeString? : List Char → Option (List Nat × List Char)
  | [] => none
  | '"' :: rest => some ([], rest)
  | '\\' :: 'u' :: a :: b :: c :: d :: rest => do
      let unit ← hexValue4? a b c d
      let (units, after) ← takeString? rest
      return (unit :: units, after)
  | '\\' :: c :: rest => do
      let unit ← escaped? c
      let (units, after) ← takeString? rest
      return (unit :: units, after)
  | c :: rest =>
      if c = '\\' || c.toNat < 0x20 then none
      else (takeString? rest).map fun (units, after) => (c.toNat :: units, after)

/-- The code points of code units. A high and a low half make one character; a half on its own stays one. -/
def joinHalves : List Nat → List Nat
  | [] => []
  | high :: low :: rest =>
      if 0xD800 ≤ high && high < 0xDC00 && 0xDC00 ≤ low && low < 0xE000 then
        (0x10000 + (high - 0xD800) * 0x400 + (low - 0xDC00)) :: joinHalves rest
      else high :: joinHalves (low :: rest)
  | [unit] => [unit]

/-! ## Tokens -/

inductive Token where
  | openArray
  | closeArray
  | openObject
  | closeObject
  | colon
  | comma
  | string (points : List Nat)
  | number (text : NumberText)
  | constant (value : Json)
  | stray

def constants : List (List Char × Json) := [
  ("null".toList, .null), ("true".toList, .bool true), ("false".toList, .bool false),
  ("NaN".toList, .float (0 / 0)), ("Infinity".toList, .float (1 / 0)), ("-Infinity".toList, .float (-1 / 0))]

/-- The constant that begins a text. -/
def takeConstant? (text : List Char) : Option (Json × List Char) :=
  (constants.find? fun (word, _) => word.isPrefixOf text).map fun (word, value) => (value, text.drop word.length)

/-- The token that begins a text, and what follows it. -/
def nextToken (text : List Char) : Token × List Char :=
  match text with
  | '[' :: rest => (.openArray, rest)
  | ']' :: rest => (.closeArray, rest)
  | '\x7b' :: rest => (.openObject, rest)
  | '\x7d' :: rest => (.closeObject, rest)
  | ':' :: rest => (.colon, rest)
  | ',' :: rest => (.comma, rest)
  | '"' :: rest =>
      match takeString? rest with
      | some (units, after) => (.string (joinHalves units), after)
      | none => (.stray, [])
  | _ =>
      match takeNumber? text with
      | some (number, after) => (.number number, after)
      | none =>
          match takeConstant? text with
          | some (value, after) => (.constant value, after)
          | none => (.stray, [])

def isSpace (c : Char) : Bool :=
  c == ' ' || c == '\t' || c == '\n' || c == '\r'

/-- At most `fuel` tokens of a text. -/
def tokensUpTo : (fuel : Nat) → List Char → List Token
  | 0, _ => []
  | fuel + 1, text =>
      match text.dropWhile isSpace with
      | [] => []
      | rest =>
          let (token, after) := nextToken rest
          token :: tokensUpTo fuel after

/-- The tokens of a text. Every token takes at least one character, so none is left. -/
def tokens (text : List Char) : List Token :=
  tokensUpTo text.length text

/-! ## The machine -/

/-- An open array with its items, last first, or an open object with its fields and the key whose value is awaited. -/
inductive Frame where
  | array (items : List Json)
  | object (fields : List (String × Json)) (key : String)

/-- What may come next. -/
inductive Expect where
  | value
  | itemOrEnd
  | keyOrEnd
  | key (fields : List (String × Json))
  | colon
  | separator
  | nothing (result : Json)

structure Machine where
  stack : List Frame := []
  expect : Expect := .value

/-- A value is complete. -/
def Machine.put (stack : List Frame) (value : Json) : Machine :=
  match stack with
  | [] => ⟨[], .nothing value⟩
  | .array items :: rest => ⟨.array (value :: items) :: rest, .separator⟩
  | .object fields key :: rest => ⟨.object (Assoc.put key value fields) key :: rest, .separator⟩

/-- The token that begins a value. -/
def Machine.begin (limit : Option Nat) (stack : List Frame) : Token → Except Failure Machine
  | .openArray => .ok ⟨.array [] :: stack, .itemOrEnd⟩
  | .openObject => .ok ⟨stack, .keyOrEnd⟩
  | .string points => .ok (put stack (.ofPoints points))
  | .number text => (text.value limit).map (put stack)
  | .constant value => .ok (put stack value)
  | _ => .error .malformed

/-- Reads one token, where `limit` is the most digits that a whole number may have. In a key halves are replaced. -/
def Machine.step (limit : Option Nat) (machine : Machine) (token : Token) : Except Failure Machine :=
  match machine.expect, token, machine.stack with
  | .value, token, stack => begin limit stack token
  | .itemOrEnd, .closeArray, .array items :: rest => .ok (put rest (.array items.reverse))
  | .itemOrEnd, token, stack => begin limit stack token
  | .keyOrEnd, .closeObject, stack => .ok (put stack (.object []))
  | .keyOrEnd, .string key, stack => .ok ⟨.object [] (textOfPoints key) :: stack, .colon⟩
  | .key fields, .string key, stack => .ok ⟨.object fields (textOfPoints key) :: stack, .colon⟩
  | .colon, .colon, stack => .ok ⟨stack, .value⟩
  | .separator, .comma, .array items :: rest => .ok ⟨.array items :: rest, .value⟩
  | .separator, .closeArray, .array items :: rest => .ok (put rest (.array items.reverse))
  | .separator, .comma, .object fields _ :: rest => .ok ⟨rest, .key fields⟩
  | .separator, .closeObject, .object fields _ :: rest => .ok (put rest (.object fields))
  | _, _, _ => .error .malformed

/-- Reads the tokens of one value and nothing after it. -/
def Machine.run (limit : Option Nat) (machine : Machine) : List Token → Except Failure Json
  | [] =>
      match machine.expect with
      | .nothing result => .ok result
      | _ => .error .malformed
  | token :: rest =>
      match machine.step limit token with
      | .ok next => next.run limit rest
      | .error failure => .error failure

/-- Reads a text that holds one value, in which whole numbers may be of any length unless there is a limit. -/
def readWithin (limit : Option Nat) (text : String) : Except Failure Json :=
  ({} : Machine).run limit (tokens text.toList)

/-- Reads a text that holds one value. -/
def read (text : String) : Except Failure Json :=
  readWithin (some Text.Numeral.maxDigits) text

end Crafting.Json
