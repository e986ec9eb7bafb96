import Crafting.Game

/-!
# The command line

Plays a game at a text prompt. The data directory and the party file can be given; the text prompt has to be asked for,
since there is no display to open a window on.
-/

namespace Crafting.CommandLine

structure Options where
  data : String := "data"
  party : String := "data/party.json"
  text : Bool := false

def usage : String :=
  "usage: crafting [--data DIR] [--party FILE] [--text]"

def parse (options : Options) : List String → Option Options
  | [] => some options
  | "--text" :: rest | "-t" :: rest => parse { options with text := true } rest
  | "--data" :: dir :: rest | "-d" :: dir :: rest => parse { options with data := dir } rest
  | "--party" :: file :: rest | "-p" :: file :: rest => parse { options with party := file } rest
  | _ => none

/-- What is found at a path. -/
def readFile (path : String) : IO DataFile := do
  try
    return .bytes (← IO.FS.readBinFile path).toList
  catch
    | .noFileOrDirectory .. => return .absent
    | _ => return .unreadable

/-- The entries worth writing by default are those above debugging. -/
def gate : Log.Gate := ⟨1⟩

/-- Writes what an act reported. -/
def writeLog (log : List Log.Entry) : IO Unit := do
  for line in gate.lines log do IO.println line

/-- Ends with a failure's message. -/
def giveUp (failure : Failure) : IO UInt32 := do
  IO.eprintln ("error: " ++ failure.message)
  return 1

abbrev TextSession := Session (Faulty Party) Game.Speaker Unit

/-- Runs an act of a session and writes what it printed. -/
def step {α : Type} (act : Act TextSession α) (session : TextSession) : IO (Except Failure α × TextSession) := do
  let run := act session
  writeLog run.log
  IO.print run.state.printed
  (← IO.getStdout).flush
  return (run.value, { run.state with printed := "" })

/-- Prompts and answers until the session ends. -/
partial def loop (stdin : IO.FS.Stream) (session : TextSession) : IO UInt32 := do
  let (_, session) ← step (Session.print Session.promptText) session
  let line ← stdin.getLine
  if line.isEmpty then return 0
  let (result, session) ← step (Session.respond (line.dropEndWhile '\n').copy) session
  match result with
  | .ok true => loop stdin session
  | .ok false => return 0
  | .error failure => giveUp failure

def play (options : Options) : IO UInt32 := do
  let files ← Kind.all.mapM fun kind => do
    return (kind, ← readFile (pathIn options.data (Registry.fileName kind)))
  let source : Game.Source := {
    directory := options.data, partyPath := options.party
    dataFile := fun kind => (Assoc.get? kind files).getD .absent
    partyFile := ← readFile options.party }
  let loaded := (Game.load source : Act Unit _) ()
  writeLog loaded.log
  match loaded.value with
  | .error failure => giveUp failure
  | .ok (registry, inventory) =>
      let (result, session) ← step Session.start { workshop := Game.textWorkshop registry inventory }
      match result with
      | .error failure => giveUp failure
      | .ok () => loop (← IO.getStdin) session

end Crafting.CommandLine

def main (args : List String) : IO UInt32 := do
  match Crafting.CommandLine.parse {} args with
  | none => do
      IO.eprintln Crafting.CommandLine.usage
      return 2
  | some options =>
      if options.text then Crafting.CommandLine.play options
      else do
        IO.eprintln "error: no display for a window; use --text"
        return 1
