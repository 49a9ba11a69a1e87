import RecordForms.Command

/-! The program: reads what a command needs, runs it, and prints the outcome. -/
namespace RecordForms

/-- The number of an error when a file is opened is the negative of the system's own. -/
def inputErrorOf : IO.Error → InputError
  | .noFileOrDirectory .. => .notFound
  | .inappropriateType _ code _ => if code = 21 then .isDirectory else .notDirectory
  | .invalidArgument _ code details =>
    if code = 0 - 36 then .nameTooLong else .other details
  | error => .other error.toString

def textOf (bytes : ByteArray) : Except InputError (Option String) :=
  match String.fromUTF8? bytes with
  | some text => .ok (some text)
  | none => .error .notText

/-- Reads a file or the standard input. A terminal counts as no input. -/
def readInput (path : Option String) : IO (Except InputError (Option String)) := do
  try
    match path with
    | some path => return textOf (← IO.FS.readBinFile path)
    | none =>
      let stdin ← IO.getStdin
      if ← stdin.isTty then return .ok none
      else return textOf (← stdin.readBinToEnd)
  catch error => return .error (inputErrorOf error)

def outcomeOf (args : List String) : IO Outcome := do
  match Command.parse? args with
  | none => return .misuse
  | some command =>
    let input ← if command.readsInput then readInput command.path? else pure (.ok none)
    return command.run input

end RecordForms

def main (args : List String) : IO UInt32 := do
  let outcome ← RecordForms.outcomeOf args
  IO.print outcome.out
  IO.eprint outcome.err
  return outcome.exit
