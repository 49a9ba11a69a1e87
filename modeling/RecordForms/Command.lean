import RecordForms.FileTree
import RecordForms.Model.Session
import RecordForms.RecordModule
import RecordForms.Stored.Load
import RecordForms.Stored.Save

/-! What the program does for its user: generate the code of a stored document, or check the
document. The arguments and the outcome are data; reading files and printing are left to the
program itself. -/
namespace RecordForms

inductive CommandError where
  | load (cause : LoadError)
  | denied (diagnostics : List Diagnostic)
  | input (cause : InputError)
  | noInput

def CommandError.message : CommandError → String
  | .load cause => "Invalid document: " ++ cause.message
  | .denied diagnostics => "Generation failed: " ++ deniedMessage diagnostics
  | .input cause => "IO error: " ++ cause.message
  | .noInput => "No input provided. Use --input or pipe a document to stdin."

def loadInput (input : Option String) : Except CommandError Document :=
  match input with
  | none => .error .noInput
  | some text => (Document.ofText text).mapError .load

def generateFrom (input : Option String) (options : Options) : Except CommandError String := do
  let doc ← loadInput input
  ((generate doc options).accepted options.policy).mapError .denied

structure Report where
  size : Nat
  dangling : List Dangling
  diagnostics : List Diagnostic

def Report.isClean (report : Report) : Bool :=
  report.dangling.isEmpty && report.diagnostics.isEmpty

def checkFrom (input : Option String) (options : Options) : Except CommandError Report := do
  let doc ← loadInput input
  return ⟨doc.size, doc.dangling, (generate doc options).diagnostics⟩

def Report.lines (report : Report) : List String :=
  [Nat.repr report.size ++ " objects"]
    ++ report.dangling.map (fun d =>
      "dangling reference: " ++ d.node ++ "." ++ d.property ++ " -> " ++ d.target)
    ++ report.diagnostics.map Diagnostic.display
    ++ if report.isClean then ["Document is valid"] else []

/-- A command with its arguments. Without a path the standard input is read. -/
inductive Command where
  | generate (path : Option String) (indentWidth : UInt64) (policy : Policy)
  | check (path : Option String)
  | version
  | help

namespace Command

structure Given where
  path : Option String := none
  indentWidth : Option UInt64 := none
  deny : Bool := false
  help : Bool := false

/-- An option may be given once, and a path is not empty. -/
def Given.withPath? (given : Given) (path : String) : Option Given :=
  if given.path.isSome || path.isEmpty then none else some { given with path }

def width? (text : String) : Option UInt64 :=
  (naturalBelow? (twoTo 64) text.toList).map UInt64.ofNat

def Given.withWidth? (given : Given) (text : String) : Option Given :=
  if given.indentWidth.isSome then none
  else (width? text).map fun width => { given with indentWidth := some width }

def Given.withDeny? (given : Given) : Option Given :=
  if given.deny then none else some { given with deny := true }

/-- What follows the name of an option as its value: anything but another option. -/
def isArgument (text : String) : Bool :=
  text.toList.head? != some '-' || text == "-"

def behind? (start text : String) : Option String :=
  if start.toList.isPrefixOf text.toList then
    some (String.ofList (text.toList.drop start.toList.length))
  else none

def attached? (start text : String) : Option String :=
  (behind? start text).map fun value => (behind? "=" value).getD value

def option? (withCode : Bool) (given : Given) (arg : String) :
    Option (Given ⊕ (String → Option Given)) :=
  if arg = "--input" || arg = "-i" then some (.inr given.withPath?)
  else if withCode && arg = "--indent" then some (.inr given.withWidth?)
  else if withCode && arg = "--deny-diagnostics" then given.withDeny?.map .inl
  else
    match behind? "--input=" arg, behind? "--indent=" arg, attached? "-i" arg with
    | some path, _, _ => (given.withPath? path).map .inl
    | none, some text, _ => if withCode then (given.withWidth? text).map .inl else none
    | none, none, some path => (given.withPath? path).map .inl
    | none, none, none => none

def isHelp (arg : String) : Bool := arg == "--help" || (behind? "-h" arg).isSome

def options? (withCode : Bool) (given : Given) : List String → Option Given
  | [] => some given
  | ["--"] => some given
  | arg :: rest =>
    if isHelp arg then some { given with help := true }
    else
      match option? withCode given arg, rest with
      | some (.inl given), rest => options? withCode given rest
      | some (.inr take), value :: rest =>
        if isArgument value then (take value).bind fun given => options? withCode given rest
        else none
      | _, _ => none

/-- What help can be asked about: the whole program or one of its commands. No command has
commands of its own. -/
def isTopic : List String → Bool
  | [] => true
  | [name] => name == "generate" || name == "check" || name == "help"
  | _ => false

def parse? : List String → Option Command
  | [] => none
  | first :: rest =>
    if first = "--version" || (behind? "-V" first).isSome then some .version
    else if isHelp first then some .help
    else if first = "help" then if isTopic rest then some .help else none
    else if first = "generate" then
      (options? true {} rest).map fun given =>
        if given.help then .help
        else .generate given.path (given.indentWidth.getD Fragment.defaultWidth)
          (if given.deny then .deny else .warn)
    else if first = "check" then
      (options? false {} rest).map fun given => if given.help then .help else .check given.path
    else none

def path? : Command → Option String
  | .generate path _ _ => path
  | .check path => path
  | _ => none

def readsInput : Command → Bool
  | .generate .. | .check _ => true
  | _ => false

end Command

structure Outcome where
  exit : UInt32
  out : String
  err : String

namespace Outcome

def success (out : String) : Outcome := ⟨0, out, ""⟩

def failure (error : CommandError) : Outcome := ⟨1, "", error.message ++ "\n"⟩

def usage : String :=
  "Usage: formgen generate [-i PATH] [--indent N] [--deny-diagnostics]\n" ++
  "       formgen check [-i PATH]\n" ++
  "       formgen --version\n"

def misuse : Outcome := ⟨2, "", usage⟩

def ofReport (report : Report) : Outcome :=
  ⟨if report.isClean then 0 else 1, String.join (report.lines.map (· ++ "\n")), ""⟩

end Outcome

/-- Runs a command on what was read for it, which is nothing when no text is on its way. -/
def Command.run (command : Command) (input : Except InputError (Option String)) : Outcome :=
  match command, input with
  | .version, _ => .success "formgen 0.2.0\n"
  | .help, _ => .success Outcome.usage
  | _, .error cause => .failure (.input cause)
  | .generate _ indentWidth policy, .ok input =>
    match generateFrom input { indentWidth, policy } with
    | .ok code => .success code
    | .error error => .failure error
  | .check _, .ok input =>
    match checkFrom input {} with
    | .ok report => .ofReport report
    | .error error => .failure error

def Command.runIn (command : Command) (tree : FileTree) (stdin : String) : Outcome :=
  command.run (match command.path? with
    | none => .ok (some stdin)
    | some path => (tree.read path).map some)

end RecordForms
