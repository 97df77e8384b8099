import LintFindings.CommandLine.Run

/-! The program: it looks up what a run may need, runs, and prints. -/

namespace LintFindings.Program

open CommandLine

/-- What reading a path failed for, by the number of the system's fault, which has either sign. -/
def faultOfCode (code : UInt32) : PathFault :=
  match code.toInt32.toInt.natAbs with
  | 13 => .locked
  | 20 => .notFolder
  | 21 => .isFolder
  | 36 => .nameTooLong
  | _ => .missing

def faultOf : IO.Error → PathFault
  | .noFileOrDirectory _ code _ => faultOfCode code
  | .inappropriateType _ code _ => faultOfCode code
  | .invalidArgument _ code _ => faultOfCode code
  | .resourceExhausted _ code _ => faultOfCode code
  | .permissionDenied _ code _ => faultOfCode code
  | .otherError code _ => faultOfCode code
  | _ => .missing

def nodeAt (path : Text) : IO (Except PathFault Node) := do
  try
    let bytes ← IO.FS.readBinFile (String.ofList path)
    return .ok (.file bytes.toList)
  catch fault =>
    match faultOf fault with
    | .isFolder => return .ok .folder
    | fault => return .error fault

partial def readStream (stream : IO.FS.Stream) (before : ByteArray) : IO ByteArray := do
  let bytes ← stream.read 65536
  if bytes.isEmpty then return before else readStream stream (before ++ bytes)

def variableNames : List Text :=
  "HOME".toList :: Terminal.variableNames ++
    Settings.variableTable.map (fun (_, source, _) => source)

def readVariables : IO (List (Text × Text)) := do
  let mut found := []
  for name in variableNames do
    if let some value ← IO.getEnv (String.ofList name) then
      found := (name, value.toList) :: found
  return found

def contextFor (arguments : List Text) : IO RunContext := do
  let work := (← IO.currentDir).toString.toList
  let found ← readVariables
  let environment : Variables := fun name => found.lookup name
  let home := Settings.homeFolder environment ['/']
  let request := Request.ofArguments? arguments
  let mut nodes := []
  for path in (request.map (consulted home work)).getD [] do
    nodes := (path, ← nodeAt path) :: nodes
  let mut input := []
  if request.any readsStream then
    input := (← readStream (← IO.getStdin) .empty).toList
  return {
    account := ['/']
    work, input, environment
    look := fun path => (nodes.lookup path).getD (.error .missing)
    interrupted := false
    terminal := ← (← IO.getStdout).isTty
    helpPage := fun _ _ => plainHelp }

def escapeText : Escape → String
  | .notUtf8 => "The settings are not UTF-8."
  | .digitLimit => "An integer has too many digits."
  | .nestingLimit => "Values are nested too deep."
  | .unreadableSize => "The size of the terminal is no number."
  | .noHome => "There is no home folder."
  | .unencodable => "The report holds half of a surrogate pair."
  | .path fault => String.ofList fault.reason

def perform (arguments : List Text) : IO UInt32 := do
  let outcome := run (← contextFor arguments) .untouched arguments
  for record in outcome.records do
    IO.eprintln (String.ofList record.shown)
  if let some line := outcome.ending.errorLine? then
    IO.eprintln ("Error: " ++ String.ofList line)
  match outcome.ending with
  | .misused => IO.eprintln "Usage: lint-report [OPTIONS] [RESULTS]"
  | .escaped cause => IO.eprintln (escapeText cause)
  | _ => pure ()
  IO.print (String.ofList outcome.ending.output)
  return outcome.ending.exitCode.toUInt32

end LintFindings.Program

def main (arguments : List String) : IO UInt32 :=
  LintFindings.Program.perform (arguments.map String.toList)
