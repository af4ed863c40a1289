import ShapeCompiler.Command.Run

/-! The program: it hands files and standard input to the commands, and puts their results where they
belong. -/

namespace ShapeCompiler

def usage : String :=
  "Usage: shaclc [-v] generate --input FILE [--context FILE]... [--output FILE] [--title TEXT] " ++
    "[--id TEXT] TARGET\n       shaclc [-v] list [--short]\n       shaclc [-v] version"

/-- The refusal that an error of the system stands for. Some errors carry their number negated. -/
def faultOf (error : IO.Error) : Files.Fault :=
  match error with
  | .noFileOrDirectory .. => .notFound
  | .alreadyExists .. => .exists
  | .invalidArgument _ code _ =>
      if code = 36 || code = -36 then .nameTooLong else .other error.toString
  | .inappropriateType _ code _ =>
      if code = 21 || code = -21 then .isDirectory
      else if code = 20 || code = -20 then .notDirectory
      else .other error.toString
  | _ => .other error.toString

partial def readRest (stream : IO.FS.Stream) (text : String) : IO String := do
  let line ← stream.getLine
  if line.isEmpty then return text else readRest stream (text ++ line)

def readText (path : String) : IO (Except Files.Fault String) := do
  match ← (IO.FS.readFile path).toBaseIO with
  | .ok text => return .ok text
  | .error error => return .error (faultOf error)

def readInput : IO Command.StandardInput := do
  return (← (readRest (← IO.getStdin) "").toBaseIO).mapError faultOf

def readTexts (paths : List String) : IO (List (String × Except Files.Fault String)) :=
  paths.mapM fun path => do return (path, ← readText path)

def writeText (path text : String) : IO (Except Command.Failure Unit) := do
  if let some parent := Files.parent? path then
    if let .error error ← (IO.FS.createDirAll parent).toBaseIO then
      return .error (Command.Failure.ofDirectory parent (faultOf error))
  match ← (IO.FS.writeFile path text).toBaseIO with
  | .ok _ => return .ok ()
  | .error error => return .error (Command.Failure.ofFile path (faultOf error))

def reportFailure (failure : Command.Failure) : IO UInt32 := do
  for line in failure.report do
    IO.eprintln line
  return 1

def printLast (lines : List String) : IO UInt32 := do
  for line in lines do
    if let .error _ ← (IO.print line).toBaseIO then
      return 101
  return 0

def generateFile (request : Command.GenerateRequest) : IO UInt32 := do
  let texts ← readTexts (request.input :: request.contexts)
  let stdin ← if request.input = Command.standardStream then readInput else pure (.ok "")
  let reading : Command.Reading := fun path => (texts.lookup path).getD (.error .notFound)
  match Command.compile Command.ownReaders reading stdin request with
  | .error failure => reportFailure failure
  | .ok model =>
      let text := request.target.render model request.options
      let summary := Command.summarize request.target model text request.output
      if request.output = Command.standardStream then
        match ← (IO.print text).toBaseIO with
        | .ok _ => return 0
        | .error error => reportFailure (Command.Failure.ofPrinting (faultOf error))
      else
        match ← writeText request.output text with
        | .ok _ => printLast (Command.summaryLines model summary)
        | .error failure => reportFailure failure

def runProgram (arguments : List String) : IO UInt32 := do
  match Command.ownReaders.arguments arguments with
  | none =>
      IO.eprintln usage
      return 2
  | some .help =>
      IO.println usage
      return 0
  | some .version => printLast [Command.versionLine]
  | some (.list namesOnly) => printLast (Command.listLines namesOnly)
  | some (.generate request) => generateFile request

end ShapeCompiler

def main (arguments : List String) : IO UInt32 :=
  ShapeCompiler.runProgram arguments
