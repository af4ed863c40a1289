import ShapeCompiler.Command.Delivery

/-! Running commands on a tree of files. -/

namespace ShapeCompiler.Command

/-- The exit code, the lines that report a failure, and the files and standard output afterwards. -/
structure Outcome where
  code : Nat
  report : List String
  tree : Files.Tree

def Outcome.stdout (outcome : Outcome) : String :=
  Text.ofBytes outcome.tree.stdout.taken

def Outcome.success (tree : Files.Tree) : Outcome :=
  ⟨0, [], tree⟩

def Outcome.failure (tree : Files.Tree) (failure : Failure) : Outcome :=
  ⟨1, failure.report, tree⟩

/-- A success of which some lines tell. The program is aborted when standard output refuses one of them. -/
def Outcome.printing (tree : Files.Tree) (lines : List String) : Outcome :=
  match tree.printAll lines with
  | (after, none) => .success after
  | (after, some _) => ⟨101, [], after⟩

def Outcome.misuse (tree : Files.Tree) : Outcome :=
  ⟨2, [], tree⟩

def versionLine : String := "shaclc 0.3.0\n"

def padded (width : Nat) (text : String) : String :=
  text ++ String.ofList (List.replicate (width - text.length) ' ')

def targetLine (namesOnly : Bool) (target : Render.Target) : String :=
  if namesOnly then target.name ++ "\n" else padded 12 target.name ++ " " ++ target.help ++ "\n"

def listLines (namesOnly : Bool) : List String :=
  Render.Target.all.map (targetLine namesOnly)

def summaryLines (model : Model) (summary : Summary) : List String :=
  [summary.target.name ++ ": " ++ toString summary.classes ++ " classes, " ++
      toString summary.properties ++ " properties, " ++ toString model.individualCount ++
      " individuals\n",
    "  Written: " ++ summary.output ++ " (" ++ toString summary.bytes ++ " bytes)\n"]

def runGenerate (readers : Readers) (tree : Files.Tree) (stdin : StandardInput)
    (request : GenerateRequest) : Outcome :=
  match compile readers tree.read stdin request with
  | .error failure => .failure tree failure
  | .ok model =>
      match generate tree request.target model request.options request.output with
      | (after, .error failure) => .failure after failure
      | (after, .ok summary) =>
          if summary.output = standardStream then .success after
          else .printing after (summaryLines model summary)

def runWith (readers : Readers) (tree : Files.Tree) (stdin : StandardInput)
    (arguments : List String) : Outcome :=
  match readers.arguments arguments with
  | none => .misuse tree
  | some .help => .success tree
  | some .version => .printing tree [versionLine]
  | some (.list namesOnly) => .printing tree (listLines namesOnly)
  | some (.generate request) => runGenerate readers tree stdin request

def run (tree : Files.Tree) (stdin : String) (arguments : List String) : Outcome :=
  runWith ownReaders tree (.ok stdin) arguments

end ShapeCompiler.Command
