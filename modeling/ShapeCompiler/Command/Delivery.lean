import ShapeCompiler.Command.Compilation

/-! Rendering a model and bringing the text to where it is wanted. -/

namespace ShapeCompiler.Command

structure Summary where
  target : Render.Target
  classes : Nat
  properties : Nat
  bytes : Nat
  output : String

def Failure.ofDirectory (path : String) (fault : Files.Fault) : Failure :=
  ⟨"failed to create " ++ path, [fault.message]⟩

def Failure.ofFile (path : String) (fault : Files.Fault) : Failure :=
  ⟨"failed to write " ++ path, [fault.message]⟩

def Failure.ofPrinting (fault : Files.Fault) : Failure :=
  ⟨"failed to write to stdout", [fault.message]⟩

def makeParents (tree : Files.Tree) (path : String) : Files.Tree × Option Failure :=
  match Files.parent? path with
  | none => (tree, none)
  | some parent =>
      let made := tree.makeDirectories parent
      (made.1, made.2.map (Failure.ofDirectory parent))

def store (tree : Files.Tree) (path text : String) : Files.Tree × Option Failure :=
  match makeParents tree path with
  | (made, some failure) => (made, some failure)
  | (made, none) =>
      let written := made.write path text
      (written.1, written.2.map (Failure.ofFile path))

def summarize (target : Render.Target) (model : Model) (text output : String) : Summary :=
  ⟨target, model.classCount, model.propertyCount, text.utf8ByteSize, output⟩

/-- Brings a text to a file, unless the standard stream is wanted. -/
def deliver (tree : Files.Tree) (output text : String) : Files.Tree × Option Failure :=
  if output = standardStream then
    let printed := tree.print text
    (printed.1, printed.2.map Failure.ofPrinting)
  else store tree output text

def generate (tree : Files.Tree) (target : Render.Target) (model : Model)
    (options : Render.Options) (output : String) : Files.Tree × Except Failure Summary :=
  let text := target.render model options
  match deliver tree output text with
  | (after, some failure) => (after, .error failure)
  | (after, none) => (after, .ok (summarize target model text output))

end ShapeCompiler.Command
