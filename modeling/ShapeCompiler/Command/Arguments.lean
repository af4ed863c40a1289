import ShapeCompiler.Render.Target

/-! The command line: what the program may be asked to do, and how arguments say so. -/

namespace ShapeCompiler.Command

structure GenerateRequest where
  input : String
  contexts : List String
  target : Render.Target
  output : String
  options : Render.Options

inductive Action where
  | generate (request : GenerateRequest)
  | list (namesOnly : Bool)
  | version
  | help

def standardStream : String := "-"

structure Settings where
  input : Option String
  contexts : List String
  target : Option Render.Target
  output : Option String
  title : Option String
  id : Option String

namespace Settings

def empty : Settings := ⟨none, [], none, none, none, none⟩

/-- A path is not empty, and only contexts may be given more than once. -/
def setOption? (settings : Settings) (option value : String) : Option Settings :=
  match option with
  | "input" =>
      if value = "" || settings.input.isSome then none
      else some { settings with input := some value }
  | "context" =>
      if value = "" then none else some { settings with contexts := settings.contexts ++ [value] }
  | "output" =>
      if value = "" || settings.output.isSome then none
      else some { settings with output := some value }
  | "title" =>
      if settings.title.isSome then none else some { settings with title := some value }
  | "id" => if settings.id.isSome then none else some { settings with id := some value }
  | _ => none

def setTarget? (settings : Settings) (name : String) : Option Settings :=
  if settings.target.isSome then none
  else (Render.Target.ofName? name).map fun target => { settings with target := some target }

def request? (settings : Settings) : Option GenerateRequest := do
  let input ← settings.input
  let target ← settings.target
  return {
    input := input
    contexts := settings.contexts
    target := target
    output := settings.output.getD standardStream
    options := ⟨settings.title, settings.id⟩ }

end Settings

def shortOption? : Char → Option String
  | 'i' => some "input"
  | 'c' => some "context"
  | 'o' => some "output"
  | _ => none

inductive Argument where
  | verbose
  | help
  | endOfOptions
  | value (option : String)
  | valued (option value : String)
  | flag (name : String)
  | plain (text : String)
  | unknown

/-- Letters behind one hyphen: any number of `v`, then perhaps an option with its value attached. -/
def ofLetters : List Char → Argument
  | [] => .verbose
  | 'v' :: letters => ofLetters letters
  | 'h' :: _ => .help
  | letter :: rest =>
      match shortOption? letter with
      | none => .unknown
      | some option =>
          match rest with
          | [] => .value option
          | '=' :: value => .valued option (String.ofList value)
          | value => .valued option (String.ofList value)

def takesValue (name : String) : Bool :=
  ["input", "context", "output", "title", "id"].contains name

def ofWord (word : List Char) : Argument :=
  match word.span (· != '=') with
  | (name, _ :: value) =>
      if takesValue (String.ofList name) then .valued (String.ofList name) (String.ofList value)
      else .unknown
  | (name, []) =>
      let name := String.ofList name
      if takesValue name then .value name
      else if name = "verbose" then .verbose
      else if name = "help" then .help
      else .flag name

def Argument.ofText (text : String) : Argument :=
  match text.toList with
  | '-' :: '-' :: [] => .endOfOptions
  | '-' :: '-' :: word => ofWord word
  | '-' :: letter :: letters => ofLetters (letter :: letters)
  | _ => .plain text

/-- A value that follows its option must not look like an option; a single hyphen does not. -/
def isValue (text : String) : Bool :=
  match text.toList with
  | '-' :: _ :: _ => false
  | _ => true

def readTargets? (settings : Settings) : List String → Option Settings
  | [] => some settings
  | text :: rest => (settings.setTarget? text).bind fun settings => readTargets? settings rest

def readGenerate? (settings : Settings) : List String → Option Action
  | [] => settings.request?.map .generate
  | text :: rest =>
      match Argument.ofText text with
      | .verbose => readGenerate? settings rest
      | .help => some .help
      | .endOfOptions =>
          (readTargets? settings rest).bind fun settings => settings.request?.map .generate
      | .value option =>
          match rest with
          | [] => none
          | value :: rest =>
              if isValue value then
                (settings.setOption? option value).bind fun settings => readGenerate? settings rest
              else none
      | .valued option value =>
          (settings.setOption? option value).bind fun settings => readGenerate? settings rest
      | .plain target =>
          (settings.setTarget? target).bind fun settings => readGenerate? settings rest
      | .flag _ | .unknown => none

def readList? (namesOnly : Bool) : List String → Option Action
  | [] => some (.list namesOnly)
  | text :: rest =>
      match Argument.ofText text with
      | .verbose => readList? namesOnly rest
      | .help => some .help
      | .flag "short" => if namesOnly then none else readList? true rest
      | .endOfOptions => if rest.isEmpty then some (.list namesOnly) else none
      | _ => none

def readVersion? : List String → Option Action
  | [] => some .version
  | text :: rest =>
      match Argument.ofText text with
      | .verbose => readVersion? rest
      | .help => some .help
      | .endOfOptions => if rest.isEmpty then some .version else none
      | _ => none

def readHelp? : List String → Option Action
  | [] => some .help
  | [name] => if ["generate", "list", "version", "help"].contains name then some .help else none
  | _ => none

def read? : List String → Option Action
  | [] => none
  | text :: rest =>
      match Argument.ofText text with
      | .verbose => read? rest
      | .help => some .help
      | .plain "generate" => readGenerate? .empty rest
      | .plain "list" => readList? false rest
      | .plain "version" => readVersion? rest
      | .plain "help" => readHelp? rest
      | _ => none

end ShapeCompiler.Command
