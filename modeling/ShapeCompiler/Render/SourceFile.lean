import ShapeCompiler.Text.Cut

/-! Source files under construction: a header with documentation of the module, then lines, blank
lines and documentation comments. The finished text ends in exactly one line end. -/

namespace ShapeCompiler.Render

inductive Entry where
  | line (text : String)
  | doc (indent text : String)

namespace Entry

def blank : Entry := line ""

def docLine (mark text : String) : String :=
  if text = "" then mark ++ "\n" else mark ++ " " ++ text ++ "\n"

/-- A documentation comment has a line for each line of its text, and one if there is none. -/
def text : Entry → String
  | line text => text ++ "\n"
  | doc indent text =>
      let mark := indent ++ "///"
      if text = "" then docLine mark ""
      else String.join ((Text.lines text).map (docLine mark))

end Entry

structure SourceFile where
  moduleDoc : String
  entries : List Entry

namespace SourceFile

def header (moduleDoc : String) : String :=
  String.join ((Text.lines moduleDoc).map (Entry.docLine "//!")) ++
    "//!\n//! @generated by shaclc. Do not edit.\n\n"

def body (entries : List Entry) : String :=
  String.join (entries.map Entry.text)

def text (file : SourceFile) : String :=
  Text.trimEnd (header file.moduleDoc ++ body file.entries) ++ "\n"

end SourceFile

end ShapeCompiler.Render
