import ShapeCompiler.Rdf.Graph

/-! What can be wrong with a schema, and the messages that say so. -/

namespace ShapeCompiler.Model

inductive BuildError where
  /-- No class, list of values or datatype applies to a property. -/
  | missingRange (owner property : String)
  /-- A property refers to something that is no class. -/
  | unknownClass (owner property target : String)
  | unsupportedNodeKind (owner value : String)
  /-- A property with a pattern does not hold texts. -/
  | patternNotAllowed (owner property range : String)
  /-- A property shape has no IRI as its path. -/
  | missingPath (owner shape : String)
  /-- A value is no whole number or no truth value. -/
  | invalidLiteral (subject predicate value : String)
  /-- A list of allowed values is broken. -/
  | malformedList (owner property : String) (fault : Rdf.Graph.ListFault)
  /-- Classes inherit from each other. -/
  | inheritanceCycle (classes : List String)
deriving DecidableEq

def BuildError.message : BuildError → String
  | missingRange owner property =>
      "unable to determine range of property " ++ property ++ " in " ++ owner
  | unknownClass owner property target =>
      "unknown class " ++ target ++ " referenced by property " ++ property ++ " in " ++ owner
  | unsupportedNodeKind owner value =>
      "unsupported node kind " ++ value ++ " for class " ++ owner
  | patternNotAllowed owner property range =>
      "pattern is not allowed on property " ++ property ++ " in " ++ owner ++ " (range " ++ range ++
        ")"
  | missingPath owner shape =>
      "property shape " ++ shape ++ " in " ++ owner ++ " has no IRI sh:path"
  | invalidLiteral subject predicate value =>
      "invalid value " ++ Text.quote value ++ " for " ++ predicate ++ " on " ++ subject
  | malformedList owner property fault =>
      "malformed sh:in list on property " ++ property ++ " in " ++ owner ++ ": " ++ fault.message
  | inheritanceCycle classes =>
      "inheritance cycle between classes: " ++ ", ".intercalate classes

def BuildError.causes : BuildError → List String
  | malformedList _ _ fault => [fault.message]
  | _ => []

end ShapeCompiler.Model
