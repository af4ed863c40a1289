import ShapeCompiler.Model.Basic
import ShapeCompiler.Model.BuildError
import ShapeCompiler.Text.Cut

/-! The values of single predicates: texts, truth values, counts and kinds of nodes. -/

namespace ShapeCompiler.Model

open Rdf (Graph Term)

def literalValue? (graph : Graph) (subject : Term) (predicate : String) : Option String :=
  (graph.value? subject predicate).bind Term.literalValue?

def invalidLiteral (subject : Term) (predicate : String) (value : Term) : BuildError :=
  .invalidLiteral subject.name predicate value.name

def readTruth? (text : String) : Option Bool :=
  let trimmed := Text.trim text
  if trimmed = "true" || trimmed = "1" then some true
  else if trimmed = "false" || trimmed = "0" then some false
  else none

def largestCount : Nat := 18446744073709551615

def appendDigit? (count : Nat) (digit : Char) : Option Nat :=
  if digit.isDigit then
    let longer := count * 10 + (digit.toNat - '0'.toNat)
    if longer ≤ largestCount then some longer else none
  else none

/-- Reads digits behind others that make `count`. The first digit with which the number becomes too
large ends the reading. -/
def countFrom? (count : Nat) : List Char → Option Nat
  | [] => some count
  | digit :: rest => (appendDigit? count digit).bind fun longer => countFrom? longer rest

/-- A count is written in decimal digits, after an optional plus sign, and fits 64 bits. -/
def readCount? (text : String) : Option Nat :=
  let unsigned :=
    match (Text.trim text).toList with
    | '+' :: digits => digits
    | digits => digits
  if unsigned.isEmpty then none else countFrom? 0 unsigned

def readValue? {α : Type} (read : String → Option α) (graph : Graph) (subject : Term)
    (predicate : String) : Except BuildError (Option α) :=
  match graph.value? subject predicate with
  | none => .ok none
  | some value =>
      match value.literalValue?.bind read with
      | some result => .ok (some result)
      | none => .error (invalidLiteral subject predicate value)

def truth? (graph : Graph) (subject : Term) (predicate : String) :
    Except BuildError (Option Bool) :=
  readValue? readTruth? graph subject predicate

def count? (graph : Graph) (subject : Term) (predicate : String) : Except BuildError (Option Nat) :=
  readValue? readCount? graph subject predicate

def nodeKind? (graph : Graph) (owner : String) (node : Term) :
    Except BuildError (Option NodeKind) :=
  match graph.value? node Rdf.Vocabulary.shNodeKind with
  | none => .ok none
  | some value =>
      match value.iri?.bind NodeKind.ofIri? with
      | some kind => .ok (some kind)
      | none => .error (.unsupportedNodeKind owner value.name)

end ShapeCompiler.Model
