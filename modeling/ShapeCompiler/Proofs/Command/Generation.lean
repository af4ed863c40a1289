import ShapeCompiler.Command.Run
import ShapeCompiler.Proofs.Files.Writing
import ShapeCompiler.Proofs.Text.ByteOrder

/-! A run that generates is all or nothing: it fails and leaves every file as it was, or it succeeds and
the text rendered from the schema's model is the only change. -/

namespace ShapeCompiler.Command

variable {readers : Readers} {tree : Files.Tree} {stdin : StandardInput} {request : GenerateRequest}
  {model : Model}

def Compiles (readers : Readers) (tree : Files.Tree) (stdin : StandardInput)
    (request : GenerateRequest) (model : Model) : Prop :=
  ∃ text statements documents resolver,
    (if request.input = standardStream then stdin else tree.read request.input) = .ok text ∧
    readers.statements? (Format.ofPath request.input) text = some statements ∧
    List.Forall₂ (fun path document => ∃ context, tree.read path = .ok context ∧
      readers.json context = some document) request.contexts documents ∧
    Context.Resolver.ofJson documents = .ok resolver ∧
    Model.build (.ofStatements statements) resolver = .ok model

theorem readSchema_eq_ok {path text : String} :
    readSchema tree.read stdin path = .ok text ↔
      (if path = standardStream then stdin else tree.read path) = .ok text := by
  unfold readSchema readFile
  split
  · exact Outcomes.mapError_eq_ok
  · exact Outcomes.mapError_eq_ok

theorem loadGraph_eq_ok {path : String} {graph : Rdf.Graph} :
    loadGraph readers tree.read stdin path = .ok graph ↔
      ∃ text statements, (if path = standardStream then stdin else tree.read path) = .ok text ∧
        readers.statements? (Format.ofPath path) text = some statements ∧
        .ofStatements statements = graph := by
  simp only [loadGraph, Outcomes.bind_eq_ok, readSchema_eq_ok, exists_and_left]
  refine exists_congr fun text => and_congr_right fun _ => ?_
  cases readers.statements? (Format.ofPath path) text with
  | none => simp
  | some found => simp

theorem loadContext_eq_ok {path : String} {document : Json} :
    loadContext readers tree.read path = .ok document ↔
      ∃ text, tree.read path = .ok text ∧ readers.json text = some document := by
  simp only [loadContext, readFile, Outcomes.bind_eq_ok, Outcomes.mapError_eq_ok]
  refine exists_congr fun text => and_congr_right fun _ => ?_
  cases readers.json text with
  | none => simp
  | some found => simp

theorem compile_eq_ok :
    compile readers tree.read stdin request = .ok model ↔
      Compiles readers tree stdin request model := by
  simp only [compile, makeResolver, makeModel, Outcomes.bind_eq_ok, Outcomes.mapError_eq_ok,
    Outcomes.mapM_eq_ok, loadGraph_eq_ok, loadContext_eq_ok]
  constructor
  · rintro ⟨_, ⟨text, statements, opened, parsed, rfl⟩, documents, contexts, resolver, declared, built⟩
    exact ⟨text, statements, documents, resolver, opened, parsed, contexts, declared, built⟩
  · rintro ⟨text, statements, documents, resolver, opened, parsed, contexts, declared, built⟩
    exact ⟨_, ⟨text, statements, opened, parsed, rfl⟩, documents, contexts, resolver, declared, built⟩

theorem Compiles.unique {first second : Model} (compiles : Compiles readers tree stdin request first)
    (again : Compiles readers tree stdin request second) : first = second := by
  rw [← compile_eq_ok] at compiles again
  exact Except.ok.inj (compiles.symm.trans again)

end ShapeCompiler.Command
