import ShapeCompiler.Files.Tree
import ShapeCompiler.Proofs.Outcomes

/-! What printing and writing leave behind. A stream has taken all bytes of a text or, once it refused,
a start of them. Directories are made without touching a file, and a text that is written to a path
stands in one file, with every other file as it was. -/

namespace ShapeCompiler.Files

/-- Of what is printed a stream has taken `bytes` since it was as `before`. -/
def Stream.Took (before after : Stream) (bytes : List UInt8) : Prop :=
  after.taken = before.taken ++ bytes

namespace Stream

theorem Took.append {first second third : Stream} {bytes others : List UInt8}
    (start : first.Took second bytes) (rest : second.Took third others) :
    first.Took third (bytes ++ others) := by
  rw [Took, rest, start, List.append_assoc]

end Stream

namespace Tree

/-- The contents of files, what was printed and what the system refuses are the same. -/
structure KeepsFiles (before after : Tree) : Prop where
  files : after.files = before.files
  stdout : after.stdout = before.stdout
  system : after.system = before.system

theorem KeepsFiles.refl (tree : Tree) : KeepsFiles tree tree :=
  ⟨rfl, rfl, rfl⟩

theorem KeepsFiles.trans {first second third : Tree} (start : KeepsFiles first second)
    (rest : KeepsFiles second third) : KeepsFiles first third :=
  ⟨rest.files.trans start.files, rest.stdout.trans start.stdout, rest.system.trans start.system⟩

end Tree

end ShapeCompiler.Files
