import ShapeCompiler.Text.Cut

/-! Streams to which texts are printed. The system takes the bytes of a text in parts of any size, and may
refuse the rest of them at any point. -/

namespace ShapeCompiler.Files

inductive Fault where
  | notFound
  | exists
  | notDirectory
  | isDirectory
  | nameTooLong
  | zeroCharacter
  | nothingTaken
  | other (message : String)
deriving DecidableEq

def Fault.message : Fault → String
  | notFound => "No such file or directory (os error 2)"
  | .exists => "File exists (os error 17)"
  | notDirectory => "Not a directory (os error 20)"
  | isDirectory => "Is a directory (os error 21)"
  | nameTooLong => "File name too long (os error 36)"
  | zeroCharacter => "file name contained an unexpected NUL byte"
  | nothingTaken => "failed to write whole buffer"
  | other message => message

inductive Answer where
  | takes (count : Nat)
  | interrupted
  | refuses (fault : Fault)

namespace Answer

def breaks : Answer → Bool
  | takes 0 | refuses _ => true
  | _ => false

end Answer

/-- The bytes that a stream has taken, and the answers to come. Behind the last of them it takes whatever it
is handed. -/
structure Stream where
  taken : List UInt8
  answers : List Answer

namespace Stream

/-- Hands over bytes until all are taken. Those that were taken before a refusal stay. -/
def handOver (taken : List UInt8) : List Answer → List UInt8 → Stream × Option Fault
  | answers, [] => (⟨taken, answers⟩, none)
  | [], bytes => (⟨taken ++ bytes, []⟩, none)
  | .interrupted :: answers, bytes => handOver taken answers bytes
  | .refuses fault :: answers, _ => (⟨taken, answers⟩, some fault)
  | .takes 0 :: answers, _ => (⟨taken, answers⟩, some .nothingTaken)
  | .takes (count + 1) :: answers, bytes =>
      handOver (taken ++ bytes.take (count + 1)) answers (bytes.drop (count + 1))

def print (stream : Stream) (text : String) : Stream × Option Fault :=
  handOver stream.taken stream.answers (Text.bytes text)

end Stream

end ShapeCompiler.Files
