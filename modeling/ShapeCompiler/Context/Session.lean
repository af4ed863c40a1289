import ShapeCompiler.Context.Memo

/-! A session of questions to one resolver, which keeps its answers. Vocabularies come into force under
guards that are released in reverse order. -/

namespace ShapeCompiler.Context

/-- `guards` tells of every guard that is held, the newest first, whether it brought a vocabulary into
force; `memo` holds the answers kept so far. -/
structure Session where
  resolver : Resolver
  guards : List Bool
  memo : Memo

inductive Step where
  | push (vocabulary : Option String)
  | pop
  | current
  | count
  | ask (operation : Operation) (input : String) (vocabulary : Option String)

inductive Reply where
  | vocabulary (current : Option String)
  | count (documents : Nat)
  | answer (text : String)

namespace Session

def ofResolver (resolver : Resolver) : Session :=
  ⟨resolver, [], .empty⟩

def push (session : Session) (vocabulary : Option String) : Session :=
  { session with
    resolver := session.resolver.push vocabulary
    guards := (!Resolver.isInert vocabulary) :: session.guards }

def pop (session : Session) : Session :=
  match session.guards with
  | [] => session
  | active :: guards =>
      { session with
        resolver := if active then session.resolver.pop else session.resolver
        guards := guards }

def ask (session : Session) (operation : Operation) (input : String) (vocabulary : Option String) :
    String × Session :=
  let guarded := session.push (if operation.isScoped then vocabulary else none)
  let asked := (Remembered.answer guarded.resolver operation input).run guarded.memo
  (asked.1, { guarded with memo := asked.2 }.pop)

def current? (session : Session) : Option String :=
  session.resolver.currentVocabulary?

def step (session : Session) : Step → Reply × Session
  | .push vocabulary =>
      let session := session.push vocabulary
      (.vocabulary session.current?, session)
  | .pop =>
      let session := session.pop
      (.vocabulary session.current?, session)
  | .current => (.vocabulary session.current?, session)
  | .count => (.count session.resolver.documents.length, session)
  | .ask operation input vocabulary =>
      let asked := session.ask operation input vocabulary
      (.answer asked.1, asked.2)

def run (session : Session) : List Step → List Reply × Session
  | [] => ([], session)
  | step :: steps =>
      let stepped := session.step step
      let rest := run stepped.2 steps
      (stepped.1 :: rest.1, rest.2)

def popTimes : Nat → Session → Session
  | 0, session => session
  | count + 1, session => popTimes count session.pop

def close (session : Session) : Session :=
  popTimes session.guards.length session

end Session

end ShapeCompiler.Context
