import ShapeCompiler.Proofs.Context.Sessions

/-! The balance of guards. Whatever a session is asked, the vocabularies in force are those of the guards
that are held, in the order in which they were pushed, and a guard that brought nothing into force takes
nothing away when it is released. -/

namespace ShapeCompiler.Context

def Step.held : Step → List (Option String) → List (Option String)
  | push vocabulary, guards => vocabulary :: guards
  | pop, guards => guards.tail
  | _, guards => guards

def heldAfter (steps : List Step) : List (Option String) :=
  steps.foldl (fun guards step => step.held guards) []

def brought? (vocabulary : Option String) : Option String :=
  vocabulary.filter (· ≠ "")

def inForce (guards : List (Option String)) : List String :=
  guards.reverse.filterMap brought?

theorem inForce_cons (vocabulary : Option String) (guards : List (Option String)) :
    inForce (vocabulary :: guards) = inForce guards ++ (brought? vocabulary).toList := by
  rw [inForce, List.reverse_cons, List.filterMap_append, ← inForce]
  cases text : brought? vocabulary with
  | none => rw [List.filterMap_cons_none text, List.filterMap_nil, Option.toList_none]
  | some brought => rw [List.filterMap_cons_some text, List.filterMap_nil, Option.toList_some]

theorem brought?_cases (vocabulary : Option String) :
    Resolver.isInert vocabulary = true ∧ brought? vocabulary = none ∨
      Resolver.isInert vocabulary = false ∧ brought? vocabulary = some (vocabulary.getD "") := by
  cases vocabulary with
  | none => exact Or.inl ⟨rfl, rfl⟩
  | some text =>
      by_cases empty : text = ""
      · exact Or.inl ⟨by simp [Resolver.isInert, empty], by simp [brought?, empty]⟩
      · refine Or.inr ⟨by simp [Resolver.isInert, empty], ?_⟩
        exact Option.filter_eq_some_iff.mpr ⟨rfl, decide_eq_true empty⟩

theorem Resolver.vocabularies_push (resolver : Resolver) (vocabulary : Option String) :
    (resolver.push vocabulary).vocabularies =
      resolver.vocabularies ++ (brought? vocabulary).toList := by
  rw [push]
  rcases brought?_cases vocabulary with ⟨inert, none⟩ | ⟨active, some⟩
  · rw [if_pos inert, none, Option.toList_none, List.append_nil]
  · rw [if_neg (Bool.eq_false_iff.mp active), some, Option.toList_some]

namespace Session

def after (session : Session) (steps : List Step) : Session :=
  (session.run steps).2

/-- The vocabularies in force are those of a start and those of the guards held since, and every guard
knows whether it brought one. -/
structure Balanced (start : Resolver) (guards : List (Option String)) (session : Session) : Prop where
  documents : session.resolver.documents = start.documents
  vocabularies : session.resolver.vocabularies = start.vocabularies ++ inForce guards
  known : session.guards = guards.map fun vocabulary => !Resolver.isInert vocabulary

section

variable {start : Resolver} {guards : List (Option String)} {session : Session}

theorem Balanced.push (balanced : Balanced start guards session) (vocabulary : Option String) :
    Balanced start (vocabulary :: guards) (session.push vocabulary) := by
  refine ⟨(documents_push _ _).trans balanced.documents, ?_, ?_⟩
  · change (session.resolver.push vocabulary).vocabularies = _
    rw [Resolver.vocabularies_push, balanced.vocabularies, inForce_cons, List.append_assoc]
  · exact congrArg _ balanced.known

theorem Balanced.pop (balanced : Balanced start guards session) :
    Balanced start guards.tail session.pop := by
  cases guards with
  | nil =>
      have none : session.guards = [] := balanced.known
      unfold Session.pop
      rw [none]
      exact balanced
  | cons vocabulary guards =>
      have known := balanced.known
      have vocabularies := balanced.vocabularies
      rw [List.map_cons] at known
      rw [inForce_cons] at vocabularies
      unfold Session.pop
      rw [known]
      -- Only a guard with a text takes a vocabulary away, which is then the last.
      rcases brought?_cases vocabulary with ⟨inert, none⟩ | ⟨active, some⟩
      · rw [none, Option.toList_none, List.append_nil] at vocabularies
        rw [inert]
        exact ⟨balanced.documents, vocabularies, rfl⟩
      · rw [some, Option.toList_some, ← List.append_assoc] at vocabularies
        rw [active]
        refine ⟨balanced.documents, ?_, rfl⟩
        change session.resolver.vocabularies.dropLast = _
        rw [vocabularies, List.dropLast_concat, List.tail_cons]

theorem Balanced.ask (balanced : Balanced start guards session) (operation : Operation)
    (input : String) (vocabulary : Option String) :
    Balanced start guards (session.ask operation input vocabulary).2 := by
  rw [ask_session]
  exact ⟨balanced.documents, balanced.vocabularies, balanced.known⟩

theorem Balanced.step (balanced : Balanced start guards session) (step : Step) :
    Balanced start (step.held guards) (session.step step).2 := by
  cases step with
  | push vocabulary => exact balanced.push vocabulary
  | pop => exact balanced.pop
  | current => exact balanced
  | count => exact balanced
  | ask operation input vocabulary => exact balanced.ask operation input vocabulary

theorem Balanced.after (balanced : Balanced start guards session) (steps : List Step) :
    Balanced start (steps.foldl (fun guards step => step.held guards) guards)
      (session.after steps) := by
  induction steps generalizing guards session with
  | nil => exact balanced
  | cons step steps ih => exact ih (balanced.step step)

theorem Balanced.close (balanced : Balanced start guards session) :
    Balanced start [] session.close := by
  have counted : session.guards.length = guards.length := by
    rw [balanced.known, List.length_map]
  unfold Session.close
  rw [counted]
  clear counted
  induction guards generalizing session with
  | nil => exact balanced
  | cons vocabulary guards ih => exact ih balanced.pop

theorem Balanced.resolver (balanced : Balanced start [] session) : session.resolver = start := by
  rw [Resolver.mk.injEq]
  exact ⟨balanced.documents, balanced.vocabularies.trans (List.append_nil _)⟩

end

theorem balanced_of_unguarded {session : Session} (unguarded : session.guards = []) :
    Balanced session.resolver [] session :=
  ⟨rfl, (List.append_nil _).symm, unguarded⟩

/-! Questions with a vocabulary of their own. -/

def askUnder (session : Session) (operation : Operation) (input : String)
    (vocabulary : Option String) : String × Session :=
  let asked := (session.push vocabulary).ask operation input none
  (asked.1, asked.2.pop)

theorem ask_eq_askUnder (session : Session) {operation : Operation}
    (dependent : operation.isScoped = true) (input : String) (vocabulary : Option String) :
    session.ask operation input vocabulary = session.askUnder operation input vocabulary := by
  have own : session.ask operation input vocabulary =
      (((Remembered.answer (session.resolver.push vocabulary) operation input).run
          session.memo).1,
        { session.push vocabulary with
          memo := ((Remembered.answer (session.resolver.push vocabulary) operation input).run
            session.memo).2 }.pop) := by
    unfold ask
    rw [if_pos dependent]
    rfl
  have without : (session.push vocabulary).ask operation input none =
      (((Remembered.answer (session.resolver.push vocabulary) operation input).run
          session.memo).1,
        { session.push vocabulary with
          memo := ((Remembered.answer (session.resolver.push vocabulary) operation input).run
            session.memo).2 }) := by
    refine Prod.ext ?_ ?_
    · unfold ask
      rw [if_pos dependent]
      rfl
    · rw [ask_session, if_pos dependent]
      rfl
  rw [own, askUnder, without]

end Session

def Reply.answer? : Reply → Option String
  | answer text => some text
  | _ => none

def Step.spelled : Step → List Step
  | ask operation input vocabulary =>
      if operation.isScoped then [push vocabulary, ask operation input none, pop]
      else [ask operation input vocabulary]
  | step => [step]

namespace Session

def answers (session : Session) (steps : List Step) : List String :=
  (session.run steps).1.filterMap Reply.answer?

theorem after_append (session : Session) (steps later : List Step) :
    session.after (steps ++ later) = (session.after steps).after later := by
  induction steps generalizing session with
  | nil => rfl
  | cons step steps ih => exact ih (session.step step).2

theorem answers_cons (session : Session) (step : Step) (steps : List Step) :
    session.answers (step :: steps) =
      (session.step step).1.answer?.toList ++ (session.step step).2.answers steps := by
  change ((session.step step).1 :: ((session.step step).2.run steps).1).filterMap _ = _
  rw [List.filterMap_cons]
  cases (session.step step).1.answer? <;> rfl

theorem answers_append (session : Session) (steps later : List Step) :
    session.answers (steps ++ later) =
      session.answers steps ++ (session.after steps).answers later := by
  induction steps generalizing session with
  | nil => rfl
  | cons step steps ih =>
      rw [List.cons_append, answers_cons, answers_cons, ih, List.append_assoc]
      rfl

theorem spelled_step (session : Session) (step : Step) :
    session.after step.spelled = session.after [step] ∧
      session.answers step.spelled = session.answers [step] := by
  cases step with
  | push vocabulary => exact ⟨rfl, rfl⟩
  | pop => exact ⟨rfl, rfl⟩
  | current => exact ⟨rfl, rfl⟩
  | count => exact ⟨rfl, rfl⟩
  | ask operation input vocabulary =>
      rw [Step.spelled]
      split
      · rename_i dependent
        have same := session.ask_eq_askUnder dependent input vocabulary
        have whole : session.after [.ask operation input vocabulary] =
            (session.ask operation input vocabulary).2 := rfl
        have asked : session.answers [.ask operation input vocabulary] =
            [(session.ask operation input vocabulary).1] := rfl
        rw [whole, asked, same]
        exact ⟨rfl, rfl⟩
      · exact ⟨rfl, rfl⟩

theorem spelled_steps (session : Session) (steps : List Step) :
    session.after (steps.flatMap Step.spelled) = session.after steps ∧
      session.answers (steps.flatMap Step.spelled) = session.answers steps := by
  induction steps generalizing session with
  | nil => exact ⟨rfl, rfl⟩
  | cons step steps ih =>
      obtain ⟨ends, said⟩ := session.spelled_step step
      obtain ⟨endsLater, saidLater⟩ := ih (session.after [step])
      rw [List.flatMap_cons, after_append, answers_append, ends, said, endsLater, saidLater,
        ← after_append, ← answers_append]
      exact ⟨rfl, rfl⟩

/-- From a session without guards on, the vocabularies in force are those of its start and the texts of
the guards that are held. No question changes them; one with a vocabulary of its own answers as under a
guard with this vocabulary, and whole runs may be spelled out in this way. Once no guard is held any
more, the resolver is as it was at the start. -/
theorem guards_balanced {start : Session} (unguarded : start.guards = []) (steps : List Step) :
    (start.after steps).resolver.vocabularies =
      start.resolver.vocabularies ++ inForce (heldAfter steps) ∧
    (∀ operation input vocabulary,
      ((start.after steps).ask operation input vocabulary).2.resolver =
        (start.after steps).resolver) ∧
    (∀ operation input vocabulary, operation.isScoped = true →
      (start.after steps).ask operation input vocabulary =
        (start.after steps).askUnder operation input vocabulary) ∧
    (start.after (steps.flatMap Step.spelled) = start.after steps ∧
      start.answers (steps.flatMap Step.spelled) = start.answers steps) ∧
    (heldAfter steps = [] → (start.after steps).current? = start.current?) ∧
    (start.after steps).close.current? = start.current? := by
  have balanced := (balanced_of_unguarded unguarded).after steps
  refine ⟨balanced.vocabularies, ?_, ?_, start.spelled_steps steps, ?_, ?_⟩
  · intro operation input vocabulary
    rw [ask_session]
  · intro operation input vocabulary dependent
    exact ask_eq_askUnder _ dependent input vocabulary
  · intro released
    rw [heldAfter] at released
    rw [released] at balanced
    exact congrArg Resolver.currentVocabulary? balanced.resolver
  · exact congrArg Resolver.currentVocabulary? balanced.close.resolver

def guardedSteps : List Step :=
  [.push none, .push (some ""), .push (some "http://a/"), .ask .expandVocab "name" (some "http://c/"),
    .push (some "http://b/"), .ask .compactVocab "http://a/b/name" none, .pop, .push none]

theorem guards_balanced_inert :
    (ofResolver (.ofDocuments [scopedDocument])).guards = [] ∧
      ((ofResolver (.ofDocuments [scopedDocument])).after guardedSteps).resolver.vocabularies =
        ["http://a/"] ∧
      ((ofResolver (.ofDocuments [scopedDocument])).after guardedSteps).close.current? = none := by
  have unguarded : (ofResolver (.ofDocuments [scopedDocument])).guards = [] := rfl
  obtain ⟨inForce, _, _, _, _, closed⟩ := guards_balanced unguarded guardedSteps
  exact ⟨unguarded, inForce.trans (by decide), closed⟩

end Session

end ShapeCompiler.Context
