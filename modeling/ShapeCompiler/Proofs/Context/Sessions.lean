import ShapeCompiler.Context.Session
import ShapeCompiler.Proofs.Context.Remembering

/-! Runs of a session. Memory never shows in an answer: the operations without a scope answer alike in
every state, and those with one as long as no vocabulary has a space in it, by which scopes are told
apart. -/

namespace ShapeCompiler.Context

namespace Session

theorem pop_push (session : Session) (vocabulary : Option String) (memo : Memo) :
    { session.push vocabulary with memo := memo }.pop = { session with memo := memo } := by
  unfold pop push
  cases inert : Resolver.isInert vocabulary with
  | true => simp [Resolver.push, inert]
  | false => simp [Resolver.push, Resolver.pop, inert]

theorem ask_session (session : Session) (operation : Operation) (input : String)
    (vocabulary : Option String) :
    (session.ask operation input vocabulary).2 =
      { session with
        memo := ((Remembered.answer
          (session.resolver.push (if operation.isScoped then vocabulary else none)) operation
            input).run session.memo).2 } :=
  pop_push session _ _

theorem documents_push (resolver : Resolver) (vocabulary : Option String) :
    (resolver.push vocabulary).documents = resolver.documents := by
  unfold Resolver.push
  split <;> rfl

/-- The documents of a session stay the same, and its memo stays sound. -/
structure Faithful (documents : List Document) (admitted : List String → Prop)
    (session : Session) : Prop where
  owned : session.resolver.documents = documents
  sound : session.memo.Sound documents admitted

theorem faithful_ofResolver (resolver : Resolver) (admitted : List String → Prop) :
    Faithful resolver.documents admitted (ofResolver resolver) :=
  ⟨rfl, Memo.sound_empty resolver.documents admitted⟩

section

variable {documents : List Document} {admitted : List String → Prop} {session : Session}

theorem Faithful.push (faithful : Faithful documents admitted session)
    (vocabulary : Option String) : Faithful documents admitted (session.push vocabulary) :=
  ⟨(documents_push session.resolver vocabulary).trans faithful.owned, faithful.sound⟩

theorem Faithful.pop (faithful : Faithful documents admitted session) :
    Faithful documents admitted session.pop := by
  unfold Session.pop
  split
  · exact faithful
  · refine ⟨?_, faithful.sound⟩
    simp only
    split
    · exact faithful.owned
    · exact faithful.owned

theorem Faithful.ask (faithful : Faithful documents admitted session) (operation : Operation)
    (input : String) (vocabulary : Option String)
    (apart : operation.isScoped = true →
      Apart admitted (session.resolver.push vocabulary).vocabularies) :
    Faithful documents admitted (session.ask operation input vocabulary).2 := by
  rw [ask_session]
  refine ⟨faithful.owned, ?_⟩
  apply answer_sound ((documents_push _ _).trans faithful.owned) _ input faithful.sound
  intro dependent
  rw [if_pos dependent]
  exact apart dependent

theorem Faithful.step (faithful : Faithful documents admitted session) {step : Step}
    (apart : ∀ operation input vocabulary, step = .ask operation input vocabulary →
      operation.isScoped = true → Apart admitted (session.resolver.push vocabulary).vocabularies) :
    Faithful documents admitted (session.step step).2 := by
  cases step with
  | push vocabulary => exact faithful.push vocabulary
  | pop => exact faithful.pop
  | current => exact faithful
  | count => exact faithful
  | ask operation input vocabulary =>
      exact faithful.ask operation input vocabulary (apart operation input vocabulary rfl)

theorem Faithful.answer (faithful : Faithful documents admitted session) (operation : Operation)
    (input : String) (vocabulary : Option String)
    (counted : operation.isScoped = true →
      admitted (session.resolver.push vocabulary).vocabularies) :
    (session.ask operation input vocabulary).1 =
      (session.resolver.push vocabulary).answer operation input := by
  have owned := (documents_push session.resolver vocabulary).trans faithful.owned
  have guarded := (documents_push session.resolver
    (if operation.isScoped then vocabulary else none)).trans faithful.owned
  have found : (session.ask operation input vocabulary).1 =
      (session.resolver.push (if operation.isScoped then vocabulary else none)).answer operation
        input := by
    apply answer_eq guarded _ input faithful.sound
    intro dependent
    rw [if_pos dependent]
    exact counted dependent
  by_cases dependent : operation.isScoped = true
  · rw [if_pos dependent] at found
    exact found
  · rw [found]
    exact answer_unscoped (by simpa using dependent) (guarded.trans owned.symm) input

end

theorem run_invariant (invariant : Session → Prop) {steps : List Step}
    (kept : ∀ step ∈ steps, ∀ session, invariant session → invariant (session.step step).2)
    {session : Session} (start : invariant session) : invariant (session.run steps).2 := by
  induction steps generalizing session with
  | nil => exact start
  | cons step rest ih =>
      have first := kept step List.mem_cons_self session start
      exact ih (fun later member => kept later (List.mem_cons_of_mem step member)) first

theorem mem_vocabularies_push {resolver : Resolver} {vocabulary : Option String} {member : String}
    (belongs : member ∈ (resolver.push vocabulary).vocabularies) :
    member ∈ resolver.vocabularies ∨ member ≠ "" ∧ member = vocabulary.getD "" := by
  unfold Resolver.push at belongs
  split at belongs
  · exact Or.inl belongs
  · rename_i active
    refine (List.mem_append.mp belongs).imp_right fun new => ?_
    rw [List.mem_singleton.mp new]
    exact ⟨by simpa [Resolver.isInert] using active, rfl⟩

theorem mem_vocabularies_pop {session : Session} {member : String}
    (belongs : member ∈ session.pop.resolver.vocabularies) :
    member ∈ session.resolver.vocabularies := by
  unfold Session.pop at belongs
  split at belongs
  · exact belongs
  · simp only at belongs
    split at belongs
    · exact (List.dropLast_sublist _).subset belongs
    · exact belongs

end Session

def Step.vocabulary : Step → Option String
  | push vocabulary => vocabulary
  | ask _ _ vocabulary => vocabulary
  | _ => none

theorem Session.mem_vocabularies_step {session : Session} {step : Step} {member : String}
    (belongs : member ∈ (session.step step).2.resolver.vocabularies) :
    member ∈ session.resolver.vocabularies ∨ member ≠ "" ∧ member = step.vocabulary.getD "" := by
  cases step with
  | push vocabulary => exact mem_vocabularies_push belongs
  | pop => exact Or.inl (mem_vocabularies_pop belongs)
  | current => exact Or.inl belongs
  | count => exact Or.inl belongs
  | ask operation input vocabulary =>
      change member ∈ (session.ask operation input vocabulary).2.resolver.vocabularies at belongs
      rw [ask_session] at belongs
      exact Or.inl belongs

def reached (documents : List Document) (steps : List Step) : Session :=
  ((Session.ofResolver (Resolver.ofDocuments documents)).run steps).2

theorem faithful_reached (documents : List Document) (steps : List Step) :
    (reached documents steps).Faithful (Resolver.ofDocuments documents).documents
      (fun _ => False) := by
  apply Session.run_invariant (Session.Faithful _ _)
  · intro step _ session faithful
    exact faithful.step fun _ _ _ _ _ _ impossible => impossible.elim
  · exact Session.faithful_ofResolver _ _

theorem answer_reached (documents : List Document) (steps : List Step) {operation : Operation}
    (unscoped : operation.isScoped = false) (input : String) (vocabulary : Option String) :
    ((reached documents steps).ask operation input vocabulary).1 =
      (Resolver.ofDocuments documents).answer operation input := by
  have faithful := faithful_reached documents steps
  rw [faithful.answer operation input vocabulary (by simp [unscoped])]
  exact answer_unscoped unscoped ((Session.documents_push _ _).trans faithful.owned) input

theorem intercalate_ne_empty {vocabularies : List String}
    (texts : ∀ vocabulary ∈ vocabularies, vocabulary ≠ "") (filled : vocabularies ≠ []) :
    " ".intercalate vocabularies ≠ "" := by
  cases vocabularies with
  | nil => exact absurd rfl filled
  | cons first rest =>
      cases rest with
      | nil =>
          rw [String.intercalate_singleton]
          exact texts first List.mem_cons_self
      | cons second rest =>
          rw [String.intercalate_cons_cons]
          simp

theorem apart_nil {vocabularies : List String}
    (texts : ∀ vocabulary ∈ vocabularies, vocabulary ≠ "") : Apart (· = []) vocabularies := by
  rintro other rfl sameScope
  by_cases filled : vocabularies = []
  · exact filled.symm
  · exact absurd sameScope.symm (intercalate_ne_empty texts filled)

theorem faithful_reached_nil (documents : List Document) (steps : List Step) :
    (reached documents steps).Faithful (Resolver.ofDocuments documents).documents (· = []) := by
  have kept : (reached documents steps).Faithful (Resolver.ofDocuments documents).documents
      (· = []) ∧ ∀ text ∈ (reached documents steps).resolver.vocabularies, text ≠ "" := by
    apply Session.run_invariant (fun session =>
      session.Faithful (Resolver.ofDocuments documents).documents (· = []) ∧
        ∀ text ∈ session.resolver.vocabularies, text ≠ "")
    · intro step _ session ⟨faithful, texts⟩
      constructor
      · refine faithful.step fun operation input vocabulary _ _ => apart_nil fun text belongs => ?_
        rcases Session.mem_vocabularies_push belongs with old | ⟨filled, -⟩
        · exact texts text old
        · exact filled
      · intro text belongs
        rcases Session.mem_vocabularies_step belongs with old | ⟨filled, -⟩
        · exact texts text old
        · exact filled
    · exact ⟨Session.faithful_ofResolver _ _, by simp [Session.ofResolver, Resolver.ofDocuments]⟩
  exact kept.1

theorem answer_reached_nil (documents : List Document) {steps : List Step}
    (inForce : (reached documents steps).resolver.vocabularies = []) (operation : Operation)
    (input : String) :
    ((reached documents steps).ask operation input none).1 =
      (Resolver.ofDocuments documents).answer operation input := by
  have faithful := faithful_reached_nil documents steps
  rw [faithful.answer operation input none fun _ => inForce]
  have start : (reached documents steps).resolver.push none = Resolver.ofDocuments documents := by
    rw [Resolver.mk.injEq]
    exact ⟨faithful.owned, inForce⟩
  rw [start]

/-! Scopes of vocabularies without spaces. -/

def Spaceless (vocabulary : Option String) : Prop :=
  ' ' ∉ (vocabulary.getD "").toList

instance (vocabulary : Option String) : Decidable (Spaceless vocabulary) :=
  inferInstanceAs (Decidable (' ' ∉ (vocabulary.getD "").toList))

def SpacelessStack (vocabularies : List String) : Prop :=
  ∀ vocabulary ∈ vocabularies, vocabulary ≠ "" ∧ ' ' ∉ vocabulary.toList

theorem SpacelessStack.push {resolver : Resolver} (spaceless : SpacelessStack resolver.vocabularies)
    {vocabulary : Option String} (added : Spaceless vocabulary) :
    SpacelessStack (resolver.push vocabulary).vocabularies := by
  intro member belongs
  rcases Session.mem_vocabularies_push belongs with old | ⟨filled, rfl⟩
  · exact spaceless member old
  · exact ⟨filled, added⟩

theorem SpacelessStack.step {session : Session}
    (spaceless : SpacelessStack session.resolver.vocabularies) {step : Step}
    (added : Spaceless step.vocabulary) :
    SpacelessStack (session.step step).2.resolver.vocabularies := by
  intro member belongs
  rcases Session.mem_vocabularies_step belongs with old | ⟨filled, rfl⟩
  · exact spaceless member old
  · exact ⟨filled, added⟩

theorem SpacelessStack.splitOn {vocabularies : List String}
    (spaceless : SpacelessStack vocabularies) (filled : vocabularies ≠ []) :
    (" ".intercalate vocabularies).toList.splitOn ' ' = vocabularies.map String.toList := by
  rw [String.toList_intercalate]
  apply List.splitOn_intercalate
  · intro piece member
    obtain ⟨vocabulary, belongs, rfl⟩ := List.mem_map.mp member
    exact (spaceless vocabulary belongs).2
  · simpa using filled

theorem SpacelessStack.scope_ne_empty {vocabularies : List String}
    (spaceless : SpacelessStack vocabularies) (filled : vocabularies ≠ []) :
    " ".intercalate vocabularies ≠ "" :=
  intercalate_ne_empty (fun member belongs => (spaceless member belongs).1) filled

theorem SpacelessStack.apart {vocabularies : List String}
    (spaceless : SpacelessStack vocabularies) : Apart SpacelessStack vocabularies := by
  intro other otherSpaceless sameScope
  by_cases filled : vocabularies = []
  · subst filled
    by_cases otherFilled : other = []
    · exact otherFilled
    · exact absurd sameScope (otherSpaceless.scope_ne_empty otherFilled)
  · have otherFilled : other ≠ [] := by
      intro empty
      subst empty
      exact spaceless.scope_ne_empty filled sameScope.symm
    have pieces := otherSpaceless.splitOn otherFilled
    rw [sameScope, spaceless.splitOn filled] at pieces
    exact ((List.map_inj_right fun _ _ => String.toList_injective).mp pieces).symm

theorem faithful_reached_spaceless (documents : List Document) {steps : List Step}
    (spaceless : ∀ step ∈ steps, Spaceless step.vocabulary) :
    (reached documents steps).Faithful (Resolver.ofDocuments documents).documents SpacelessStack ∧
      SpacelessStack (reached documents steps).resolver.vocabularies := by
  apply Session.run_invariant (fun session =>
    session.Faithful (Resolver.ofDocuments documents).documents SpacelessStack ∧
      SpacelessStack session.resolver.vocabularies)
  · intro step member session ⟨faithful, inForce⟩
    refine ⟨faithful.step ?_, inForce.step (spaceless step member)⟩
    intro operation input vocabulary asked _
    have added := spaceless step member
    rw [asked] at added
    exact (inForce.push added).apart
  · exact ⟨Session.faithful_ofResolver _ _, by simp [SpacelessStack, Session.ofResolver,
      Resolver.ofDocuments]⟩

/-- Memory does not change an answer. While no vocabulary that a step names has a space in it, every
operation answers in every state that can be reached as without memory under the vocabularies in force;
and the operations without a scope do so whatever the vocabularies, and always alike. -/
theorem ask_eq_answer (documents : List Document) (steps : List Step) (operation : Operation)
    (input : String) (vocabulary : Option String) :
    ((∀ step ∈ steps, Spaceless step.vocabulary) → Spaceless vocabulary →
      ((reached documents steps).ask operation input vocabulary).1 =
        ((reached documents steps).resolver.push vocabulary).answer operation input) ∧
    (operation.isScoped = false →
      ((reached documents steps).ask operation input vocabulary).1 =
        (Resolver.ofDocuments documents).answer operation input) := by
  constructor
  · intro spaceless added
    obtain ⟨faithful, inForce⟩ := faithful_reached_spaceless documents spaceless
    exact faithful.answer operation input vocabulary fun _ => inForce.push added
  · intro unscoped
    exact answer_reached documents steps unscoped input vocabulary

def scopedDocument : Document :=
  .mk none none [("terms", ⟨"http://a/", some .vocab, some (.mk none (some "http://a/b/") [])⟩)]

def scopedSteps : List Step :=
  [.push (some "http://a/"), .ask .expandVocab "name" none, .push (some "http://c/"), .pop]

theorem ask_eq_answer_scoped :
    (∀ step ∈ scopedSteps, Spaceless step.vocabulary) ∧ Spaceless none ∧
      ((reached [scopedDocument] scopedSteps).ask .expandVocab "name" none).1 =
        "http://a/b/name" ∧
      ((reached [scopedDocument] scopedSteps).ask .expandIri "name" none).1 = "name" := by
  have spaceless : ∀ step ∈ scopedSteps, Spaceless step.vocabulary := by decide
  have asked := ask_eq_answer [scopedDocument] scopedSteps .expandVocab "name" none
  have unscoped := ask_eq_answer [scopedDocument] scopedSteps .expandIri "name" none
  refine ⟨spaceless, by decide, (asked.1 spaceless (by decide)).trans ?_,
    (unscoped.2 rfl).trans ?_⟩
  · decide +kernel
  · decide +kernel

end ShapeCompiler.Context
