import ShapeCompiler.Context.Memo

/-! A memo stays sound: whatever is asked, and whatever is asked on the way to an answer, the answers that
are kept are those that a resolver would find anew. -/

namespace ShapeCompiler.Context

/-- Kept answers are those of every resolver over `documents`, for vocabulary terms of those resolvers
whose vocabularies in force are `admitted`. -/
def Memo.Sound (documents : List Document) (admitted : List String → Prop) (memo : Memo) : Prop :=
  ∀ (resolver : Resolver) (operation : Operation) (input answer : String),
    resolver.documents = documents →
    (operation.isScoped = true → admitted resolver.vocabularies) →
    memo.find? (resolver.question operation input) = some answer →
    resolver.answer operation input = answer

/-- No other stack has the same scope. -/
def Apart (admitted : List String → Prop) (vocabularies : List String) : Prop :=
  ∀ other, admitted other → " ".intercalate other = " ".intercalate vocabularies →
    other = vocabularies

def Settles {α : Type} (documents : List Document) (admitted : List String → Prop)
    (work : StateM Memo α) (value : α) : Prop :=
  ∀ memo, Memo.Sound documents admitted memo →
    (work.run memo).1 = value ∧ Memo.Sound documents admitted (work.run memo).2

theorem answer_unscoped {operation : Operation} (unscoped : operation.isScoped = false)
    {left right : Resolver} (same : left.documents = right.documents) (input : String) :
    left.answer operation input = right.answer operation input := by
  cases operation with
  | expandIri => simp only [Resolver.answer, Resolver.expandIri, same]
  | expandId => simp only [Resolver.answer, Resolver.expandId, same]
  | compactIri => simp only [Resolver.answer, Resolver.compactIri, same]
  | compactId => simp only [Resolver.answer, Resolver.compactId, same]
  | expandVocab => simp [Operation.isScoped] at unscoped
  | compactVocab => simp [Operation.isScoped] at unscoped

theorem Memo.sound_empty (documents : List Document) (admitted : List String → Prop) :
    Memo.empty.Sound documents admitted := by
  intro resolver operation input answer _ _ found
  simp [Memo.find?_empty] at found

section

variable {documents : List Document} {admitted : List String → Prop}

theorem Memo.Sound.insert {memo : Memo} (sound : memo.Sound documents admitted)
    {resolver : Resolver} (owned : resolver.documents = documents) {operation : Operation}
    (apart : operation.isScoped = true → Apart admitted resolver.vocabularies) (input : String) :
    (memo.insert (resolver.question operation input) (resolver.answer operation input)).Sound
      documents admitted := by
  intro other otherOperation otherInput answer otherOwned counted found
  by_cases same : other.question otherOperation otherInput = resolver.question operation input
  · rw [same, Memo.find?_insert_self, Option.some.injEq] at found
    simp only [Resolver.question, Question.mk.injEq] at same
    obtain ⟨rfl, sameScope, rfl⟩ := same
    rw [← found]
    cases dependent : otherOperation.isScoped with
    | false => exact answer_unscoped dependent (otherOwned.trans owned.symm) otherInput
    | true =>
        simp only [Resolver.scope, dependent, if_true] at sameScope
        -- A scope that only one stack has leads back to the resolver that was asked.
        have sameStack := apart dependent other.vocabularies (counted dependent) sameScope
        have sameResolver : other = resolver := by
          cases other
          cases resolver
          simp_all
        rw [sameResolver]
  · rw [Memo.find?_insert_ne same] at found
    exact sound other otherOperation otherInput answer otherOwned counted found

theorem settles_pure {α : Type} (value : α) :
    Settles documents admitted (pure value) value :=
  fun _ sound => ⟨rfl, sound⟩

theorem Settles.bind {α β : Type} {work : StateM Memo α} {value : α} {next : α → StateM Memo β}
    {result : β} (first : Settles documents admitted work value)
    (second : Settles documents admitted (next value) result) :
    Settles documents admitted (work >>= next) result := by
  intro memo sound
  obtain ⟨found, kept⟩ := first memo sound
  have rest := second (work.run memo).2 kept
  rw [← found] at rest
  exact rest

theorem settles_foldlM {α β : Type} {step : β → α → StateM Memo β} {next : β → α → β}
    (each : ∀ state item, Settles documents admitted (step state item) (next state item))
    (items : List α) (state : β) :
    Settles documents admitted (items.foldlM step state) (items.foldl next state) := by
  induction items generalizing state with
  | nil => exact settles_pure state
  | cons item rest ih =>
      rw [List.foldlM_cons, List.foldl_cons]
      exact (each state item).bind (ih (next state item))

theorem remember_run (question : Question) (work : StateM Memo String) (memo : Memo) :
    (remember question work).run memo =
      match memo.find? question with
      | some answer => (answer, memo)
      | none => ((work.run memo).1, (work.run memo).2.insert question (work.run memo).1) := by
  change (match memo.find? question with
    | some answer => (pure answer : StateM Memo String)
    | none => _).run memo = _
  cases memo.find? question <;> rfl

theorem remember_sound {resolver : Resolver} (owned : resolver.documents = documents)
    {operation : Operation}
    (apart : operation.isScoped = true → Apart admitted resolver.vocabularies) {input : String}
    {work : StateM Memo String}
    (settled : Settles documents admitted work (resolver.answer operation input))
    {memo : Memo} (sound : memo.Sound documents admitted) :
    ((remember (resolver.question operation input) work).run memo).2.Sound documents admitted := by
  rw [remember_run]
  cases memo.find? (resolver.question operation input) with
  | some answer => exact sound
  | none =>
      obtain ⟨found, kept⟩ := settled memo sound
      simp only [found]
      exact kept.insert owned apart input

theorem remember_answer {resolver : Resolver} (owned : resolver.documents = documents)
    {operation : Operation} (counted : operation.isScoped = true → admitted resolver.vocabularies)
    {input : String} {work : StateM Memo String}
    (settled : Settles documents admitted work (resolver.answer operation input))
    {memo : Memo} (sound : memo.Sound documents admitted) :
    ((remember (resolver.question operation input) work).run memo).1 =
      resolver.answer operation input := by
  rw [remember_run]
  cases kept : memo.find? (resolver.question operation input) with
  | some answer => exact (sound resolver operation input answer owned counted kept).symm
  | none => exact (settled memo sound).1

theorem settles_remember {resolver : Resolver} (owned : resolver.documents = documents)
    {operation : Operation} (unscoped : operation.isScoped = false) {input : String}
    {work : StateM Memo String}
    (settled : Settles documents admitted work (resolver.answer operation input)) :
    Settles documents admitted (remember (resolver.question operation input) work)
      (resolver.answer operation input) := by
  intro memo sound
  constructor
  · exact remember_answer owned (by simp [unscoped]) settled sound
  · exact remember_sound owned (by simp [unscoped]) settled sound

theorem settles_expandIri {resolver : Resolver} (owned : resolver.documents = documents)
    (name : String) :
    Settles documents admitted (Remembered.expandIri resolver name) (resolver.expandIri name) :=
  settles_remember owned rfl (settles_pure _)

theorem settles_compactId {resolver : Resolver} (owned : resolver.documents = documents)
    (iri : String) :
    Settles documents admitted (Remembered.compactId resolver iri) (resolver.compactId iri) :=
  settles_remember owned rfl (settles_pure _)

theorem settles_nestedFor? {resolver : Resolver} (owned : resolver.documents = documents)
    (vocabulary : String) (definition : Definition Document) :
    Settles documents admitted (Remembered.nestedFor? resolver vocabulary definition)
      (resolver.nestedFor? vocabulary definition) := by
  unfold Remembered.nestedFor? Resolver.nestedFor?
  cases definition.nested with
  | none => exact settles_pure none
  | some nested =>
      by_cases typed : definition.type = some .vocab
      · simp only [typed, if_true, decide_true, Bool.true_and, decide_eq_true_eq]
        exact (settles_expandIri owned definition.id).bind (settles_pure _)
      · simp only [typed, if_false, decide_false, Bool.false_and, Bool.false_eq_true]
        exact settles_pure none

theorem foldl_toList_append {α β : Type} (piece : α → Option β) (items : List α)
    (found : List β) :
    items.foldl (fun found item => (piece item).toList ++ found) found =
      (items.filterMap piece).reverse ++ found := by
  induction items generalizing found with
  | nil => rfl
  | cons item rest ih =>
      rw [List.foldl_cons, ih, List.filterMap_cons]
      cases piece item <;> simp

theorem foldl_reverse_append {α β : Type} (piece : α → List β) (items : List α)
    (found : List β) :
    items.foldl (fun found item => (piece item).reverse ++ found) found =
      (items.flatMap piece).reverse ++ found := by
  induction items generalizing found with
  | nil => rfl
  | cons item rest ih => simp [ih]

theorem scopedDocuments_eq_foldl (resolver : Resolver) :
    resolver.scopedDocuments =
      resolver.vocabularies.foldl (fun found vocabulary =>
        resolver.documents.foldl (fun found document =>
          document.terms.foldl (fun found term =>
            (resolver.nestedFor? vocabulary term.2).toList ++ found) found) found) [] := by
  simp only [foldl_toList_append, foldl_reverse_append, Resolver.scopedDocuments, List.append_nil]

theorem settles_scopedDocuments {resolver : Resolver} (owned : resolver.documents = documents) :
    Settles documents admitted (Remembered.scopedDocuments resolver) resolver.scopedDocuments := by
  rw [scopedDocuments_eq_foldl]
  refine settles_foldlM (fun found vocabulary => ?_) resolver.vocabularies []
  refine settles_foldlM (fun found document => ?_) resolver.documents found
  refine settles_foldlM (fun found term => ?_) document.terms found
  exact (settles_nestedFor? owned vocabulary term.2).bind (settles_pure _)

theorem answer_remembers (admitted : List String → Prop) {resolver : Resolver}
    (owned : resolver.documents = documents) (operation : Operation) (input : String) :
    ∃ work, Settles documents admitted work (resolver.answer operation input) ∧
      Remembered.answer resolver operation input =
        remember (resolver.question operation input) work := by
  cases operation with
  | expandIri => exact ⟨_, settles_pure _, rfl⟩
  | expandId => exact ⟨_, settles_pure _, rfl⟩
  | compactIri => exact ⟨_, settles_pure _, rfl⟩
  | compactId => exact ⟨_, settles_pure _, rfl⟩
  | expandVocab =>
      exact ⟨_, (settles_scopedDocuments owned).bind (settles_pure _), rfl⟩
  | compactVocab =>
      refine ⟨_, (settles_scopedDocuments owned).bind ?_, rfl⟩
      simp only [Resolver.answer, Resolver.compactVocab]
      cases compact? resolver.scopedDocuments resolver.documents ⟨false, true⟩ input with
      | some form => exact settles_pure form
      | none => exact settles_compactId owned input

theorem answer_sound {resolver : Resolver} (owned : resolver.documents = documents)
    {operation : Operation}
    (apart : operation.isScoped = true → Apart admitted resolver.vocabularies) (input : String)
    {memo : Memo} (sound : memo.Sound documents admitted) :
    ((Remembered.answer resolver operation input).run memo).2.Sound documents admitted := by
  obtain ⟨work, settled, remembers⟩ := answer_remembers admitted owned operation input
  rw [remembers]
  exact remember_sound owned apart settled sound

theorem answer_eq {resolver : Resolver} (owned : resolver.documents = documents)
    {operation : Operation} (counted : operation.isScoped = true → admitted resolver.vocabularies)
    (input : String) {memo : Memo} (sound : memo.Sound documents admitted) :
    ((Remembered.answer resolver operation input).run memo).1 =
      resolver.answer operation input := by
  obtain ⟨work, settled, remembers⟩ := answer_remembers admitted owned operation input
  rw [remembers]
  exact remember_answer owned counted settled sound

end

end ShapeCompiler.Context
