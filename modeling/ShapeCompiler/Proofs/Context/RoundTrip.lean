import ShapeCompiler.Proofs.Context.Sessions

/-! Compaction and back. What a compaction finds expands to where it came from under the rules of that
compaction. Only the form of an identifier that stands in for a vocabulary term is not put to the
test. -/

namespace ShapeCompiler.Context

theorem foldl_isBetter_mem (forms : List String) (first : String) :
    forms.foldl (fun best form => if isBetter form best then form else best) first ∈
      first :: forms := by
  induction forms generalizing first with
  | nil => simp
  | cons form rest ih =>
      rw [List.foldl_cons]
      split
      · exact List.mem_cons_of_mem first (ih form)
      · rcases List.mem_cons.mp (ih first) with same | later
        · rw [same]
          exact List.mem_cons_self
        · exact List.mem_cons_of_mem first (List.mem_cons_of_mem form later)

theorem bestForm?_mem {forms : List String} {best : String} (found : bestForm? forms = some best) :
    best ∈ forms := by
  cases forms with
  | nil => simp [bestForm?] at found
  | cons first rest =>
      simp only [bestForm?, Option.some.injEq] at found
      rw [← found]
      exact foldl_isBetter_mem rest first

theorem expand_compact? {nested documents : List Document} {defaults : Defaults}
    {iri form : String} (found : compact? nested documents defaults iri = some form) :
    expand (nested ++ documents) defaults form = iri := by
  have kept := (List.mem_filter.mp (bestForm?_mem found)).2
  exact of_decide_eq_true kept

theorem compact?_getD_round_trip (documents : List Document) (defaults : Defaults) (iri : String) :
    (compact? [] documents defaults iri).getD iri = iri ∨
      expand documents defaults ((compact? [] documents defaults iri).getD iri) = iri := by
  cases found : compact? [] documents defaults iri with
  | none => exact Or.inl rfl
  | some form => exact Or.inr (expand_compact? found)

theorem compactIri_round_trip (resolver : Resolver) (iri : String) :
    resolver.compactIri iri = iri ∨ resolver.expandIri (resolver.compactIri iri) = iri :=
  compact?_getD_round_trip resolver.documents .none iri

theorem compactId_round_trip (resolver : Resolver) (iri : String) :
    resolver.compactId iri = iri ∨ resolver.expandId (resolver.compactId iri) = iri :=
  compact?_getD_round_trip resolver.documents ⟨true, false⟩ iri

def answerAfter (documents : List Document) (steps : List Step) (operation : Operation)
    (input : String) : String :=
  ((reached documents steps).ask operation input none).1

theorem answerAfter_eq (documents : List Document) (steps : List Step) (operation : Operation)
    (input : String) (unscoped : operation.isScoped = false) :
    answerAfter documents steps operation input =
      (Resolver.ofDocuments documents).answer operation input :=
  answer_reached documents steps unscoped input none

/-- What a term or an identifier was compacted to expands to what it was, in whatever states of a
session the two questions are asked. -/
theorem compact_round_trip (documents : List Document) (steps later : List Step) (iri : String) :
    (answerAfter documents steps .compactIri iri = iri ∨
      answerAfter documents later .expandIri (answerAfter documents steps .compactIri iri) = iri) ∧
    (answerAfter documents steps .compactId iri = iri ∨
      answerAfter documents later .expandId (answerAfter documents steps .compactId iri) = iri) := by
  rw [answerAfter_eq documents steps .compactIri iri rfl,
    answerAfter_eq documents steps .compactId iri rfl,
    answerAfter_eq documents later .expandIri _ rfl,
    answerAfter_eq documents later .expandId _ rfl]
  constructor
  · exact compactIri_round_trip (Resolver.ofDocuments documents) iri
  · exact compactId_round_trip (Resolver.ofDocuments documents) iri

/-- The terms say nothing of a name. -/
structure Undecided (documents : List Document) (name : String) : Prop where
  noKeyword : isKeyword name = false
  noTerm : definition? documents name = none
  noPrefix : ∀ before after, declaredPrefix? documents name = some (before, after) →
    Text.endsInSlash
      (expandTerms documents (expansionBound documents) [name] before) = false

theorem expand_undecided {documents : List Document} {name : String}
    (undecided : Undecided documents name) (defaults : Defaults) :
    expand documents defaults name = withDefaults documents defaults name := by
  unfold expand expandStep
  rw [if_neg (by simp [undecided.noKeyword]), undecided.noTerm]
  cases declared : declaredPrefix? documents name with
  | none => rfl
  | some parts =>
      obtain ⟨before, after⟩ := parts
      simp [undecided.noPrefix before after declared]

theorem expand_decided {documents : List Document} {name : String}
    (decided : ¬ Undecided documents name) (defaults other : Defaults) :
    expand documents defaults name = expand documents other name := by
  unfold expand expandStep
  split
  · rfl
  · rename_i noKeyword
    cases term : definition? documents name with
    | some definition => rfl
    | none =>
        cases declared : declaredPrefix? documents name with
        | none =>
            exact absurd ⟨by simpa using noKeyword, term, by simp [declared]⟩ decided
        | some parts =>
            obtain ⟨before, after⟩ := parts
            by_cases slash : Text.endsInSlash
                (expandTerms documents (expansionBound documents) [name] before) = true
            · simp [slash]
            · refine absurd ⟨by simpa using noKeyword, term, ?_⟩ decided
              intro otherBefore otherAfter same
              rw [declared] at same
              simp only [Option.some.injEq, Prod.mk.injEq] at same
              rw [← same.1]
              simpa using slash

theorem expand_with_base {documents : List Document} {name iri : String}
    (expanded : expand documents ⟨false, true⟩ name = iri) :
    name = iri ∨ expand documents ⟨true, true⟩ name = iri := by
  by_cases undecided : Undecided documents name
  · rw [expand_undecided undecided] at expanded ⊢
    unfold withDefaults at expanded ⊢
    cases relative : isRelative name with
    | false => simp_all
    | true =>
        cases inForce : documents.findSome? Document.vocab with
        | none => simp_all
        | some vocab => simp_all
  · rw [expand_decided undecided ⟨true, true⟩ ⟨false, true⟩]
    exact Or.inr expanded

/-! Vocabulary terms and back. A form that a vocabulary term has of its own was tested without the
bases, which take nothing from it: only a form that an identifier lends may stand for another IRI. -/

/-- An identifier lends a vocabulary term its form, which says another thing there. -/
structure Borrowed (resolver : Resolver) (iri : String) : Prop where
  noForm : compact? resolver.scopedDocuments resolver.documents ⟨false, true⟩ iri = none
  shortened : resolver.compactId iri ≠ iri
  apart : resolver.expandVocab (resolver.compactId iri) ≠
    resolver.expandId (resolver.compactId iri)

theorem compactVocab_round_trip_iff (resolver : Resolver) (iri : String) :
    (resolver.compactVocab iri = iri ∨ resolver.expandVocab (resolver.compactVocab iri) = iri) ↔
      ¬ Borrowed resolver iri := by
  cases found : compact? resolver.scopedDocuments resolver.documents ⟨false, true⟩ iri with
  | some form =>
      have own : resolver.compactVocab iri = form := by simp [Resolver.compactVocab, found]
      rw [own]
      constructor
      · intro _ borrowed
        simp [borrowed.noForm] at found
      · intro _
        exact expand_with_base (expand_compact? found)
  | none =>
      have lent : resolver.compactVocab iri = resolver.compactId iri := by
        simp [Resolver.compactVocab, found]
      rw [lent]
      rcases compactId_round_trip resolver iri with same | back
      · constructor
        · intro _ borrowed
          exact borrowed.shortened same
        · intro _
          exact Or.inl same
      · constructor
        · rintro (same | again) borrowed
          · exact borrowed.shortened same
          · exact borrowed.apart (again.trans back.symm)
        · intro owned
          by_cases same : resolver.compactId iri = iri
          · exact Or.inl same
          · right
            refine Decidable.byContradiction fun apart => ?_
            exact owned ⟨found, same, by rwa [back]⟩

theorem expandVocab_ne_expandId_iff {resolver : Resolver} (unscoped : resolver.scopedDocuments = [])
    (name : String) :
    resolver.expandVocab name ≠ resolver.expandId name ↔
      Undecided resolver.documents name ∧ isRelative name = true ∧
        ∃ vocab, resolver.documents.findSome? Document.vocab = some vocab ∧
          expandTerm resolver.documents vocab ++ name ≠ resolver.expandId name := by
  unfold Resolver.expandVocab Resolver.expandId
  rw [unscoped, List.nil_append]
  by_cases undecided : Undecided resolver.documents name
  · rw [expand_undecided undecided, expand_undecided undecided]
    unfold withDefaults
    cases relative : isRelative name with
    | false => simp
    | true =>
        cases inForce : resolver.documents.findSome? Document.vocab with
        | none => simp
        | some vocab => simp [undecided]
  · rw [expand_decided undecided ⟨true, true⟩ ⟨true, false⟩]
    simp [undecided]

/-- A default vocabulary makes another IRI of the form of an identifier, a relative name of which the
terms say nothing. -/
structure BorrowedByDefault (resolver : Resolver) (iri : String) : Prop where
  noForm : compact? [] resolver.documents ⟨false, true⟩ iri = none
  shortened : resolver.compactId iri ≠ iri
  undecided : Undecided resolver.documents (resolver.compactId iri)
  relative : isRelative (resolver.compactId iri) = true
  replaced : ∃ vocab, resolver.documents.findSome? Document.vocab = some vocab ∧
    expandTerm resolver.documents vocab ++ resolver.compactId iri ≠ iri

theorem borrowed_iff {resolver : Resolver} (unscoped : resolver.scopedDocuments = [])
    (iri : String) : Borrowed resolver iri ↔ BorrowedByDefault resolver iri := by
  have readings := expandVocab_ne_expandId_iff unscoped (resolver.compactId iri)
  constructor
  · intro borrowed
    have back := (compactId_round_trip resolver iri).resolve_left borrowed.shortened
    have noForm := borrowed.noForm
    have apart := borrowed.apart
    rw [unscoped] at noForm
    rw [back] at readings apart
    obtain ⟨undecided, relative, replaced⟩ := readings.mp apart
    exact ⟨noForm, borrowed.shortened, undecided, relative, replaced⟩
  · intro borrowed
    have back := (compactId_round_trip resolver iri).resolve_left borrowed.shortened
    rw [back] at readings
    have apart := readings.mpr ⟨borrowed.undecided, borrowed.relative, borrowed.replaced⟩
    exact ⟨by rw [unscoped, borrowed.noForm], borrowed.shortened, by rwa [back]⟩

def vocabularyTrip (session : Session) (vocabulary : Option String) (iri : String) :
    String × String :=
  let compacted := session.ask .compactVocab iri vocabulary
  (compacted.1, (compacted.2.ask .expandVocab compacted.1 vocabulary).1)

theorem vocabularyTrip_eq {documents : List Document} {admitted : List String → Prop}
    {session : Session} (faithful : session.Faithful documents admitted) (vocabulary : Option String)
    (counted : admitted (session.resolver.push vocabulary).vocabularies)
    (apart : Apart admitted (session.resolver.push vocabulary).vocabularies) (iri : String) :
    vocabularyTrip session vocabulary iri =
      ((session.resolver.push vocabulary).compactVocab iri,
        (session.resolver.push vocabulary).expandVocab
          ((session.resolver.push vocabulary).compactVocab iri)) := by
  have compacted := faithful.answer .compactVocab iri vocabulary fun _ => counted
  have after : (session.ask .compactVocab iri vocabulary).2.resolver = session.resolver := by
    rw [Session.ask_session]
  have kept := faithful.ask .compactVocab iri vocabulary fun _ => apart
  have expanded := kept.answer .expandVocab (session.ask .compactVocab iri vocabulary).1 vocabulary
    (by rw [after]; exact fun _ => counted)
  simp only [vocabularyTrip]
  rw [expanded, after, compacted]
  rfl

theorem vocabularyTrip_iff {documents : List Document} {admitted : List String → Prop}
    {session : Session} (faithful : session.Faithful documents admitted) (vocabulary : Option String)
    (counted : admitted (session.resolver.push vocabulary).vocabularies)
    (apart : Apart admitted (session.resolver.push vocabulary).vocabularies) (iri : String) :
    (vocabularyTrip session vocabulary iri).1 = iri ∨
        (vocabularyTrip session vocabulary iri).2 = iri ↔
      ¬ Borrowed (session.resolver.push vocabulary) iri := by
  rw [vocabularyTrip_eq faithful vocabulary counted apart iri]
  dsimp only
  exact compactVocab_round_trip_iff (session.resolver.push vocabulary) iri

def underVocabularies (documents : List Document) (vocabularies : List (Option String)) : Session :=
  reached documents (vocabularies.map .push)

theorem faithful_underVocabularies (documents : List Document)
    (vocabularies : List (Option String)) (admitted : List String → Prop) :
    (underVocabularies documents vocabularies).Faithful
      (Resolver.ofDocuments documents).documents admitted := by
  apply Session.run_invariant (Session.Faithful _ _)
  · intro step member session faithful
    obtain ⟨vocabulary, -, rfl⟩ := List.mem_map.mp member
    exact faithful.push vocabulary
  · exact Session.faithful_ofResolver _ _

def resolverUnder (documents : List Document) (vocabularies : List (Option String))
    (vocabulary : Option String) : Resolver :=
  (underVocabularies documents vocabularies).resolver.push vocabulary

/-- A vocabulary term comes back from its form exactly when no identifier lent it that form. Where no
nested document applies, that takes a relative name of which the terms say nothing and a default
vocabulary that makes another IRI of it. -/
theorem vocabulary_round_trip_iff (documents : List Document) (vocabularies : List (Option String))
    (vocabulary : Option String) (iri : String) :
    ((vocabularyTrip (underVocabularies documents vocabularies) vocabulary iri).1 = iri ∨
        (vocabularyTrip (underVocabularies documents vocabularies) vocabulary iri).2 = iri ↔
      ¬ Borrowed (resolverUnder documents vocabularies vocabulary) iri) ∧
    ((resolverUnder documents vocabularies vocabulary).scopedDocuments = [] →
      (Borrowed (resolverUnder documents vocabularies vocabulary) iri ↔
        BorrowedByDefault (resolverUnder documents vocabularies vocabulary) iri)) := by
  -- Both questions are asked under one stack, so that no other shares their scope, spaces or not.
  have faithful := faithful_underVocabularies documents vocabularies
    (· = (resolverUnder documents vocabularies vocabulary).vocabularies)
  constructor
  · exact vocabularyTrip_iff faithful vocabulary rfl (fun _ same _ => same) iri
  · intro unscoped
    exact borrowed_iff unscoped iri

def lendingDocument : Document :=
  .mk (some "http://b/") (some "http://v/") []

theorem vocabulary_round_trip_lent :
    ¬ ((vocabularyTrip (underVocabularies [lendingDocument] []) none "http://b/x").1 =
        "http://b/x" ∨
      (vocabularyTrip (underVocabularies [lendingDocument] []) none "http://b/x").2 =
        "http://b/x") := by
  decide +kernel

theorem vocabulary_round_trip_iff_lent :
    (resolverUnder [lendingDocument] [] none).scopedDocuments = [] ∧
      Borrowed (resolverUnder [lendingDocument] [] none) "http://b/x" := by
  have unscoped : (resolverUnder [lendingDocument] [] none).scopedDocuments = [] := rfl
  have undeclared : declaredPrefix? [lendingDocument] "x" = none := by decide +kernel
  have form : (resolverUnder [lendingDocument] [] none).compactId "http://b/x" = "x" := by
    decide +kernel
  refine ⟨unscoped, ((vocabulary_round_trip_iff [lendingDocument] [] none "http://b/x").2
    unscoped).mpr ?_⟩
  constructor
  case undecided =>
    rw [form]
    exact ⟨by decide +kernel, rfl, fun _ _ declared => by cases undeclared.symm.trans declared⟩
  case replaced => exact ⟨"http://v/", rfl, by decide +kernel⟩
  all_goals decide +kernel

end ShapeCompiler.Context
