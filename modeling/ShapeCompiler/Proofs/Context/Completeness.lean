import ShapeCompiler.Proofs.Context.Search

/-! Which forms a compaction cannot miss. A search compares an IRI with identifiers as they are written,
not with what they expand to. So it meets the forms that come to the IRI by replacing, again and again,
a name by its identifier as it stands. Where no definition is circular and no namespace is defined by
an alias, these are all the names that expand to the IRI; else some are passed over, as are those at
the end of a chain that is longer than the search is deep. -/

namespace ShapeCompiler.Context

open Relation (TransGen ReflTransGen)

/-- A form is replaced by the identifier that it names, as that is written: a term by the whole, a term
before a colon by the start of a longer text if it is a namespace. -/
inductive WritesOut (documents : List Document) : String → String → Prop where
  | term {name : String} {definition : Definition Document}
      (found : definition? documents name = some definition) :
      WritesOut documents name definition.id
  | namespaced {name rest : String} {definition : Definition Document}
      (found : definition? documents name = some definition) (left : rest ≠ "")
      (slash : Text.endsInSlash (expand documents .none definition.id) = true) :
      WritesOut documents (name ++ ":" ++ rest) (definition.id ++ rest)

theorem WritesOut.direct {documents : List Document} {form iri : String}
    (written : WritesOut documents form iri) (defaults : Defaults) :
    DirectForm documents defaults iri form := by
  cases written with
  | term found =>
      obtain ⟨document, stands, entry⟩ := entry_of_definition? found
      exact .term stands entry rfl
  | namespaced found left slash =>
      obtain ⟨document, stands, entry⟩ := entry_of_definition? found
      exact .namespaced stands entry rfl left slash

theorem reached_of_writesOut {documents : List Document} {form iri : String}
    (written : TransGen (WritesOut documents) form iri) (defaults : Defaults) :
    TransGen (DirectForm documents defaults) iri form := by
  induction written with
  | single step => exact .single (step.direct defaults)
  | tail _ step ih => exact .head (step.direct defaults) ih

theorem rank_compact?_le {nested documents : List Document} {defaults : Defaults} {iri form : String}
    (member : form ∈ candidates nested documents defaults iri) :
    rank ((compact? nested documents defaults iri).getD iri) ≤ rank form := by
  cases found : compact? nested documents defaults iri with
  | none =>
      have nothing : candidates nested documents defaults iri = [] := bestForm?_eq_none.mp found
      rw [nothing] at member
      exact absurd member List.not_mem_nil
  | some best => exact rank_bestForm?_le found form member

theorem append_of_splitAtColon? {name before after : String}
    (divided : Text.splitAtColon? name = some (before, after)) : before ++ ":" ++ after = name := by
  have mark := List.head?_dropWhile_not (· != ':') name.toList
  have whole : name.toList.takeWhile (· != ':') ++ name.toList.dropWhile (· != ':') = name.toList :=
    List.takeWhile_append_dropWhile
  rw [Text.splitAtColon?, List.span_eq_takeWhile_dropWhile] at divided
  generalize name.toList.takeWhile (· != ':') = left at divided whole
  generalize name.toList.dropWhile (· != ':') = right at divided whole mark
  cases right with
  | nil => cases divided
  | cons c letters =>
      cases divided
      have colon : c = ':' := by simpa using mark
      rw [← String.toList_inj, ← whole, colon]
      simp

theorem endsInSlash_append {left right : String} (filled : right ≠ "") :
    Text.endsInSlash (left ++ right) = Text.endsInSlash right := by
  have letters : right.toList ≠ [] := by simpa using filled
  unfold Text.endsInSlash
  rw [String.toList_append, List.getLast?_append, List.getLast?_eq_some_getLast letters,
    Option.some_or]

theorem isKeyword_append {left right : String} (keyword : isKeyword left = true) :
    isKeyword (left ++ right) = true := by
  unfold isKeyword at keyword ⊢
  rw [beq_iff_eq] at keyword
  rw [String.toList_append, List.head?_append, keyword]
  rfl

/-- No name leads back to itself, and no namespace is defined by an alias, a term or a term with a
colon that stands for it. -/
structure Spelled (documents : List Document) : Prop where
  uncircular : Uncircular documents
  namespaces : ∀ name definition, definition? documents name = some definition →
    Text.endsInSlash (expand documents .none definition.id) = true →
      definition? documents definition.id = none ∧ Text.endsInSlash definition.id = true

/-- A name that is no term stands for a namespace and what follows the colon. -/
structure Divided (documents : List Document) (name before after : String)
    (definition : Definition Document) : Prop where
  joined : before ++ ":" ++ after = name
  found : definition? documents before = some definition
  first : Continues documents name before
  second : Continues documents before definition.id
  slash : Text.endsInSlash (expand documents .none definition.id) = true
  expanded : expand documents .none name = expand documents .none definition.id ++ after

section

variable {documents : List Document} (spelled : Spelled documents)

include spelled

theorem expand_definition {name : String} {definition : Definition Document}
    (plain : ¬ isKeyword name = true) (found : definition? documents name = some definition) :
    expand documents .none name = expand documents .none definition.id := by
  rw [expand_none, expand_none, expandTerm_eq_expandStep spelled.uncircular, expandStep,
    if_neg plain, found]

theorem expand_undefined {name : String} (undefined : definition? documents name = none) :
    expand documents .none name = name ∨
      ∃ before after definition, Divided documents name before after definition := by
  by_cases keyword : isKeyword name = true
  · left
    rw [expand, expandStep, if_pos keyword]
  · cases declared : declaredPrefix? documents name with
    | none =>
        left
        rw [expand, expandStep, if_neg keyword, undefined, declared, withDefaults_none]
        rfl
    | some parts =>
        obtain ⟨before, after⟩ := parts
        obtain ⟨divided, known⟩ := declaredPrefix?_eq_some declared
        obtain ⟨definition, found⟩ := isDeclared_iff.mp known
        have joined := append_of_splitAtColon? divided
        have plain : ¬ isKeyword before = true := by
          intro special
          rw [← joined, String.append_assoc] at keyword
          exact keyword (isKeyword_append special)
        have step : expand documents .none name =
            if Text.endsInSlash (expand documents .none definition.id) = true then
              expand documents .none definition.id ++ after
            else name := by
          rw [← expand_definition spelled plain found]
          rw [expand_none, expand_none, expandTerm_eq_expandStep spelled.uncircular, expandStep,
            if_neg keyword, undefined, declared]
          rfl
        by_cases slash : Text.endsInSlash (expand documents .none definition.id) = true
        · rw [if_pos slash] at step
          exact Or.inr ⟨before, after, definition, joined, found,
            continues_prefixed keyword undefined declared, continues_definition plain found, slash, step⟩
        · rw [if_neg slash] at step
          exact Or.inl step

theorem writesOut_append {name rest : String} (undefined : definition? documents name = none)
    (left : rest ≠ "") :
    ReflTransGen (WritesOut documents) (name ++ rest) (expand documents .none name ++ rest) := by
  induction name using (wellFounded_continues spelled.uncircular).transGen.induction
    generalizing rest with
  | _ name ih =>
      rcases expand_undefined spelled undefined with same | ⟨before, after, definition, divided⟩
      · rw [same]
      · -- The name before the colon is written out too, so two steps of expansion are one here.
        have further : after ++ rest ≠ "" := by simp [left]
        have path := ih definition.id (.tail (.single divided.second) divided.first)
          (spelled.namespaces before definition divided.found divided.slash).1 further
        have step := WritesOut.namespaced divided.found further divided.slash
        rw [← String.append_assoc, divided.joined] at step
        rw [divided.expanded, String.append_assoc]
        exact .head step path

theorem writesOut_expand {name : String}
    (shown : Text.endsInSlash (expand documents .none name) = true →
      definition? documents name = none → Text.endsInSlash name = true) :
    ReflTransGen (WritesOut documents) name (expand documents .none name) := by
  induction name using (wellFounded_continues spelled.uncircular).induction with
  | _ name ih =>
      cases found : definition? documents name with
      | some definition =>
          by_cases keyword : isKeyword name = true
          · rw [expand, expandStep, if_pos keyword]
          · rw [expand_definition spelled keyword found]
            refine .head (.term found) (ih definition.id (continues_definition keyword found) ?_)
            intro slash _
            exact (spelled.namespaces name definition found slash).2
      | none =>
          rcases expand_undefined spelled found with same | ⟨before, after, definition, divided⟩
          · rw [same]
          · -- Nothing is written out where nothing follows the colon.
            have left : after ≠ "" := by
              rintro rfl
              have ends : Text.endsInSlash name = true := by
                refine shown ?_ found
                rw [divided.expanded, String.append_empty]
                exact divided.slash
              rw [← divided.joined, String.append_empty, endsInSlash_append (by decide)] at ends
              exact absurd ends (by decide)
            have undefined := (spelled.namespaces before definition divided.found divided.slash).1
            have path := writesOut_append spelled undefined left
            rw [divided.expanded]
            exact .head (divided.joined ▸ .namespaced divided.found left divided.slash) path

end

/-! The answer and the names that expand to the IRI. -/

/-- No term that expands to an IRI and no declared name that expands to a namespace of it is better
than the answer. -/
structure Complete (resolver : Resolver) (iri answer : String) : Prop where
  terms : ∀ name, isDeclared resolver.documents name = true → resolver.expandIri name = iri →
    name ≠ iri → rank answer ≤ rank name
  namespaces : ∀ name rest, isDeclared resolver.documents name = true →
    Text.endsInSlash (resolver.expandIri name) = true → resolver.expandIri name ++ rest = iri →
      rest ≠ "" → resolver.expandIri (name ++ ":" ++ rest) = iri →
        rank answer ≤ rank (name ++ ":" ++ rest)

theorem rank_compactIri_le_direct {resolver : Resolver} {iri form : String}
    (back : resolver.expandIri form = iri) (written : WritesOut resolver.documents form iri) :
    rank (resolver.compactIri iri) ≤ rank form := by
  have direct := mem_directForms.mpr (written.direct .none)
  have met := direct_subset_collectForms (compactionDepth - 1) iri [] direct
  exact rank_compact?_le (mem_candidates.mpr ⟨met, back⟩)

theorem rank_compactIri_le {resolver : Resolver} {iri form : String}
    (short : ShortChains resolver.documents .none iri) (back : resolver.expandIri form = iri)
    (written : TransGen (WritesOut resolver.documents) form iri) :
    rank (resolver.compactIri iri) ≤ rank form :=
  rank_compact?_le
    ((mem_candidates_iff_isForm short).mpr ⟨reached_of_writesOut written .none, back⟩)

theorem transGen_writesOut {resolver : Resolver} (spelled : Spelled resolver.documents)
    {iri form : String} (back : resolver.expandIri form = iri) (different : form ≠ iri)
    (shown : Text.endsInSlash iri = true → definition? resolver.documents form = none →
      Text.endsInSlash form = true) : TransGen (WritesOut resolver.documents) form iri := by
  unfold Resolver.expandIri at back
  subst back
  rcases Relation.reflTransGen_iff_eq_or_transGen.mp (writesOut_expand spelled shown) with same | path
  · exact absurd same.symm different
  · exact path

theorem compactIri_complete {resolver : Resolver} (spelled : Spelled resolver.documents)
    {iri : String} (short : ShortChains resolver.documents .none iri) :
    Complete resolver iri (resolver.compactIri iri) := by
  constructor
  · intro name declared back different
    obtain ⟨definition, found⟩ := isDeclared_iff.mp declared
    refine rank_compactIri_le short back (transGen_writesOut spelled back different ?_)
    intro _ undefined
    cases undefined.symm.trans found
  · intro name rest _ slash joined left back
    refine rank_compactIri_le short back (transGen_writesOut spelled back ?_ ?_)
    · rw [← joined]
      intro same
      rw [← (String.append_left_inj rest).mp same, endsInSlash_append (by decide)] at slash
      exact absurd slash (by decide)
    · intro ends _
      rw [← joined, endsInSlash_append left] at ends
      rwa [endsInSlash_append left]

/-- A form that expands to an IRI and is written out as this IRI is no better than the answer: at once
if that takes one step, and else if no chain of forms is longer than a search is deep. Where no
definition is circular and no namespace has an alias, this goes for all names. -/
theorem compact_complete (documents : List Document) (steps : List Step) (iri : String) :
    (∀ form, (Resolver.ofDocuments documents).expandIri form = iri →
      WritesOut (Resolver.ofDocuments documents).documents form iri →
        rank (answerAfter documents steps .compactIri iri) ≤ rank form) ∧
    (ShortChains (Resolver.ofDocuments documents).documents .none iri →
      (∀ form, (Resolver.ofDocuments documents).expandIri form = iri →
        TransGen (WritesOut (Resolver.ofDocuments documents).documents) form iri →
          rank (answerAfter documents steps .compactIri iri) ≤ rank form) ∧
      (Spelled (Resolver.ofDocuments documents).documents →
        Complete (Resolver.ofDocuments documents) iri
          (answerAfter documents steps .compactIri iri))) := by
  rw [answerAfter_eq documents steps .compactIri iri rfl]
  constructor
  · intro form back written
    exact rank_compactIri_le_direct back written
  · intro short
    constructor
    · intro form back written
      exact rank_compactIri_le short back written
    · intro spelled
      exact compactIri_complete spelled short

theorem not_transGen_of_endsWithin {forms : String → List String} {bound : Nat} {name : String}
    (ends : EndsWithin forms bound name) :
    ¬ TransGen (fun name following => following ∈ forms name) name name := by
  induction bound generalizing name with
  | zero =>
      unfold EndsWithin at ends
      intro circle
      obtain ⟨following, step, -⟩ := TransGen.head'_iff.mp circle
      rw [ends] at step
      exact List.not_mem_nil step
  | succ bound ih =>
      intro circle
      obtain ⟨following, step, path⟩ := TransGen.head'_iff.mp circle
      exact ih (ends following step) (.tail' path step)

theorem uncircular_of_endsWithin {documents : List Document} {bound : Nat}
    (ends : ∀ name ∈ mentioned documents,
      EndsWithin (fun name => (continuation? documents name).toList) bound name) :
    Uncircular documents := by
  intro name circle
  obtain ⟨earlier, -, step⟩ := TransGen.tail'_iff.mp circle
  have never := not_transGen_of_endsWithin (ends name (mem_mentioned_of_continuation? step))
  simp only [Option.mem_toList] at never
  exact never circle

theorem spelled_people : Spelled [peopleDocument] := by
  constructor
  case uncircular =>
    have ends : ∀ name ∈ mentioned [peopleDocument],
        EndsWithin (fun name => (continuation? [peopleDocument] name).toList) 4 name := by
      decide +kernel
    exact uncircular_of_endsWithin ends
  case namespaces =>
    intro name definition found
    obtain ⟨document, stands, entry⟩ := entry_of_definition? found
    have namespaces : ∀ document ∈ [peopleDocument], ∀ entry ∈ document.terms,
        Text.endsInSlash (expand [peopleDocument] .none entry.2.id) = true →
          (definition? [peopleDocument] entry.2.id).isNone = true ∧
            Text.endsInSlash entry.2.id = true := by
      decide +kernel
    intro slash
    obtain ⟨undefined, ends⟩ := namespaces document stands (name, definition) entry slash
    exact ⟨Option.isNone_iff_eq_none.mp undefined, ends⟩

theorem compact_complete_people :
    (Resolver.ofDocuments [peopleDocument]).expandIri "foaf:Person" =
      "http://xmlns.com/foaf/0.1/Person" ∧
    WritesOut [peopleDocument] "foaf:Person" "http://xmlns.com/foaf/0.1/Person" ∧
    rank (answerAfter [peopleDocument] [] .compactIri "http://xmlns.com/foaf/0.1/Person") ≤
      rank "foaf:Person" ∧
    ShortChains [peopleDocument] .none "http://xmlns.com/foaf/0.1/Person" ∧
    (Resolver.ofDocuments [peopleDocument]).expandIri "Person" =
      "http://xmlns.com/foaf/0.1/Person" ∧
    TransGen (WritesOut [peopleDocument]) "Person" "http://xmlns.com/foaf/0.1/Person" ∧
    rank (answerAfter [peopleDocument] [] .compactIri "http://xmlns.com/foaf/0.1/Person") ≤
      rank "Person" ∧
    Spelled [peopleDocument] ∧
    Complete (Resolver.ofDocuments [peopleDocument]) "http://xmlns.com/foaf/0.1/Person"
      (answerAfter [peopleDocument] [] .compactIri "http://xmlns.com/foaf/0.1/Person") := by
  have divided : (Resolver.ofDocuments [peopleDocument]).expandIri "foaf:Person" =
      "http://xmlns.com/foaf/0.1/Person" := by decide +kernel
  have whole : (Resolver.ofDocuments [peopleDocument]).expandIri "Person" =
      "http://xmlns.com/foaf/0.1/Person" := by decide +kernel
  have term : WritesOut [peopleDocument] "Person" "foaf:Person" := by
    have found : definition? [peopleDocument] "Person" = some ⟨"foaf:Person", none, none⟩ := rfl
    exact .term found
  have namespaced : WritesOut [peopleDocument] "foaf:Person" "http://xmlns.com/foaf/0.1/Person" := by
    have found : definition? [peopleDocument] "foaf" =
      some ⟨"http://xmlns.com/foaf/0.1/", none, none⟩ := rfl
    have left : "Person" ≠ "" := by decide
    exact .namespaced found left (by decide +kernel)
  have written : TransGen (WritesOut [peopleDocument]) "Person"
      "http://xmlns.com/foaf/0.1/Person" := .head term (.single namespaced)
  have short : ShortChains [peopleDocument] .none "http://xmlns.com/foaf/0.1/Person" := by
    decide +kernel
  obtain ⟨direct, others⟩ :=
    compact_complete [peopleDocument] [] "http://xmlns.com/foaf/0.1/Person"
  obtain ⟨reached, complete⟩ := others short
  exact ⟨divided, namespaced, direct _ divided namespaced, short, whole, written,
    reached _ whole written, spelled_people, complete spelled_people⟩

def aliasDocument : Document :=
  .mk none none [plainTerm "a" "example", plainTerm "example" "http://example.org/"]

def colonDocument : Document :=
  .mk none none [plainTerm "example" "http://example.org/", plainTerm "t" "example:"]

def circularDocument : Document :=
  .mk none none [plainTerm "x/" "x/:foo"]

def chainDocument : Document :=
  .mk none none
    [plainTerm "k1" "urn:x", plainTerm "k2" "k1", plainTerm "k3" "k2", plainTerm "k4" "k3",
      plainTerm "k5" "k4", plainTerm "k6" "k5", plainTerm "k7" "k6", plainTerm "k8" "k7",
      plainTerm "z" "k8"]

/-- Passed over are an alias of a namespace, without and with a colon, a circular definition, and the
last of nine terms in a chain. -/
theorem compact_incomplete :
    ¬ Complete (Resolver.ofDocuments [aliasDocument]) "http://example.org/Foo"
      (answerAfter [aliasDocument] [] .compactIri "http://example.org/Foo") ∧
    ¬ Complete (Resolver.ofDocuments [colonDocument]) "http://example.org/"
      (answerAfter [colonDocument] [] .compactIri "http://example.org/") ∧
    ¬ Complete (Resolver.ofDocuments [circularDocument]) "x/foo"
      (answerAfter [circularDocument] [] .compactIri "x/foo") ∧
    ¬ Complete (Resolver.ofDocuments [chainDocument]) "urn:x"
      (answerAfter [chainDocument] [] .compactIri "urn:x") := by
  have aliasPassed : answerAfter [aliasDocument] [] .compactIri "http://example.org/Foo" =
      "example:Foo" := by decide +kernel
  have colonPassed : answerAfter [colonDocument] [] .compactIri "http://example.org/" =
      "example" := by decide +kernel
  have circularPassed : answerAfter [circularDocument] [] .compactIri "x/foo" = "x/foo" := by
    decide +kernel
  have chainPassed : answerAfter [chainDocument] [] .compactIri "urn:x" = "k1" := by decide +kernel
  rw [aliasPassed, colonPassed, circularPassed, chainPassed]
  refine ⟨?_, ?_, ?_, ?_⟩
  · intro complete
    have better : rank "a:Foo" < rank "example:Foo" := isBetter_iff.mp (by decide +kernel)
    exact better.not_ge (complete.namespaces "a" "Foo" (by decide +kernel) (by decide +kernel)
      (by decide +kernel) (by decide) (by decide +kernel))
  · intro complete
    have better : rank "t" < rank "example" := isBetter_iff.mp (by decide +kernel)
    exact better.not_ge (complete.terms "t" (by decide +kernel) (by decide +kernel) (by decide))
  · intro complete
    have better : rank "x/" < rank "x/foo" := isBetter_iff.mp (by decide +kernel)
    exact better.not_ge (complete.terms "x/" (by decide +kernel) (by decide +kernel) (by decide))
  · intro complete
    have better : rank "z" < rank "k1" := isBetter_iff.mp (by decide +kernel)
    exact better.not_ge (complete.terms "z" (by decide +kernel) (by decide +kernel) (by decide))

end ShapeCompiler.Context
