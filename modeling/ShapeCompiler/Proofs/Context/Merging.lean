import ShapeCompiler.Proofs.Context.Agreement
import ShapeCompiler.Proofs.Context.RoundTrip
import ShapeCompiler.Proofs.Outcomes

/-! Two ways in which context documents overlay each other. A resolver looks a name up in its documents
one after the other, the highest priority first; an array is read into one document, in which a later
mention replaces an earlier one. Where nothing is taken back the two come to the same, with the array in
the reverse order. -/

namespace ShapeCompiler.Context

def Stated (name : String) : Json → Prop
  | .null => isKeyword name = true ∧ name ≠ "@base" ∧ name ≠ "@vocab"
  | .object members => isKeyword name = true ∨ ∃ id, Keyed.find? "@id" members = some (.string id)
  | _ => True

/-- A context takes nothing back, be it null, an array of contexts, an object around a context or an
object of members. -/
inductive Definite : Json → Prop where
  | null : Definite .null
  | array {items : List Json} (each : ∀ item ∈ items, Definite item) : Definite (.array items)
  | wrapped {members : List (String × Json)} {inner : Json}
      (found : Keyed.find? "@context" members = some inner) (definite : Definite inner) :
      Definite (.object members)
  | members {members : List (String × Json)} (bare : Keyed.find? "@context" members = none)
      (each : ∀ member ∈ members, Stated member.1 member.2) : Definite (.object members)

theorem keywordText_stated {keyword : String} {value : Json} {text : Option String}
    (stated : value ≠ .null) (read : keywordText keyword value = .ok text) :
    ∃ given, text = some given := by
  cases value with
  | string given => exact ⟨given, (Except.ok.inj read).symm⟩
  | null => exact absurd rfl stated
  | _ => cases read

theorem definition_stated {name : String} {value : Json} {found : Option (Definition Document)}
    (plain : ¬ isKeyword name = true) (stated : Stated name value)
    (read : definition name value = .ok found) : ∃ given, found = some given := by
  cases value with
  | null => exact absurd stated.1 plain
  | string id => exact ⟨⟨id, none, none⟩, (Except.ok.inj read).symm⟩
  | object members =>
      obtain ⟨id, identified⟩ := stated.resolve_left plain
      rw [definition, identified] at read
      simp only [definitionId] at read
      split at read
      · cases read
      · split at read
        · exact ⟨_, (Except.ok.inj read).symm⟩
        · exact ⟨_, (Except.ok.inj read).symm⟩
        · cases read
  | array items => cases read
  | bool value => cases read
  | number value => cases read

/-! One document for many. -/

/-- Every look-up in one document gives what is found first in the others. -/
structure Combines (documents : List Document) (combined : Document) : Prop where
  base : combined.base = documents.findSome? Document.base
  vocab : combined.vocab = documents.findSome? Document.vocab
  terms : ∀ name, Keyed.find? name combined.terms = definition? documents name

theorem combines_nil : Combines [] .empty :=
  ⟨rfl, rfl, fun _ => rfl⟩

theorem Combines.cons_empty {documents : List Document} {combined : Document}
    (combines : Combines documents combined) : Combines (.empty :: documents) combined :=
  ⟨combines.base, combines.vocab, combines.terms⟩

theorem Combines.agree {documents : List Document} {combined : Document}
    (combines : Combines documents combined) : Agree documents [combined] := by
  constructor
  · intro name
    rw [← combines.terms name, definition?, List.findSome?_singleton]
  · rw [← combines.vocab, List.findSome?_singleton]
  · rw [← combines.base, List.findSome?_singleton]

def AddsOnTop (add : Document → Except Fault Document) : Prop :=
  ∀ ⦃top added combined : Document⦄ ⦃documents : List Document⦄,
    Combines (top :: documents) combined → add top = .ok added →
      ∃ result, add combined = .ok result ∧ Combines (added :: documents) result

theorem addsOnTop_ok : AddsOnTop .ok := by
  intro top added combined documents combines ran
  cases ran
  exact ⟨combined, rfl, combines⟩

theorem AddsOnTop.bind {first second : Document → Except Fault Document} (one : AddsOnTop first)
    (other : AddsOnTop second) : AddsOnTop fun document => first document >>= second := by
  intro top added combined documents combines ran
  obtain ⟨between, started, finished⟩ := Outcomes.bind_eq_ok.mp ran
  obtain ⟨result, ranFirst, layered⟩ := one combines started
  obtain ⟨last, ranSecond, done⟩ := other layered finished
  exact ⟨last, Outcomes.bind_eq_ok.mpr ⟨result, ranFirst, ranSecond⟩, done⟩

theorem AddsOnTop.foldlM {α : Type} {step : Document → α → Except Fault Document} {items : List α}
    (each : ∀ item ∈ items, AddsOnTop (step · item)) : AddsOnTop (items.foldlM step ·) := by
  induction items with
  | nil => exact addsOnTop_ok
  | cons item rest ih =>
      simp only [List.foldlM_cons]
      exact (each item List.mem_cons_self).bind
        (ih fun later belongs => each later (List.mem_cons_of_mem item belongs))

theorem Combines.withBase {top combined : Document} {documents : List Document}
    (combines : Combines (top :: documents) combined) (given : String) :
    Combines (.mk (some given) top.vocab top.terms :: documents)
      (.mk (some given) combined.vocab combined.terms) :=
  ⟨rfl, combines.vocab, combines.terms⟩

theorem Combines.withVocab {top combined : Document} {documents : List Document}
    (combines : Combines (top :: documents) combined) (given : String) :
    Combines (.mk top.base (some given) top.terms :: documents)
      (.mk combined.base (some given) combined.terms) :=
  ⟨combines.base, rfl, combines.terms⟩

theorem Combines.define {top combined : Document} {documents : List Document}
    (combines : Combines (top :: documents) combined) (name : String)
    (given : Definition Document) :
    Combines (top.define name (some given) :: documents) (combined.define name (some given)) := by
  refine ⟨combines.base, combines.vocab, fun other => ?_⟩
  have below := combines.terms other
  simp only [definition?, List.findSome?_cons] at below ⊢
  simp only [Document.define, Document.terms, Keyed.find?_insert] at below ⊢
  by_cases same : other = name
  · simp [same]
  · simpa [same] using below

theorem addsOnTop_member {name : String} {value : Json} (stated : Stated name value) :
    AddsOnTop fun document => mergeMember document name value (definition name value) := by
  intro top added combined documents combines ran
  simp only [mergeMember] at ran ⊢
  split at ran
  · rename_i isBase
    obtain ⟨text, read, rfl⟩ := Outcomes.map_eq_ok.mp ran
    -- Null is the one value that would take back a base from below.
    have given : value ≠ .null := by
      rintro rfl
      exact stated.2.1 isBase
    obtain ⟨base, rfl⟩ := keywordText_stated given read
    refine ⟨_, ?_, combines.withBase base⟩
    rw [if_pos isBase, read]
    rfl
  · rename_i notBase
    rw [if_neg notBase]
    split at ran
    · rename_i isVocab
      obtain ⟨text, read, rfl⟩ := Outcomes.map_eq_ok.mp ran
      have given : value ≠ .null := by
        rintro rfl
        exact stated.2.2 isVocab
      obtain ⟨vocab, rfl⟩ := keywordText_stated given read
      refine ⟨_, ?_, combines.withVocab vocab⟩
      rw [if_pos isVocab, read]
      rfl
    · rename_i notVocab
      rw [if_neg notVocab]
      split at ran
      · rename_i keyword
        cases ran
        exact ⟨combined, by rw [if_pos keyword], combines⟩
      · rename_i plain
        obtain ⟨found, read, rfl⟩ := Outcomes.map_eq_ok.mp ran
        obtain ⟨given, rfl⟩ := definition_stated plain stated read
        refine ⟨_, ?_, combines.define name given⟩
        rw [if_neg plain, read]
        rfl

theorem mergeMembers_eq_foldlM (document : Document) (members : List (String × Json)) :
    mergeMembers document members =
      members.foldlM (fun document member =>
        mergeMember document member.1 member.2 (definition member.1 member.2)) document := by
  induction members generalizing document with
  | nil =>
      rw [mergeMembers, List.foldlM_nil]
      rfl
  | cons member rest ih =>
      rw [mergeMembers, List.foldlM_cons]
      cases mergeMember document member.1 member.2 (definition member.1 member.2) with
      | error fault => rfl
      | ok merged => exact ih merged

theorem mergeItems_eq_foldlM (document : Document) (items : List Json) :
    mergeItems document items = items.foldlM merge document := by
  induction items generalizing document with
  | nil =>
      rw [mergeItems, List.foldlM_nil]
      rfl
  | cons item rest ih =>
      rw [mergeItems, List.foldlM_cons]
      cases merge document item with
      | error fault => rfl
      | ok merged => exact ih merged

theorem mergeWrapped_eq (document : Document) (members : List (String × Json)) :
    mergeWrapped document members = (Keyed.find? "@context" members).map (merge document) := by
  induction members with
  | nil => rw [mergeWrapped, Keyed.find?, Option.map_none]
  | cons member rest ih =>
      rw [mergeWrapped, Keyed.find?, ih]
      split <;> rfl

theorem Definite.addsOnTop {value : Json} (definite : Definite value) :
    AddsOnTop (merge · value) := by
  induction definite with
  | null => simpa only [merge] using addsOnTop_ok
  | array _ ih =>
      simp only [merge, mergeItems_eq_foldlM]
      exact AddsOnTop.foldlM ih
  | wrapped found _ ih => simpa only [merge, mergeWrapped_eq, found, Option.map_some] using ih
  | members bare each =>
      simp only [merge, mergeWrapped_eq, bare, Option.map_none, mergeMembers_eq_foldlM]
      exact AddsOnTop.foldlM fun member belongs => addsOnTop_member (each member belongs)

theorem documentsOfJson_cons {value : Json} {values : List Json} {documents : List Document}
    (read : Resolver.documentsOfJson (value :: values) = .ok documents) :
    ∃ document rest, Document.ofJson value = .ok document ∧
      Resolver.documentsOfJson values = .ok rest ∧ documents = document :: rest := by
  rw [Resolver.documentsOfJson] at read
  cases first : Document.ofJson value with
  | error fault =>
      rw [first] at read
      cases read
  | ok document =>
      rw [first] at read
      obtain ⟨rest, others, rfl⟩ := Outcomes.map_eq_ok.mp read
      exact ⟨document, rest, rfl, others, rfl⟩

theorem foldlM_merge_reverse {values : List Json} {documents : List Document}
    (definite : ∀ value ∈ values, Definite value)
    (read : Resolver.documentsOfJson values = .ok documents) :
    ∃ combined, values.reverse.foldlM merge .empty = .ok combined ∧
      Combines documents combined := by
  induction values generalizing documents with
  | nil =>
      cases read
      exact ⟨.empty, rfl, combines_nil⟩
  | cons value rest ih =>
      obtain ⟨document, others, first, later, rfl⟩ := documentsOfJson_cons read
      obtain ⟨below, merged, combines⟩ :=
        ih (fun other belongs => definite other (List.mem_cons_of_mem value belongs)) later
      -- The first value ends the array, so it is added to what the others gave; alone, to nothing.
      obtain ⟨combined, added, done⟩ :=
        (definite value List.mem_cons_self).addsOnTop combines.cons_empty first
      refine ⟨combined, ?_, done⟩
      rw [List.reverse_cons, List.foldlM_append]
      refine Outcomes.bind_eq_ok.mpr ⟨below, merged, ?_⟩
      rw [List.foldlM_cons]
      exact Outcomes.bind_eq_ok.mpr ⟨combined, added, rfl⟩

theorem documentsOfJson_reverse {values : List Json} {documents : List Document}
    (definite : ∀ value ∈ values, Definite value)
    (read : Resolver.documentsOfJson values = .ok documents) :
    ∃ combined, Resolver.documentsOfJson [.array values.reverse] = .ok [combined] ∧
      Combines documents combined := by
  obtain ⟨combined, merged, combines⟩ := foldlM_merge_reverse definite read
  refine ⟨combined, ?_, combines⟩
  rw [Resolver.documentsOfJson, Document.ofJson, merge, mergeItems_eq_foldlM, merged]
  rfl

/-- Where nothing is taken back, the documents of a list of values and the one document of the array of
these values in reverse order expand all terms and identifiers alike, in all states of a session, and all
vocabulary terms where no vocabulary is in force. -/
theorem merging_eq_priority {values : List Json} {documents : List Document}
    (read : Resolver.documentsOfJson values = .ok documents)
    (definite : ∀ value ∈ values, Definite value) :
    ∃ combined, Resolver.documentsOfJson [.array values.reverse] = .ok [combined] ∧
      ∀ steps others name,
        answerAfter documents steps .expandIri name =
          answerAfter [combined] others .expandIri name ∧
        answerAfter documents steps .expandId name =
          answerAfter [combined] others .expandId name ∧
        ((reached documents steps).resolver.vocabularies = [] →
          (reached [combined] others).resolver.vocabularies = [] →
            answerAfter documents steps .expandVocab name =
              answerAfter [combined] others .expandVocab name) := by
  obtain ⟨combined, merged, combines⟩ := documentsOfJson_reverse definite read
  have agree : Agree (Resolver.ofDocuments documents).documents
      (Resolver.ofDocuments [combined]).documents :=
    (agree_ofDocuments documents).trans
      (combines.agree.trans (agree_ofDocuments [combined]).symm)
  refine ⟨combined, merged, fun steps others name => ⟨?_, ?_, ?_⟩⟩
  · rw [answerAfter_eq documents steps .expandIri name rfl,
      answerAfter_eq [combined] others .expandIri name rfl]
    exact agree.expand_eq .none name
  · rw [answerAfter_eq documents steps .expandId name rfl,
      answerAfter_eq [combined] others .expandId name rfl]
    exact agree.expand_eq ⟨true, false⟩ name
  · intro noneHere noneThere
    rw [answerAfter, answer_reached_nil documents noneHere, answerAfter,
      answer_reached_nil [combined] noneThere]
    exact agree.expand_eq ⟨true, true⟩ name

def lowerMembers : List (String × Json) :=
  [("@vocab", .string "http://vocab/"), ("ex", .string "http://example.org/"),
    ("name", .string "ex:second")]

def layeredValues : List Json :=
  [.object [("@base", .string "http://base/"), ("name", .string "ex:first")],
    .object [("@context", .object lowerMembers)]]

def layeredDocuments : List Document :=
  [.mk (some "http://base/") none [("name", ⟨"ex:first", none, none⟩)],
    .mk none (some "http://vocab/")
      [("ex", ⟨"http://example.org/", none, none⟩), ("name", ⟨"ex:second", none, none⟩)]]

theorem definite_layeredValues : ∀ value ∈ layeredValues, Definite value := by
  have upper : Definite (.object [("@base", .string "http://base/"), ("name", .string "ex:first")]) :=
    .members rfl (by simp [Stated])
  have lower : Definite (.object lowerMembers) := .members rfl (by simp [lowerMembers, Stated])
  have wrapper : Definite (.object [("@context", .object lowerMembers)]) := .wrapped rfl lower
  simpa [layeredValues] using ⟨upper, wrapper⟩

theorem merging_eq_priority_layered :
    Resolver.documentsOfJson layeredValues = .ok layeredDocuments ∧
    (∀ value ∈ layeredValues, Definite value) ∧
    ∃ combined, Resolver.documentsOfJson [.array layeredValues.reverse] = .ok [combined] ∧
      answerAfter [combined] [] .expandIri "name" = "http://example.org/first" ∧
      answerAfter [combined] [] .expandId "other" = "http://base/other" ∧
      answerAfter [combined] [] .expandVocab "other" = "http://vocab/other" := by
  have read : Resolver.documentsOfJson layeredValues = .ok layeredDocuments := rfl
  have definite := definite_layeredValues
  obtain ⟨combined, merged, same⟩ := merging_eq_priority read definite
  obtain ⟨terms, -, -⟩ := same [] [] "name"
  obtain ⟨-, identifiers, vocabularyTerms⟩ := same [] [] "other"
  refine ⟨read, definite, combined, merged, terms.symm.trans ?_, identifiers.symm.trans ?_,
    (vocabularyTerms rfl rfl).symm.trans ?_⟩
  · decide +kernel
  · decide +kernel
  · decide +kernel

end ShapeCompiler.Context
