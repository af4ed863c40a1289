import ShapeCompiler.Rdf.Term

/-! Rows of triples, and where among them the triples of each subject stand. -/

namespace ShapeCompiler.Rdf

structure Triple where
  subject : Term
  predicate : String
  object : Term
deriving DecidableEq, Inhabited

/-- What a document says. A part that is none is no term of a graph, such as a quoted triple. -/
structure Statement where
  subject : Option Term
  predicate : Option Term
  object : Option Term

/-- A statement has a place in a graph if its parts have, with an IRI as its predicate. -/
def Statement.triple? : Statement → Option Triple
  | ⟨some subject, some (.iri predicate), some object⟩ => some ⟨subject, predicate, object⟩
  | _ => none

def placesOf (triples : List Triple) (subject : Term) : List Nat :=
  (triples.zipIdx.filter fun entry => entry.1.subject = subject).map Prod.snd

theorem placesOf_append_single (triples : List Triple) (triple : Triple) (subject : Term) :
    placesOf (triples ++ [triple]) subject =
      if triple.subject = subject then placesOf triples subject ++ [triples.length]
      else placesOf triples subject := by
  rw [placesOf, List.zipIdx_append, List.filter_append, List.map_append, ← placesOf]
  by_cases own : triple.subject = subject
  · simp [own]
  · simp [own]

theorem mem_placesOf {triples : List Triple} {subject : Term} {place : Nat} :
    place ∈ placesOf triples subject ↔
      ∃ triple, triples[place]? = some triple ∧ triple.subject = subject := by
  simp only [placesOf, List.mem_map, List.mem_filter, decide_eq_true_eq]
  constructor
  · rintro ⟨⟨triple, _⟩, ⟨stands, own⟩, rfl⟩
    exact ⟨triple, List.mk_mem_zipIdx_iff_getElem?.mp stands, own⟩
  · rintro ⟨triple, stands, own⟩
    exact ⟨(triple, place), ⟨List.mk_mem_zipIdx_iff_getElem?.mpr stands, own⟩, rfl⟩

theorem filterMap_placesOf (triples : List Triple) (subject : Term) :
    (placesOf triples subject).filterMap (triples[·]?) =
      triples.filter fun triple => triple.subject = subject := by
  let own := triples.zipIdx.filter fun entry => entry.1.subject = subject
  have stands : ∀ entry ∈ own, triples[entry.2]? = some entry.1 := by
    intro entry member
    exact List.mk_mem_zipIdx_iff_getElem?.mp (List.mem_filter.mp member).1
  calc (own.map Prod.snd).filterMap (triples[·]?)
      = (own.map fun entry => triples[entry.2]?).filterMap id := by
        rw [List.filterMap_map, List.filterMap_map]
        rfl
    _ = (own.map fun entry => some entry.1).filterMap id := by rw [List.map_congr_left stands]
    _ = own.map Prod.fst := by
        rw [List.filterMap_map]
        exact congrFun List.filterMap_eq_map own
    _ = (triples.zipIdx.map Prod.fst).filter fun triple => triple.subject = subject := by
        rw [List.filter_map]
        rfl
    _ = triples.filter fun triple => triple.subject = subject := by rw [List.zipIdx_map_fst]

structure SubjectIndex where
  entries : List (Term × List Nat)

namespace SubjectIndex

def empty : SubjectIndex := ⟨[]⟩

def placesIn (subject : Term) : List (Term × List Nat) → List Nat
  | [] => []
  | entry :: rest => if entry.1 = subject then entry.2 else placesIn subject rest

def places (index : SubjectIndex) (subject : Term) : List Nat :=
  placesIn subject index.entries

def addIn (subject : Term) (place : Nat) : List (Term × List Nat) → List (Term × List Nat)
  | [] => [(subject, [place])]
  | entry :: rest =>
      if entry.1 = subject then (subject, entry.2 ++ [place]) :: rest
      else entry :: addIn subject place rest

def add (index : SubjectIndex) (subject : Term) (place : Nat) : SubjectIndex :=
  ⟨addIn subject place index.entries⟩

theorem placesIn_addIn (subject other : Term) (place : Nat) (entries : List (Term × List Nat)) :
    placesIn other (addIn subject place entries) =
      if subject = other then placesIn other entries ++ [place] else placesIn other entries := by
  induction entries with
  | nil => simp [addIn, placesIn]
  | cons entry rest ih =>
      by_cases own : entry.1 = subject
      · by_cases same : subject = other
        · simp [addIn, placesIn, own, same]
        · simp [addIn, placesIn, own, same]
      · rw [addIn, if_neg own, placesIn, placesIn, ih]
        by_cases same : entry.1 = other
        · have apart : subject ≠ other := fun equal => own (same.trans equal.symm)
          simp [same, apart]
        · simp [same]

theorem places_add (index : SubjectIndex) (subject other : Term) (place : Nat) :
    (index.add subject place).places other =
      if subject = other then index.places other ++ [place] else index.places other :=
  placesIn_addIn subject other place index.entries

/-- The index knows for every subject the places of its triples and no others. -/
def Covers (index : SubjectIndex) (triples : List Triple) : Prop :=
  ∀ subject, index.places subject = placesOf triples subject

theorem covers_nil : empty.Covers [] :=
  fun _ => rfl

theorem Covers.add {index : SubjectIndex} {triples : List Triple} (covers : index.Covers triples)
    (triple : Triple) : (index.add triple.subject triples.length).Covers (triples ++ [triple]) := by
  intro subject
  rw [places_add, placesOf_append_single, covers subject]

end SubjectIndex

end ShapeCompiler.Rdf
