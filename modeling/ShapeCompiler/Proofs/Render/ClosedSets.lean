import ShapeCompiler.Proofs.Model.Individuals
import ShapeCompiler.Proofs.Render.TraitModules

/-! The closed sets of a model that was built: the individuals of its classes, and the values of its properties.
Their members are those that the graph gives, each once and in increasing order. -/

namespace ShapeCompiler.Model

open Rdf (Graph Term)

theorem rangeOf_oneOf {graph : Graph} {owner path : String} {shape : Term} {values : List String}
    (found : rangeOf graph owner shape path = .ok (.oneOf values)) :
    ∃ head items, graph.value? shape Rdf.Vocabulary.shIn = some head ∧ graph.list head = .ok items ∧
      values = Sorted.ofList (items.map Term.name) := by
  -- A class is looked for first, then a list, then datatypes: only a list gives values.
  unfold rangeOf at found
  split at found
  · split at found
    · cases found
    · cases found
  · split at found
    · rename_i head listed
      split at found
      · rename_i items walked
        cases found
        exact ⟨head, items, listed, walked, rfl⟩
      · cases found
    · split at found
      · cases found
      · split at found
        · split at found
          · cases found
          · cases found
        · cases found

end ShapeCompiler.Model

namespace ShapeCompiler.Render.Traits

def ClosedSet.StandsIn (model : Model) : ClosedSet → Prop
  | individuals modelClass => modelClass ∈ model.classes ∧ modelClass.individuals ≠ []
  | values owner property members =>
      owner ∈ model.classes ∧ property ∈ owner.properties ∧ property.range = .oneOf members

/-- The graph gives the members of a closed set: the named individuals with the class as a type, or the
items in the list of values that a shape of the owner has for the property. -/
def ClosedSet.Given (graph : Rdf.Graph) : ClosedSet → Prop
  | individuals modelClass => ∀ id, id ∈ modelClass.individuals.map Model.Individual.id ↔
      ⟨.iri id, Rdf.Vocabulary.rdfType, .iri Rdf.Vocabulary.owlNamedIndividual⟩ ∈ graph.triples ∧
        ⟨.iri id, Rdf.Vocabulary.rdfType, .iri modelClass.id⟩ ∈ graph.triples
  | values owner property members => ∃ shape head items,
      ⟨.iri owner.id, Rdf.Vocabulary.shProperty, shape⟩ ∈ graph.triples ∧
        graph.value? shape Rdf.Vocabulary.shPath = some (.iri property.path) ∧
        graph.value? shape Rdf.Vocabulary.shIn = some head ∧ graph.list head = .ok items ∧
        ∀ value, value ∈ members ↔ ∃ item ∈ items, item.name = value

theorem mem_closedSets {model : Model} {set : ClosedSet} :
    set ∈ closedSets model ↔ set.StandsIn model := by
  constructor
  · intro member
    obtain ⟨modelClass, inside, listed⟩ := List.mem_flatMap.mp member
    rcases List.mem_append.mp listed with own | valued
    · split at own
      · cases own
      · rename_i filled
        obtain rfl := List.mem_singleton.mp own
        exact ⟨inside, by simpa using filled⟩
    · obtain ⟨property, owned, closed⟩ := List.mem_filterMap.mp valued
      obtain ⟨values, has, rfl⟩ := Option.map_eq_some_iff.mp closed
      refine ⟨inside, owned, ?_⟩
      unfold Model.Property.values? at has
      split at has
      · rename_i range
        rw [range, Option.some.inj has]
      · cases has
  · intro stands
    cases set with
    | individuals modelClass =>
        obtain ⟨inside, filled⟩ := stands
        refine List.mem_flatMap.mpr ⟨modelClass, inside, List.mem_append_left _ ?_⟩
        rw [if_neg (by simpa using filled)]
        exact List.mem_singleton_self _
    | values owner property values =>
        obtain ⟨inside, owned, range⟩ := stands
        exact values_mem_closedSets inside owned range

section

variable {graph : Rdf.Graph} {resolver : Context.Resolver} {classes : List Model.Class} {model : Model}
  (built : Model.Built graph resolver classes model)
include built

theorem given_of_mem_closedSets {set : ClosedSet} (member : set ∈ closedSets model) :
    set.Given graph ∧ set.members.Pairwise (· < ·) := by
  have stands := mem_closedSets.mp member
  cases set with
  | individuals modelClass =>
      simp only [ClosedSet.Given, ClosedSet.members, built.individuals stands.1]
      exact ⟨fun id => Model.mem_map_id_individualsOf, Model.pairwise_map_id_individualsOf⟩
  | values owner property values =>
      obtain ⟨inside, owned, range⟩ := stands
      obtain ⟨pairs, wellFormed⟩ := built.properties inside
      obtain ⟨⟨shape, _⟩, among, rfl⟩ := List.mem_map.mp (wellFormed.kept.subset owned)
      have describes := wellFormed.each _ among
      have listed : shape ∈ Model.describingShapes graph owner.id :=
        wellFormed.shapes ▸ List.mem_map_of_mem among
      have ranged := (Model.buildProperty_sound describes.built).2.1
      rw [range] at ranged
      obtain ⟨head, items, headed, walked, rfl⟩ := Model.rangeOf_oneOf ranged
      refine ⟨⟨shape, head, items, Rdf.Graph.mem_objects.mp (List.mem_filter.mp listed).1,
        describes.path, headed, walked, ?_⟩, Sorted.pairwise_ofList _⟩
      intro value
      rw [Sorted.mem_ofList, List.mem_map]

end

end ShapeCompiler.Render.Traits
