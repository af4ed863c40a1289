import Mathlib.Data.Finset.Card
import Mathlib.Logic.Relation
import ShapeCompiler.Context.Resolver

/-! How far an expansion goes. Every name that it continues with is the name or the identifier of a
definition, and its bound counts all of these, so the bound is never met. Where the definitions go in
no circle, no name is met twice either, and the expansion of a name is one step followed by the
expansion of what that leads to. -/

namespace ShapeCompiler.Context

open Relation (TransGen)

def mentioned (documents : List Document) : List String :=
  documents.flatMap fun document => document.terms.flatMap fun term => [term.1, term.2.id]

theorem length_flatMap_pair (terms : List (String × Definition Document)) :
    (terms.flatMap fun term => [term.1, term.2.id]).length = 2 * terms.length := by
  induction terms with
  | nil => rfl
  | cons term terms ih =>
      rw [List.flatMap_cons, List.length_append, ih, List.length_cons]
      simp only [List.length_cons, List.length_nil]
      omega

theorem length_mentioned (documents : List Document) :
    (mentioned documents).length = 2 * total (documents.map fun document => document.terms.length) := by
  induction documents with
  | nil => rfl
  | cons document documents ih =>
      unfold mentioned at ih ⊢
      rw [List.flatMap_cons, List.length_append, length_flatMap_pair, ih, List.map_cons, total]
      omega

theorem entry_of_definition? {documents : List Document} {name : String}
    {definition : Definition Document} (found : definition? documents name = some definition) :
    ∃ document ∈ documents, (name, definition) ∈ document.terms := by
  obtain ⟨document, stands, held⟩ := List.exists_of_findSome?_eq_some found
  exact ⟨document, stands, Keyed.mem_of_find? held⟩

theorem mentioned_of_definition? {documents : List Document} {name : String}
    {definition : Definition Document} (found : definition? documents name = some definition) :
    name ∈ mentioned documents ∧ definition.id ∈ mentioned documents := by
  obtain ⟨document, stands, entry⟩ := entry_of_definition? found
  constructor
  · exact List.mem_flatMap.mpr ⟨document, stands, List.mem_flatMap.mpr ⟨_, entry, by simp⟩⟩
  · exact List.mem_flatMap.mpr ⟨document, stands, List.mem_flatMap.mpr ⟨_, entry, by simp⟩⟩

theorem isDeclared_iff {documents : List Document} {name : String} :
    isDeclared documents name = true ↔
      ∃ definition, definition? documents name = some definition := by
  rw [← Option.isSome_iff_exists, definition?, List.findSome?_isSome_iff, isDeclared,
    List.any_eq_true]
  rfl

theorem declaredPrefix?_eq_some {documents : List Document} {name before after : String}
    (declared : declaredPrefix? documents name = some (before, after)) :
    Text.splitAtColon? name = some (before, after) ∧ isDeclared documents before = true := by
  unfold declaredPrefix? at declared
  split at declared
  · rename_i split
    split at declared
    · rename_i known
      cases declared
      exact ⟨split, known⟩
    · cases declared
  · cases declared

def continuation? (documents : List Document) (name : String) : Option String :=
  if isKeyword name then none
  else match definition? documents name with
    | some definition => some definition.id
    | none => (declaredPrefix? documents name).map Prod.fst

theorem mem_mentioned_of_continuation? {documents : List Document} {name following : String}
    (continued : continuation? documents name = some following) :
    following ∈ mentioned documents := by
  unfold continuation? at continued
  split at continued
  · cases continued
  · split at continued
    · rename_i definition found
      cases continued
      exact (mentioned_of_definition? found).2
    · obtain ⟨⟨before, after⟩, declared, rfl⟩ := Option.map_eq_some_iff.mp continued
      obtain ⟨definition, found⟩ := isDeclared_iff.mp (declaredPrefix?_eq_some declared).2
      exact (mentioned_of_definition? found).1

theorem expandStep_congr {documents : List Document} {next other : String → String} {name : String}
    (agree : ∀ following, continuation? documents name = some following →
      next following = other following) (fallback : String → String) :
    expandStep documents next fallback name = expandStep documents other fallback name := by
  unfold expandStep
  unfold continuation? at agree
  split
  · rfl
  · rename_i plain
    rw [if_neg plain] at agree
    cases found : definition? documents name with
    | some definition =>
        rw [found] at agree
        exact agree definition.id rfl
    | none =>
        rw [found] at agree
        cases declared : declaredPrefix? documents name with
        | none => rfl
        | some parts =>
            rw [declared] at agree
            simp only [agree parts.1 rfl]

def unmet (documents : List Document) (visited : List String) : Finset String :=
  (mentioned documents).toFinset \ visited.toFinset

theorem card_unmet_le (documents : List Document) (visited : List String) :
    (unmet documents visited).card ≤ (mentioned documents).length :=
  (Finset.card_le_card Finset.sdiff_subset).trans (List.toFinset_card_le _)

theorem card_unmet_lt (documents : List Document) (visited : List String) :
    (unmet documents visited).card + 1 < expansionBound documents := by
  have most := card_unmet_le documents visited
  rw [length_mentioned] at most
  unfold expansionBound
  omega

theorem card_unmet_cons {documents : List Document} {visited : List String} {name : String}
    (member : name ∈ mentioned documents) (fresh : name ∉ visited) :
    (unmet documents (name :: visited)).card < (unmet documents visited).card := by
  apply Finset.card_lt_card
  rw [Finset.ssubset_iff_of_subset]
  · exact ⟨name, by simp [unmet, member, fresh], by simp [unmet]⟩
  · refine Finset.sdiff_subset_sdiff (Finset.Subset.refl _) ?_
    rw [List.toFinset_cons]
    exact Finset.subset_insert name visited.toFinset

theorem expandTerms_bound_irrelevant {documents : List Document} {bound other : Nat}
    {visited : List String} (enough : (unmet documents visited).card < bound)
    (too : (unmet documents visited).card < other) {name : String}
    (member : name ∈ mentioned documents) :
    expandTerms documents bound visited name = expandTerms documents other visited name := by
  induction bound generalizing other visited name with
  | zero => omega
  | succ bound ih =>
      cases other with
      | zero => omega
      | succ other =>
          simp only [expandTerms]
          split
          · rfl
          · rename_i fresh
            have fewer := card_unmet_cons member fresh
            apply expandStep_congr
            intro following continued
            exact ih (by omega) (by omega) (mem_mentioned_of_continuation? continued)

theorem withDefaults_none (documents : List Document) : withDefaults documents .none = id := by
  funext name
  simp [withDefaults, Defaults.none]

theorem expand_none (documents : List Document) (name : String) :
    expand documents .none name = expandTerm documents name := by
  have fewer := card_unmet_lt documents [name]
  rw [expandTerm, expansionBound, expandTerms, if_neg List.not_mem_nil, expand, withDefaults_none]
  apply expandStep_congr
  intro following continued
  refine expandTerms_bound_irrelevant ?_ ?_ (mem_mentioned_of_continuation? continued)
  · omega
  · rw [expansionBound] at fewer
    omega

def Continues (documents : List Document) (name following : String) : Prop :=
  continuation? documents name = some following

theorem continues_definition {documents : List Document} {name : String}
    {definition : Definition Document} (plain : ¬ isKeyword name = true)
    (found : definition? documents name = some definition) :
    Continues documents name definition.id := by
  simp [Continues, continuation?, plain, found]

theorem continues_prefixed {documents : List Document} {name before after : String}
    (plain : ¬ isKeyword name = true) (undefined : definition? documents name = none)
    (declared : declaredPrefix? documents name = some (before, after)) :
    Continues documents name before := by
  simp [Continues, continuation?, plain, undefined, declared]

/-- No name leads back to itself. -/
def Uncircular (documents : List Document) : Prop :=
  ∀ name, ¬ TransGen (Continues documents) name name

/-- The names to which a name leads come to an end. -/
def Ends (documents : List Document) : String → Prop :=
  Acc fun following name => Continues documents name following

theorem led_cons {documents : List Document} {visited : List String} {name following : String}
    (led : ∀ earlier ∈ visited, TransGen (Continues documents) earlier name)
    (continued : Continues documents name following) :
    ∀ earlier ∈ name :: visited, TransGen (Continues documents) earlier following :=
  List.forall_mem_cons.mpr
    ⟨.single continued, fun earlier met => (led earlier met).tail continued⟩

section

variable {documents : List Document} (uncircular : Uncircular documents)

include uncircular

theorem acc_continues {bound : Nat} {visited : List String} {name : String}
    (enough : (unmet documents visited).card < bound) (member : name ∈ mentioned documents)
    (led : ∀ earlier ∈ visited, TransGen (Continues documents) earlier name) :
    Ends documents name := by
  induction bound generalizing visited name with
  | zero => omega
  | succ bound ih =>
      have fresh : name ∉ visited := fun met => uncircular name (led name met)
      have fewer : (unmet documents (name :: visited)).card < bound :=
        (card_unmet_cons member fresh).trans_le (Nat.le_of_lt_succ enough)
      refine Acc.intro name fun following continued => ?_
      exact ih fewer (mem_mentioned_of_continuation? continued) (led_cons led continued)

theorem wellFounded_continues :
    WellFounded fun following name => Continues documents name following := by
  refine ⟨fun name => Acc.intro name fun following continued => ?_⟩
  exact acc_continues uncircular (Nat.lt_succ_self (unmet documents []).card)
    (mem_mentioned_of_continuation? continued) (by simp)

end

theorem Uncircular.ends {documents : List Document} (uncircular : Uncircular documents)
    (name : String) : Ends documents name :=
  (wellFounded_continues uncircular).apply name

section

variable {documents : List Document}

theorem Ends.not_transGen {name : String} (ends : Ends documents name) :
    ¬ TransGen (Continues documents) name name := by
  induction ends with
  | intro name _ ih =>
      intro circle
      obtain ⟨following, continued, path⟩ := TransGen.head'_iff.mp circle
      exact ih following continued (.tail' path continued)

theorem expandTerms_visited_irrelevant {bound : Nat} {visited other : List String} {name : String}
    (ends : Ends documents name)
    (led : ∀ earlier ∈ visited, TransGen (Continues documents) earlier name)
    (too : ∀ earlier ∈ other, TransGen (Continues documents) earlier name) :
    expandTerms documents bound visited name = expandTerms documents bound other name := by
  induction bound generalizing visited other name with
  | zero => rfl
  | succ bound ih =>
      rw [expandTerms, expandTerms, if_neg fun met => ends.not_transGen (led name met),
        if_neg fun met => ends.not_transGen (too name met)]
      apply expandStep_congr
      intro following continued
      exact ih (ends.inv continued) (led_cons led continued) (led_cons too continued)

theorem expand_eq_expandStep {name : String} (ends : Ends documents name) (defaults : Defaults) :
    expand documents defaults name =
      expandStep documents (expandTerm documents) (withDefaults documents defaults) name := by
  rw [expand]
  apply expandStep_congr
  intro following continued
  exact expandTerms_visited_irrelevant (ends.inv continued) (by simpa using .single continued)
    (by simp)

theorem expandTerm_eq_expandStep (uncircular : Uncircular documents) (name : String) :
    expandTerm documents name = expandStep documents (expandTerm documents) id name := by
  rw [← expand_none, expand_eq_expandStep (uncircular.ends name), withDefaults_none]

end

end ShapeCompiler.Context
