import Mathlib.Data.List.Chain
import Mathlib.Data.Prod.Lex
import Mathlib.Data.String.Basic
import Mathlib.Logic.Relation
import ShapeCompiler.Proofs.Context.Expanding
import ShapeCompiler.Proofs.Context.RoundTrip
import ShapeCompiler.Proofs.Text.Cuts

/-! What a search for short forms finds. It follows a form the first time it meets it and never again,
so a form met at the end of the depth may hide what a shorter way would have led to. Where no chain of
forms is longer than the depth, nothing is hidden: the search is closed under direct forms, and the
answer is the least of all forms that expand back. -/

namespace ShapeCompiler.Context

open Relation (TransGen)

def rank (form : String) : Nat ×ₗ Nat ×ₗ String :=
  toLex (Text.countColons form, toLex (form.utf8ByteSize, form))

theorem isBetter_iff {left right : String} :
    isBetter left right = true ↔ rank left < rank right := by
  simp only [isBetter, rank, Prod.Lex.toLex_lt_toLex]
  by_cases colons : Text.countColons left = Text.countColons right
  · by_cases bytes : left.utf8ByteSize = right.utf8ByteSize
    · simp [colons, bytes]
    · simp [colons, bytes]
  · simp [colons]

theorem rank_foldl_isBetter_le (forms : List String) (first : String) :
    ∀ form ∈ first :: forms,
      rank (forms.foldl (fun best form => if isBetter form best then form else best) first) ≤
        rank form := by
  induction forms generalizing first with
  | nil => simp
  | cons next forms ih =>
      rw [List.foldl_cons]
      split
      · rename_i better
        have less := isBetter_iff.mp better
        intro form member
        rcases List.mem_cons.mp member with same | later
        · exact same ▸ (ih next next List.mem_cons_self).trans less.le
        · exact ih next form later
      · rename_i worse
        have least := not_lt.mp (mt isBetter_iff.mpr worse)
        intro form member
        rcases List.mem_cons.mp member with same | later
        · exact same ▸ ih first first List.mem_cons_self
        · rcases List.mem_cons.mp later with same | further
          · exact same ▸ (ih first first List.mem_cons_self).trans least
          · exact ih first form (List.mem_cons_of_mem first further)

theorem rank_bestForm?_le {forms : List String} {best : String}
    (found : bestForm? forms = some best) : ∀ form ∈ forms, rank best ≤ rank form := by
  cases forms with
  | nil => simp [bestForm?] at found
  | cons first forms =>
      cases found
      exact rank_foldl_isBetter_le forms first

theorem bestForm?_eq_none {forms : List String} : bestForm? forms = none ↔ forms = [] := by
  cases forms <;> simp [bestForm?]

section

variable {forms : String → List String}

/-- No chain of more than `bound` forms leads away from an IRI. -/
def EndsWithin (forms : String → List String) : Nat → String → Prop
  | 0, iri => forms iri = []
  | bound + 1, iri => ∀ form ∈ forms iri, EndsWithin forms bound form

instance decidableEndsWithin (forms : String → List String) :
    (bound : Nat) → (iri : String) → Decidable (EndsWithin forms bound iri)
  | 0, iri => inferInstanceAs (Decidable (forms iri = []))
  | bound + 1, iri =>
      letI := decidableEndsWithin forms bound
      inferInstanceAs (Decidable (∀ form ∈ forms iri, EndsWithin forms bound form))

theorem endsWithin_iff {bound : Nat} {iri : String} :
    EndsWithin forms bound iri ↔
      ∀ chain, (iri :: chain).IsChain (fun iri form => form ∈ forms iri) →
        chain.length ≤ bound := by
  induction bound generalizing iri with
  | zero =>
      unfold EndsWithin
      rw [List.eq_nil_iff_forall_not_mem]
      constructor
      · rintro none (_ | ⟨form, chain⟩) linked
        · exact le_rfl
        · exact absurd (List.isChain_cons_cons.mp linked).1 (none form)
      · intro short form member
        have single := short [form] (List.isChain_pair.mpr member)
        simp at single
  | succ bound ih =>
      unfold EndsWithin
      constructor
      · rintro ends (_ | ⟨form, chain⟩) linked
        · exact Nat.zero_le _
        · obtain ⟨member, rest⟩ := List.isChain_cons_cons.mp linked
          exact Nat.succ_le_succ (ih.mp (ends form member) chain rest)
      · intro short form member
        refine ih.mpr fun chain linked => ?_
        have longer := short (form :: chain) (List.isChain_cons_cons.mpr ⟨member, linked⟩)
        exact Nat.le_of_succ_le_succ longer

def follow (forms : String → List String) (bound : Nat) (found : List String) (form : String) :
    List String :=
  if form ∈ found then found else collectForms forms bound form (form :: found)

theorem collectForms_succ (bound : Nat) (iri : String) (found : List String) :
    collectForms forms (bound + 1) iri found = (forms iri).foldl (follow forms bound) found :=
  rfl

theorem subset_foldl {step : List String → String → List String}
    (grows : ∀ found form, found ⊆ step found form) (pending found : List String) :
    found ⊆ pending.foldl step found := by
  induction pending generalizing found with
  | nil => exact List.Subset.refl found
  | cons form pending ih => exact List.Subset.trans (grows found form) (ih (step found form))

theorem subset_follow (bound : Nat) (found : List String) (form : String) :
    found ⊆ follow forms bound found form := by
  induction bound generalizing found form with
  | zero =>
      unfold follow
      split
      · exact List.Subset.refl found
      · exact List.subset_cons_self form found
  | succ bound ih =>
      unfold follow
      split
      · exact List.Subset.refl found
      · rw [collectForms_succ]
        exact List.Subset.trans (List.subset_cons_self form found) (subset_foldl ih _ _)

theorem subset_collectForms (bound : Nat) (iri : String) (found : List String) :
    found ⊆ collectForms forms bound iri found := by
  cases bound with
  | zero => exact List.Subset.refl found
  | succ bound => exact subset_foldl (subset_follow bound) (forms iri) found

theorem mem_follow (bound : Nat) (found : List String) (form : String) :
    form ∈ follow forms bound found form := by
  unfold follow
  split
  · assumption
  · exact subset_collectForms bound form (form :: found) List.mem_cons_self

theorem subset_foldl_follow (bound : Nat) (pending found : List String) :
    pending ⊆ pending.foldl (follow forms bound) found := by
  induction pending generalizing found with
  | nil => exact List.nil_subset _
  | cons form pending ih =>
      refine List.cons_subset.mpr ⟨?_, ih (follow forms bound found form)⟩
      exact subset_foldl (subset_follow bound) pending _ (mem_follow bound found form)

theorem direct_subset_collectForms (bound : Nat) (iri : String) (found : List String) :
    forms iri ⊆ collectForms forms (bound + 1) iri found :=
  subset_foldl_follow bound (forms iri) found

def Closed (forms : String → List String) (found result : List String) : Prop :=
  ∀ form ∈ result, form ∈ found ∨ forms form ⊆ result

theorem Closed.refl (found : List String) : Closed forms found found :=
  fun _ member => Or.inl member

theorem Closed.trans {found middle result : List String} (first : Closed forms found middle)
    (second : Closed forms middle result) (kept : middle ⊆ result) : Closed forms found result := by
  intro form member
  rcases second form member with earlier | within
  · rcases first form earlier with known | within
    · exact Or.inl known
    · exact Or.inr (List.Subset.trans within kept)
  · exact Or.inr within

theorem Closed.drop {form : String} {found result : List String}
    (closed : Closed forms (form :: found) result) (within : forms form ⊆ result) :
    Closed forms found result := by
  intro other member
  rcases closed other member with known | further
  · rcases List.mem_cons.mp known with rfl | before
    · exact Or.inr within
    · exact Or.inl before
  · exact Or.inr further

theorem subset_collectForms_of_short {bound : Nat} {iri : String}
    (short : EndsWithin forms bound iri) (found : List String) :
    forms iri ⊆ collectForms forms bound iri found := by
  cases bound with
  | zero =>
      unfold EndsWithin at short
      rw [short]
      exact List.nil_subset _
  | succ bound => exact direct_subset_collectForms bound iri found

theorem closed_collectForms {bound : Nat} {iri : String} (short : EndsWithin forms bound iri)
    (found : List String) : Closed forms found (collectForms forms bound iri found) := by
  -- The induction is on the depth. What is added below a form is closed but for the form itself, and
  -- the forms of that one are added first.
  induction bound generalizing iri found with
  | zero => exact .refl found
  | succ bound ih =>
      unfold EndsWithin at short
      rw [collectForms_succ]
      generalize forms iri = pending at short ⊢
      induction pending generalizing found with
      | nil => exact .refl found
      | cons form pending inner =>
          obtain ⟨first, others⟩ := List.forall_mem_cons.mp short
          have step : Closed forms found (follow forms bound found form) := by
            unfold follow
            split
            · exact .refl found
            · exact (ih first (form :: found)).drop (subset_collectForms_of_short first _)
          exact step.trans (inner _ others) (subset_foldl (subset_follow bound) pending _)

theorem collectForms_reached {bound : Nat} {iri : String} {found : List String} {form : String}
    (member : form ∈ collectForms forms bound iri found) :
    form ∈ found ∨ TransGen (fun iri form => form ∈ forms iri) iri form := by
  induction bound generalizing iri found with
  | zero => exact Or.inl member
  | succ bound ih =>
      rw [collectForms_succ] at member
      generalize same : forms iri = pending at member
      have direct : pending ⊆ forms iri := same ▸ List.Subset.refl _
      clear same
      induction pending generalizing found with
      | nil => exact Or.inl member
      | cons next pending inner =>
          obtain ⟨first, others⟩ := List.cons_subset.mp direct
          rcases inner member others with earlier | reached
          · unfold follow at earlier
            split at earlier
            · exact Or.inl earlier
            · rcases ih earlier with known | further
              · rcases List.mem_cons.mp known with rfl | before
                · exact Or.inr (.single first)
                · exact Or.inl before
              · exact Or.inr (.head first further)
          · exact Or.inr reached

theorem mem_collectForms {bound : Nat} {iri : String} (short : EndsWithin forms bound iri)
    {form : String} :
    form ∈ collectForms forms bound iri [] ↔
      TransGen (fun iri form => form ∈ forms iri) iri form := by
  constructor
  · intro member
    exact (collectForms_reached member).resolve_left List.not_mem_nil
  · intro reached
    induction reached with
    | single direct => exact subset_collectForms_of_short short [] direct
    | tail _ direct ih =>
        exact (closed_collectForms short [] _ ih).resolve_left List.not_mem_nil direct

end

/-- A term stands for its identifier, a term and a colon for an identifier in front whose expansion
ends in a slash, and nothing for a base in front where bases count. -/
inductive DirectForm (documents : List Document) (defaults : Defaults) (iri : String) :
    String → Prop where
  | term {document : Document} {name : String} {definition : Definition Document}
      (stands : document ∈ documents) (entry : (name, definition) ∈ document.terms)
      (same : definition.id = iri) : DirectForm documents defaults iri name
  | namespaced {document : Document} {name rest : String} {definition : Definition Document}
      (stands : document ∈ documents) (entry : (name, definition) ∈ document.terms)
      (starts : definition.id ++ rest = iri) (left : rest ≠ "")
      (slash : Text.endsInSlash (expand documents .none definition.id) = true) :
      DirectForm documents defaults iri (name ++ ":" ++ rest)
  | relative {document : Document} {base rest : String} (allowed : defaults.base = true)
      (stands : document ∈ documents) (based : document.base = some base)
      (starts : base ++ rest = iri) (left : rest ≠ "") : DirectForm documents defaults iri rest

theorem mem_remainder {start text rest : String} :
    rest ∈ remainder start text ↔ start ++ rest = text ∧ rest ≠ "" := by
  rw [← Text.stripPrefix?_eq_some]
  unfold remainder
  cases Text.stripPrefix? start text with
  | none => simp
  | some found =>
      by_cases empty : found = ""
      · simp [empty, eq_comm]
      · simp only [if_neg empty, List.mem_singleton, Option.some.injEq]
        constructor
        · rintro rfl
          exact ⟨rfl, empty⟩
        · rintro ⟨rfl, -⟩
          rfl

theorem mem_termForm {documents : List Document} {iri name form : String}
    {definition : Definition Document} :
    form ∈ termForm documents iri (name, definition) ↔
      definition.id = iri ∧ form = name ∨
        ∃ rest, definition.id ++ rest = iri ∧ rest ≠ "" ∧
          Text.endsInSlash (expand documents .none definition.id) = true ∧
            form = name ++ ":" ++ rest := by
  rw [expand_none]
  unfold termForm
  by_cases same : iri = definition.id
  · simp [same]
  · simp only [if_neg same, Ne.symm same, false_and, false_or, ← Text.stripPrefix?_eq_some]
    cases stripped : Text.stripPrefix? definition.id iri with
    | none => simp
    | some rest =>
        have left : rest ≠ "" := by
          rintro rfl
          exact same (by simpa using (Text.stripPrefix?_eq_some.mp stripped).symm)
        by_cases slash : Text.endsInSlash (expandTerm documents definition.id) = true
        · simp [slash, left]
        · simp [slash]

theorem mem_baseForms {defaults : Defaults} {iri form : String} {document : Document} :
    form ∈ baseForms defaults iri document ↔
      defaults.base = true ∧ ∃ base, document.base = some base ∧ base ++ form = iri ∧ form ≠ "" := by
  unfold baseForms
  by_cases allowed : defaults.base = true
  · cases document.base <;> simp [allowed, mem_remainder]
  · simp [allowed]

theorem mem_directForms {documents : List Document} {defaults : Defaults} {iri form : String} :
    form ∈ directForms [] documents defaults iri ↔ DirectForm documents defaults iri form := by
  simp only [directForms, termForms, List.flatMap_nil, List.nil_append, List.mem_flatMap,
    List.mem_append]
  constructor
  · rintro ⟨document, stands, based | ⟨⟨name, definition⟩, entry, formed⟩⟩
    · obtain ⟨allowed, base, based, starts, left⟩ := mem_baseForms.mp based
      exact .relative allowed stands based starts left
    · rcases mem_termForm.mp formed with ⟨same, rfl⟩ | ⟨rest, starts, left, slash, rfl⟩
      · exact .term stands entry same
      · exact .namespaced stands entry starts left slash
  · intro direct
    cases direct with
    | term stands entry same =>
        exact ⟨_, stands, Or.inr ⟨_, entry, mem_termForm.mpr (Or.inl ⟨same, rfl⟩)⟩⟩
    | namespaced stands entry starts left slash =>
        exact ⟨_, stands, Or.inr ⟨_, entry,
          mem_termForm.mpr (Or.inr ⟨_, starts, left, slash, rfl⟩)⟩⟩
    | relative allowed stands based starts left =>
        exact ⟨_, stands, Or.inl (mem_baseForms.mpr ⟨allowed, _, based, starts, left⟩)⟩

/-! The best of all forms. -/

/-- A form that further steps may have reached and that expands to where it came from. -/
structure IsForm (documents : List Document) (defaults : Defaults) (iri form : String) : Prop where
  reached : TransGen (DirectForm documents defaults) iri form
  back : expand documents defaults form = iri

/-- The answer is the least of all forms, and the IRI itself where there is none. -/
structure IsBestForm (documents : List Document) (defaults : Defaults) (iri answer : String) :
    Prop where
  least : ∀ form, IsForm documents defaults iri form →
    IsForm documents defaults iri answer ∧ rank answer ≤ rank form
  unchanged : (∀ form, ¬ IsForm documents defaults iri form) → answer = iri

/-- No chain of more forms leads away from an IRI than a search follows. -/
def ShortChains (documents : List Document) (defaults : Defaults) (iri : String) : Prop :=
  ∀ chain, (iri :: chain).IsChain (DirectForm documents defaults) → chain.length ≤ compactionDepth

theorem shortChains_iff {documents : List Document} {defaults : Defaults} {iri : String} :
    ShortChains documents defaults iri ↔
      EndsWithin (directForms [] documents defaults) compactionDepth iri := by
  simp only [endsWithin_iff, mem_directForms]
  rfl

instance (documents : List Document) (defaults : Defaults) (iri : String) :
    Decidable (ShortChains documents defaults iri) :=
  decidable_of_iff' _ shortChains_iff

def candidates (nested documents : List Document) (defaults : Defaults) (iri : String) :
    List String :=
  (collectForms (directForms nested documents defaults) compactionDepth iri []).filter
    fun form => expand (nested ++ documents) defaults form = iri

theorem mem_candidates {nested documents : List Document} {defaults : Defaults} {iri form : String} :
    form ∈ candidates nested documents defaults iri ↔
      form ∈ collectForms (directForms nested documents defaults) compactionDepth iri [] ∧
        expand (nested ++ documents) defaults form = iri := by
  simp [candidates]

theorem compact?_mem {nested documents : List Document} {defaults : Defaults} {iri form : String}
    (found : compact? nested documents defaults iri = some form) :
    form ∈ candidates nested documents defaults iri :=
  bestForm?_mem found

theorem mem_candidates_iff_isForm {documents : List Document} {defaults : Defaults} {iri : String}
    (short : ShortChains documents defaults iri) {form : String} :
    form ∈ candidates [] documents defaults iri ↔ IsForm documents defaults iri form := by
  rw [mem_candidates, mem_collectForms (shortChains_iff.mp short), List.nil_append]
  simp only [mem_directForms]
  exact ⟨fun ⟨reached, back⟩ => ⟨reached, back⟩, fun form => ⟨form.reached, form.back⟩⟩

theorem compact?_best {documents : List Document} {defaults : Defaults} {iri : String}
    (short : ShortChains documents defaults iri) :
    IsBestForm documents defaults iri ((compact? [] documents defaults iri).getD iri) := by
  cases found : compact? [] documents defaults iri with
  | none =>
      have nothing : candidates [] documents defaults iri = [] := bestForm?_eq_none.mp found
      refine ⟨?_, fun _ => rfl⟩
      intro form isForm
      have member := (mem_candidates_iff_isForm short).mpr isForm
      rw [nothing] at member
      exact absurd member List.not_mem_nil
  | some best =>
      have own := (mem_candidates_iff_isForm short).mp (compact?_mem found)
      constructor
      · intro form isForm
        have member := (mem_candidates_iff_isForm short).mpr isForm
        exact ⟨own, rank_bestForm?_le found form member⟩
      · intro nothing
        exact absurd own (nothing best)

/-- Where no chain of direct forms is longer than a search follows, an IRI and an identifier are
compacted to the least of all forms that chains reach and that expand back, in whatever state of a
session. -/
theorem compact_least (documents : List Document) (steps : List Step) (iri : String) :
    (ShortChains (Resolver.ofDocuments documents).documents .none iri →
      IsBestForm (Resolver.ofDocuments documents).documents .none iri
        (answerAfter documents steps .compactIri iri)) ∧
    (ShortChains (Resolver.ofDocuments documents).documents ⟨true, false⟩ iri →
      IsBestForm (Resolver.ofDocuments documents).documents ⟨true, false⟩ iri
        (answerAfter documents steps .compactId iri)) := by
  rw [answerAfter_eq documents steps .compactIri iri rfl,
    answerAfter_eq documents steps .compactId iri rfl]
  exact ⟨compact?_best, compact?_best⟩

def plainTerm (name id : String) : String × Definition Document :=
  (name, ⟨id, none, none⟩)

def peopleDocument : Document :=
  .mk (some "http://xmlns.com/") none
    [plainTerm "Person" "foaf:Person", plainTerm "foaf" "http://xmlns.com/foaf/0.1/"]

theorem compact_least_people :
    ShortChains [peopleDocument] .none "http://xmlns.com/foaf/0.1/Person" ∧
    ShortChains [peopleDocument] ⟨true, false⟩ "http://xmlns.com/foaf/0.1/Agent" ∧
    IsBestForm [peopleDocument] .none "http://xmlns.com/foaf/0.1/Person" "Person" ∧
    IsBestForm [peopleDocument] ⟨true, false⟩ "http://xmlns.com/foaf/0.1/Agent"
      "foaf/0.1/Agent" := by
  have person : ShortChains [peopleDocument] .none "http://xmlns.com/foaf/0.1/Person" := by
    decide +kernel
  have agent : ShortChains [peopleDocument] ⟨true, false⟩ "http://xmlns.com/foaf/0.1/Agent" := by
    decide +kernel
  have best := (compact_least [peopleDocument] [] "http://xmlns.com/foaf/0.1/Person").1 person
  have named := (compact_least [peopleDocument] [] "http://xmlns.com/foaf/0.1/Agent").2 agent
  rw [answerAfter_eq [peopleDocument] [] .compactIri _ rfl] at best
  rw [answerAfter_eq [peopleDocument] [] .compactId _ rfl] at named
  have short : (Resolver.ofDocuments [peopleDocument]).answer .compactIri
      "http://xmlns.com/foaf/0.1/Person" = "Person" := by decide +kernel
  have relative : (Resolver.ofDocuments [peopleDocument]).answer .compactId
      "http://xmlns.com/foaf/0.1/Agent" = "foaf/0.1/Agent" := by decide +kernel
  rw [short] at best
  rw [relative] at named
  exact ⟨person, agent, best, named⟩

end ShapeCompiler.Context
