import ShapeCompiler.Proofs.Context.Completeness

/-! Expansion as a recursion without a bound. Where names that were met before are their own answers it
always ends, having met no more names than the definitions mention and the one it began with. Where it
ends without that guard too, the guard was never needed: the answer is the same. -/

namespace ShapeCompiler.Context

open Relation (TransGen)

def defaultVocab? (documents : List Document) (defaults : Defaults) (name : String) : Option String :=
  if isRelative name && defaults.vocab then documents.findSome? Document.vocab else none

def withDefault (documents : List Document) (defaults : Defaults) (iri name : String) : String :=
  match defaultVocab? documents defaults name with
  | some _ => iri ++ name
  | none => withDefaults documents ⟨defaults.base, false⟩ name

/-- The runs of the recursion: from a name, and the names met before it, to the answer and the names met
by then. A guarded run takes a name that was met before for its own answer. Only the first name takes a
default, and a default vocabulary is expanded in a run of its own. -/
inductive Expands (documents : List Document) (guarded : Bool) :
    Defaults → List String → String → String → List String → Prop where
  | again {defaults : Defaults} {met : List String} {name : String} (watched : guarded = true)
      (earlier : name ∈ met) : Expands documents guarded defaults met name name met
  | keyword {defaults : Defaults} {met : List String} {name : String}
      (fresh : guarded = true → name ∉ met) (keyword : isKeyword name = true) :
      Expands documents guarded defaults met name name (name :: met)
  | definition {defaults : Defaults} {met after : List String} {name answer : String}
      {definition : Definition Document} (fresh : guarded = true → name ∉ met)
      (plain : ¬ isKeyword name = true) (found : definition? documents name = some definition)
      (further : Expands documents guarded .none (name :: met) definition.id answer after) :
      Expands documents guarded defaults met name answer after
  | namespaced {defaults : Defaults} {met after : List String} {name before rest answer : String}
      (fresh : guarded = true → name ∉ met) (plain : ¬ isKeyword name = true)
      (undefined : definition? documents name = none)
      (declared : declaredPrefix? documents name = some (before, rest))
      (further : Expands documents guarded .none (name :: met) before answer after)
      (slash : Text.endsInSlash answer = true) :
      Expands documents guarded defaults met name (answer ++ rest) after
  | unprefixed {defaults : Defaults} {met after others : List String}
      {name before rest answer iri : String}
      (fresh : guarded = true → name ∉ met) (plain : ¬ isKeyword name = true)
      (undefined : definition? documents name = none)
      (declared : declaredPrefix? documents name = some (before, rest))
      (further : Expands documents guarded .none (name :: met) before answer after)
      (noSlash : ¬ Text.endsInSlash answer = true)
      (default : ∀ vocab, defaultVocab? documents defaults name = some vocab →
        Expands documents guarded .none [] vocab iri others) :
      Expands documents guarded defaults met name (withDefault documents defaults iri name) after
  | fallback {defaults : Defaults} {met others : List String} {name iri : String}
      (fresh : guarded = true → name ∉ met) (plain : ¬ isKeyword name = true)
      (undefined : definition? documents name = none)
      (undeclared : declaredPrefix? documents name = none)
      (default : ∀ vocab, defaultVocab? documents defaults name = some vocab →
        Expands documents guarded .none [] vocab iri others) :
      Expands documents guarded defaults met name (withDefault documents defaults iri name)
        (name :: met)

section

variable {documents : List Document} {guarded : Bool} {defaults : Defaults} {met after : List String}
  {name answer : String}

theorem withDefault_congr {iri other : String}
    (same : ∀ vocab, defaultVocab? documents defaults name = some vocab → iri = other) :
    withDefault documents defaults iri name = withDefault documents defaults other name := by
  unfold withDefault
  cases standing : defaultVocab? documents defaults name with
  | none => rfl
  | some vocab => rw [same vocab standing]

theorem withDefault_eq {iri : String}
    (expanded : ∀ vocab, defaultVocab? documents defaults name = some vocab →
      iri = expandTerm documents vocab) :
    withDefault documents defaults iri name = withDefaults documents defaults name := by
  unfold withDefault withDefaults
  unfold defaultVocab? at expanded ⊢
  cases relative : isRelative name with
  | false => rfl
  | true =>
      cases inForce : defaults.vocab with
      | false => rfl
      | true =>
          cases stands : documents.findSome? Document.vocab with
          | none => rfl
          | some vocab =>
              have same := expanded vocab (by simp [relative, inForce, stands])
              simp [same]

theorem Expands.unique {other : String} {others : List String}
    (run : Expands documents guarded defaults met name answer after)
    (again : Expands documents guarded defaults met name other others) :
    answer = other ∧ after = others := by
  induction run generalizing other others with
  | unprefixed fresh plain undefined declared further noSlash default ih defaultIh =>
      cases again with
      | unprefixed fresh' plain' undefined' declared' further' noSlash' default' =>
          cases declared.symm.trans declared'
          refine ⟨withDefault_congr fun vocab stands => ?_, (ih further').2⟩
          exact (defaultIh vocab stands (default' vocab stands)).1
      | _ => grind
  | fallback fresh plain undefined undeclared default defaultIh =>
      cases again with
      | fallback fresh' plain' undefined' undeclared' default' =>
          refine ⟨withDefault_congr fun vocab stands => ?_, rfl⟩
          exact (defaultIh vocab stands (default' vocab stands)).1
      | _ => grind
  | _ => cases again <;> grind

def ExpandsDefault (documents : List Document) (guarded : Bool) (defaults : Defaults) : Prop :=
  ∀ name vocab, defaultVocab? documents defaults name = some vocab →
    ∃ others, Expands documents guarded .none [] vocab (expandTerm documents vocab) others

theorem expandsDefault_none (documents : List Document) (guarded : Bool) :
    ExpandsDefault documents guarded .none := by
  intro name vocab stands
  simp [defaultVocab?, Defaults.none] at stands

theorem expandsDefault_of_runs
    (runs : ∀ vocab, ∃ others, Expands documents guarded .none [] vocab
      (expand documents .none vocab) others) : ExpandsDefault documents guarded defaults := by
  intro name vocab _
  rw [← expand_none]
  exact runs vocab

theorem ExpandsDefault.exists_run (expands : ExpandsDefault documents guarded defaults)
    (name : String) :
    ∃ iri others, (∀ vocab, defaultVocab? documents defaults name = some vocab →
        Expands documents guarded .none [] vocab iri others) ∧
      withDefault documents defaults iri name = withDefaults documents defaults name := by
  cases stands : defaultVocab? documents defaults name with
  | none =>
      refine ⟨name, [], ?_, withDefault_eq fun vocab found => ?_⟩
      · intro vocab found
        cases found
      · cases stands.symm.trans found
  | some vocab =>
      obtain ⟨others, run⟩ := expands name vocab stands
      refine ⟨expandTerm documents vocab, others, fun other found => ?_,
        withDefault_eq fun other found => ?_⟩
      · cases found
        exact run
      · cases stands.symm.trans found
        rfl

theorem expands_step (kept : List String → Prop) (fresh : guarded = true → name ∉ met)
    (start : kept (name :: met)) {next : String → String}
    (further : ∀ following, Continues documents name following → ∃ after,
      Expands documents guarded .none (name :: met) following (next following) after ∧ kept after)
    (expands : ExpandsDefault documents guarded defaults) :
    ∃ after, Expands documents guarded defaults met name
        (expandStep documents next (withDefaults documents defaults) name) after ∧ kept after := by
  unfold expandStep
  split
  · rename_i keyword
    exact ⟨name :: met, .keyword fresh keyword, start⟩
  · rename_i plain
    obtain ⟨iri, others, default, same⟩ := expands.exists_run name
    rw [← same]
    cases found : definition? documents name with
    | some definition =>
        obtain ⟨after, run, keeps⟩ := further definition.id (continues_definition plain found)
        exact ⟨after, .definition fresh plain found run, keeps⟩
    | none =>
        cases declared : declaredPrefix? documents name with
        | none => exact ⟨name :: met, .fallback fresh plain found declared default, start⟩
        | some parts =>
            obtain ⟨before, rest⟩ := parts
            obtain ⟨after, run, keeps⟩ :=
              further before (continues_prefixed plain found declared)
            refine ⟨after, ?_, keeps⟩
            simp only
            split
            · rename_i slash
              exact .namespaced fresh plain found declared run slash
            · rename_i noSlash
              exact .unprefixed fresh plain found declared run noSlash default

end

/-- No name was met twice, and the names that were met since are mentioned by definitions. -/
structure Meets (documents : List Document) (met after : List String) : Prop where
  distinct : after.Nodup
  known : ∀ name ∈ after, name ∈ met ∨ name ∈ mentioned documents

theorem Meets.refl {documents : List Document} {met : List String} (distinct : met.Nodup) :
    Meets documents met met :=
  ⟨distinct, fun _ stands => Or.inl stands⟩

theorem Meets.of_cons {documents : List Document} {name : String} {met after : List String}
    (meets : Meets documents (name :: met) after) (member : name ∈ mentioned documents) :
    Meets documents met after := by
  refine ⟨meets.distinct, fun other stands => ?_⟩
  rcases meets.known other stands with earlier | mentions
  · rcases List.mem_cons.mp earlier with same | before
    · exact Or.inr (same ▸ member)
    · exact Or.inl before
  · exact Or.inr mentions

theorem Meets.length_le {documents : List Document} {name : String} {after : List String}
    (meets : Meets documents [name] after) :
    after.length ≤ 1 + (mentioned documents).toFinset.card := by
  have within : after.toFinset ⊆ insert name (mentioned documents).toFinset := by
    intro other stands
    rcases meets.known other (List.mem_toFinset.mp stands) with same | mentions
    · exact Finset.mem_insert.mpr (Or.inl (List.mem_singleton.mp same))
    · exact Finset.mem_insert.mpr (Or.inr (List.mem_toFinset.mpr mentions))
  calc after.length
      = after.toFinset.card := (List.toFinset_card_of_nodup meets.distinct).symm
    _ ≤ (insert name (mentioned documents).toFinset).card := Finset.card_le_card within
    _ ≤ (mentioned documents).toFinset.card + 1 := Finset.card_insert_le _ _
    _ = 1 + (mentioned documents).toFinset.card := Nat.add_comm _ _

theorem expands_terms {documents : List Document} {bound : Nat} {met : List String} {name : String}
    (enough : (unmet documents met).card < bound) (member : name ∈ mentioned documents)
    (distinct : met.Nodup) :
    ∃ after, Expands documents true .none met name (expandTerms documents bound met name) after ∧
      Meets documents met after := by
  induction bound generalizing met name with
  | zero => omega
  | succ bound ih =>
      by_cases earlier : name ∈ met
      · refine ⟨met, ?_, .refl distinct⟩
        rw [expandTerms, if_pos earlier]
        exact .again rfl earlier
      · -- A name that is met for the first time leaves fewer to meet, so the bound holds for the next.
        have fewer := card_unmet_cons member earlier
        have added : (name :: met).Nodup := List.nodup_cons.mpr ⟨earlier, distinct⟩
        rw [expandTerms, if_neg earlier, ← withDefaults_none documents]
        obtain ⟨after, run, meets⟩ := expands_step (Meets documents (name :: met))
          (fun _ => earlier) (.refl added) (fun following continued =>
            ih (by omega) (mem_mentioned_of_continuation? continued) added)
          (expandsDefault_none documents true)
        exact ⟨after, run, meets.of_cons member⟩

theorem expands_guarded_of_default {documents : List Document} {defaults : Defaults}
    (expands : ExpandsDefault documents true defaults) (name : String) :
    ∃ after, Expands documents true defaults [] name (expand documents defaults name) after ∧
      Meets documents [name] after := by
  rw [expand]
  refine expands_step (Meets documents [name]) (by simp) (.refl (List.nodup_singleton name)) ?_
    expands
  intro following continued
  have fewer := card_unmet_lt documents [name]
  exact expands_terms (by omega) (mem_mentioned_of_continuation? continued)
    (List.nodup_singleton name)

theorem expands_guarded (documents : List Document) (defaults : Defaults) (name : String) :
    ∃ after, Expands documents true defaults [] name (expand documents defaults name) after ∧
      Meets documents [name] after := by
  refine expands_guarded_of_default (expandsDefault_of_runs fun vocab => ?_) name
  obtain ⟨others, run, -⟩ :=
    expands_guarded_of_default (expandsDefault_none documents true) vocab
  exact ⟨others, run⟩

/-! Runs without a guard. -/

theorem ends_of_continuation?_eq_none {documents : List Document} {name : String}
    (last : continuation? documents name = none) : Ends documents name :=
  Acc.intro name fun following continued => by cases last.symm.trans continued

theorem Ends.of_continues {documents : List Document} {name following : String}
    (ends : Ends documents following) (continued : Continues documents name following) :
    Ends documents name :=
  Acc.intro name fun other also => by
    cases continued.symm.trans also
    exact ends

theorem expands_unguarded {documents : List Document} {defaults : Defaults}
    {met after : List String} {name answer : String}
    (run : Expands documents false defaults met name answer after) :
    Ends documents name ∧ answer = expand documents defaults name := by
  induction run with
  | again watched => cases watched
  | keyword fresh keyword =>
      refine ⟨ends_of_continuation?_eq_none (by simp [continuation?, keyword]), ?_⟩
      rw [expand, expandStep, if_pos keyword]
  | definition fresh plain found further ih =>
      obtain ⟨rest, same⟩ := ih
      have ends := rest.of_continues (continues_definition plain found)
      refine ⟨ends, ?_⟩
      rw [expand_eq_expandStep ends, expandStep, if_neg plain, found, same, expand_none]
  | namespaced fresh plain undefined declared further slash ih =>
      obtain ⟨rest, same⟩ := ih
      rw [expand_none] at same
      have ends := rest.of_continues (continues_prefixed plain undefined declared)
      refine ⟨ends, ?_⟩
      rw [expand_eq_expandStep ends, expandStep, if_neg plain, undefined, declared]
      simp only [← same, if_pos slash]
  | unprefixed fresh plain undefined declared further noSlash default ih defaultIh =>
      obtain ⟨rest, same⟩ := ih
      rw [expand_none] at same
      have ends := rest.of_continues (continues_prefixed plain undefined declared)
      refine ⟨ends, ?_⟩
      rw [expand_eq_expandStep ends, expandStep, if_neg plain, undefined, declared]
      simp only [← same, if_neg noSlash]
      exact withDefault_eq fun vocab stands =>
        (defaultIh vocab stands).2.trans (expand_none documents vocab)
  | @fallback _ _ _ name _ fresh plain undefined undeclared default defaultIh =>
      have ends : Ends documents name := ends_of_continuation?_eq_none (by
        simp [continuation?, undefined, undeclared])
      refine ⟨ends, ?_⟩
      rw [expand_eq_expandStep ends, expandStep, if_neg plain, undefined, undeclared]
      exact withDefault_eq fun vocab stands =>
        (defaultIh vocab stands).2.trans (expand_none documents vocab)

/-- A name that leads back to itself has no run without a guard. -/
theorem not_expands_of_circle {documents : List Document} {defaults : Defaults}
    {met after : List String} {name answer : String}
    (circle : TransGen (Continues documents) name name) :
    ¬ Expands documents false defaults met name answer after := by
  intro run
  exact (expands_unguarded run).1.not_transGen circle

theorem expands_of_ends {documents : List Document} {defaults : Defaults} {name : String}
    (ends : Ends documents name) (expands : ExpandsDefault documents false defaults)
    (met : List String) :
    ∃ after, Expands documents false defaults met name (expand documents defaults name) after := by
  induction ends generalizing defaults met with
  | intro name further ih =>
      have followed (following : String) (continued : Continues documents name following) :
          ∃ after, Expands documents false .none (name :: met) following
            (expandTerm documents following) after ∧ True := by
        obtain ⟨after, run⟩ :=
          ih following continued (expandsDefault_none documents false) (name :: met)
        rw [expand_none] at run
        exact ⟨after, run, trivial⟩
      rw [expand_eq_expandStep (Acc.intro name further)]
      obtain ⟨after, run, -⟩ := expands_step (fun _ => True) (by simp) trivial followed expands
      exact ⟨after, run⟩

theorem expands_uncircular {documents : List Document} (uncircular : Uncircular documents)
    (defaults : Defaults) (name : String) :
    ∃ met, Expands documents false defaults [] name (expand documents defaults name) met := by
  refine expands_of_ends (uncircular.ends name) (expandsDefault_of_runs fun vocab => ?_) []
  exact expands_of_ends (uncircular.ends vocab) (expandsDefault_none documents false) []

/-- Every expansion ends: the guarded recursion has one outcome, which is the expansion, and has then met
no more different names than one and those that definitions mention; so has the run for the default
vocabulary. Where the recursion ends without its guard it has the same answer, and it does so wherever no
definition is circular. -/
theorem expansion_safe (documents : List Document) (defaults : Defaults) (name : String) :
    (∃ met, (∀ answer after, Expands documents true defaults [] name answer after ↔
        answer = expand documents defaults name ∧ after = met) ∧
      met.Nodup ∧ met.length ≤ 1 + (mentioned documents).toFinset.card) ∧
    (∀ answer met, Expands documents false defaults [] name answer met →
      answer = expand documents defaults name) ∧
    (Uncircular documents →
      ∃ met, Expands documents false defaults [] name (expand documents defaults name) met) := by
  obtain ⟨met, run, meets⟩ := expands_guarded documents defaults name
  refine ⟨⟨met, fun answer after => ⟨?_, ?_⟩, meets.distinct, meets.length_le⟩, ?_, ?_⟩
  · intro other
    exact other.unique run
  · rintro ⟨rfl, rfl⟩
    exact run
  · intro answer met ended
    exact (expands_unguarded ended).2
  · intro uncircular
    exact expands_uncircular uncircular defaults name

example : expand [.mk none none [plainTerm "a" "b", plainTerm "b" "a"]] .none "a" = "a" := by
  decide +kernel

theorem expansion_safe_people :
    (∃ met, (∀ answer after, Expands [peopleDocument] true ⟨true, true⟩ [] "Person" answer after ↔
        answer = "http://xmlns.com/foaf/0.1/Person" ∧ after = met) ∧
      met.Nodup ∧ met.length ≤ 1 + (mentioned [peopleDocument]).toFinset.card) ∧
    Expands [peopleDocument] false ⟨true, true⟩ [] "foaf" "http://xmlns.com/foaf/0.1/"
      ["http://xmlns.com/foaf/0.1/", "foaf"] ∧
    "http://xmlns.com/foaf/0.1/" = expand [peopleDocument] ⟨true, true⟩ "foaf" ∧
    Uncircular [peopleDocument] ∧
    (∃ met, Expands [peopleDocument] false ⟨true, true⟩ [] "Person"
      "http://xmlns.com/foaf/0.1/Person" met) := by
  have expanded : expand [peopleDocument] ⟨true, true⟩ "Person" =
      "http://xmlns.com/foaf/0.1/Person" := by decide +kernel
  have last : Expands [peopleDocument] false .none ["foaf"] "http://xmlns.com/foaf/0.1/"
      "http://xmlns.com/foaf/0.1/" ["http://xmlns.com/foaf/0.1/", "foaf"] :=
    @Expands.fallback _ _ _ _ [] _ "" (by simp) (by decide) rfl rfl
      fun vocab stands => by cases stands
  have found : definition? [peopleDocument] "foaf" =
    some ⟨"http://xmlns.com/foaf/0.1/", none, none⟩ := rfl
  have run : Expands [peopleDocument] false ⟨true, true⟩ [] "foaf" "http://xmlns.com/foaf/0.1/"
      ["http://xmlns.com/foaf/0.1/", "foaf"] := .definition (by simp) (by decide) found last
  obtain ⟨safe, -, ends⟩ := expansion_safe [peopleDocument] ⟨true, true⟩ "Person"
  rw [expanded] at safe ends
  exact ⟨safe, run, (expansion_safe [peopleDocument] ⟨true, true⟩ "foaf").2.1 _ _ run,
    spelled_people.uncircular, ends spelled_people.uncircular⟩

end ShapeCompiler.Context
