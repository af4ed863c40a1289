import ShapeCompiler.Proofs.Context.Merging

/-! What a JSON value says as a context. It comes down to leaves, the objects of members that stand in
arrays and inside wrappers, and of all that the leaves say of a name the last counts. -/

namespace ShapeCompiler.Context

mutual

/-- The objects of members that a value comes down to, in their order. -/
def leaves : Json → List (List (String × Json))
  | .array items => leavesOfItems items
  | .object members => (leavesWrapped? members).getD [members]
  | _ => []

def leavesOfItems : List Json → List (List (String × Json))
  | [] => []
  | item :: items => leaves item ++ leavesOfItems items

def leavesWrapped? : List (String × Json) → Option (List (List (String × Json)))
  | [] => none
  | (name, value) :: members =>
      if name = "@context" then some (leaves value) else leavesWrapped? members

end

/-- What is met on the way from a value down to its leaves. -/
inductive Met : Json → Json → Prop where
  | self (value : Json) : Met value value
  | item {items : List Json} {item part : Json} (listed : item ∈ items) (inside : Met item part) :
      Met (.array items) part
  | wrapped {members : List (String × Json)} {inner part : Json}
      (found : Keyed.find? "@context" members = some inner) (inside : Met inner part) :
      Met (.object members) part

def Composite (value : Json) : Prop :=
  value = .null ∨ (∃ items, value = .array items) ∨ ∃ members, value = .object members

def OptionalText (value : Json) : Prop :=
  value = .null ∨ ∃ text, value = .string text

def text? : Json → Option String
  | .string text => some text
  | _ => none

mutual

/-- Nothing but arrays, objects and null stands above the leaves, and the members of all leaves are well
formed. -/
inductive WellFormed : Json → Prop where
  | intro {value : Json} (composite : ∀ part, Met value part → Composite part)
      (members : ∀ leaf ∈ leaves value, ∀ member ∈ leaf, WellFormedMember member.1 member.2) :
      WellFormed value

/-- Of the keywords only those of the defaults have to be given a text or null. -/
inductive WellFormedMember : String → Json → Prop where
  | default {name : String} {value : Json} (names : name = "@base" ∨ name = "@vocab")
      (text : OptionalText value) : WellFormedMember name value
  | keyword {name : String} (value : Json) (keyword : isKeyword name = true) (notBase : name ≠ "@base")
      (notVocab : name ≠ "@vocab") : WellFormedMember name value
  | term {name : String} {value : Json} (plain : isKeyword name = false)
      (definition : WellFormedDefinition value) : WellFormedMember name value

/-- The type and the context of an object count only if the object has an identifier. -/
inductive WellFormedDefinition : Json → Prop where
  | null : WellFormedDefinition .null
  | text (id : String) : WellFormedDefinition (.string id)
  | unidentified {members : List (String × Json)}
      (missing : Keyed.find? "@id" members = none ∨ Keyed.find? "@id" members = some .null) :
      WellFormedDefinition (.object members)
  | identified {members : List (String × Json)} {id : String}
      (given : Keyed.find? "@id" members = some (.string id))
      (typed : ∀ type, Keyed.find? "@type" members = some type → OptionalText type)
      (nested : ∀ inner, Keyed.find? "@context" members = some inner → WellFormed inner) :
      WellFormedDefinition (.object members)

end

/-- What a value makes of a term. A nested context is read as a document of its own. -/
inductive Defines : Json → Definition Document → Prop where
  | text (id : String) : Defines (.string id) ⟨id, none, none⟩
  | bare {members : List (String × Json)} {id : String}
      (given : Keyed.find? "@id" members = some (.string id))
      (alone : Keyed.find? "@context" members = none) :
      Defines (.object members)
        ⟨id, ((Keyed.find? "@type" members).bind text?).map TermType.ofText, none⟩
  | nesting {members : List (String × Json)} {id : String} {inner : Json} {nested : Document}
      (given : Keyed.find? "@id" members = some (.string id))
      (holds : Keyed.find? "@context" members = some inner)
      (read : Document.ofJson inner = .ok nested) :
      Defines (.object members)
        ⟨id, ((Keyed.find? "@type" members).bind text?).map TermType.ofText, some nested⟩

/-- What is said of a name by the last leaf that mentions it, and by the last mention in that leaf. -/
def lastMention? (name : String) (value : Json) : Option Json :=
  (leaves value).reverse.findSome? fun leaf => Keyed.find? name leaf.reverse

/-- A document holds of every name what is last said of it. -/
structure HoldsLast (value : Json) (document : Document) : Prop where
  base : document.base = (lastMention? "@base" value).bind text?
  vocab : document.vocab = (lastMention? "@vocab" value).bind text?
  terms : ∀ name given, Keyed.find? name document.terms = some given ↔
    isKeyword name = false ∧ ∃ said, lastMention? name value = some said ∧ Defines said given
  increasing : (document.terms.map Prod.fst).Pairwise (· < ·)

theorem leavesOfItems_eq (items : List Json) : leavesOfItems items = items.flatMap leaves := by
  induction items with
  | nil => rfl
  | cons item rest ih => rw [leavesOfItems, ih, List.flatMap_cons]

theorem leavesWrapped?_eq (members : List (String × Json)) :
    leavesWrapped? members = (Keyed.find? "@context" members).map leaves := by
  induction members with
  | nil => rfl
  | cons member rest ih =>
      rw [leavesWrapped?, Keyed.find?, ih]
      split <;> rfl

theorem leaves_wrapped {members : List (String × Json)} {inner : Json}
    (found : Keyed.find? "@context" members = some inner) :
    leaves (.object members) = leaves inner := by
  rw [leaves, leavesWrapped?_eq, found]
  rfl

theorem leaves_bare {members : List (String × Json)}
    (bare : Keyed.find? "@context" members = none) : leaves (.object members) = [members] := by
  rw [leaves, leavesWrapped?_eq, bare]
  rfl

theorem leaves_simple {value : Json} (notArray : ∀ items, value ≠ .array items)
    (notObject : ∀ members, value ≠ .object members) : leaves value = [] := by
  cases value with
  | array items => exact absurd rfl (notArray items)
  | object members => exact absurd rfl (notObject members)
  | _ => rfl

theorem sizeOf_lt_of_item {items : List Json} {item : Json} (listed : item ∈ items) :
    sizeOf item < sizeOf (Json.array items) := by
  have below := List.sizeOf_lt_of_mem listed
  simp only [Json.array.sizeOf_spec]
  omega

theorem sizeOf_lt_of_member {members : List (String × Json)} {member : String × Json}
    (listed : member ∈ members) : sizeOf member.2 < sizeOf (Json.object members) := by
  have below := List.sizeOf_lt_of_mem listed
  obtain ⟨name, value⟩ := member
  simp only [Json.object.sizeOf_spec, Prod.mk.sizeOf_spec] at below ⊢
  omega

theorem sizeOf_lt_of_find? {name : String} {members : List (String × Json)} {value : Json}
    (found : Keyed.find? name members = some value) : sizeOf value < sizeOf (Json.object members) :=
  sizeOf_lt_of_member (Keyed.mem_of_find? found)

theorem contextInduction {motive : Json → Prop}
    (array : ∀ items, (∀ item ∈ items, motive item) → motive (.array items))
    (wrapped : ∀ members inner, Keyed.find? "@context" members = some inner → motive inner →
      motive (.object members))
    (bare : ∀ members, Keyed.find? "@context" members = none → motive (.object members))
    (simple : ∀ value, (∀ items, value ≠ .array items) → (∀ members, value ≠ .object members) →
      motive value)
    (value : Json) : motive value := by
  generalize counted : sizeOf value = size
  induction size using Nat.strongRecOn generalizing value with
  | ind size ih =>
      subst counted
      cases value with
      | array items => exact array items fun item listed => ih _ (sizeOf_lt_of_item listed) item rfl
      | object members =>
          cases found : Keyed.find? "@context" members with
          | none => exact bare members found
          | some inner => exact wrapped members inner found (ih _ (sizeOf_lt_of_find? found) inner rfl)
      | _ => exact simple _ nofun nofun

theorem sizeOf_lt_of_leaf {value : Json} {leaf : List (String × Json)} {member : String × Json}
    (reached : leaf ∈ leaves value) (listed : member ∈ leaf) : sizeOf member.2 < sizeOf value := by
  induction value using contextInduction with
  | array items ih =>
      rw [leaves, leavesOfItems_eq, List.mem_flatMap] at reached
      obtain ⟨item, inside, reached⟩ := reached
      exact Nat.lt_trans (ih item inside reached) (sizeOf_lt_of_item inside)
  | wrapped members inner found ih =>
      rw [leaves_wrapped found] at reached
      exact Nat.lt_trans (ih reached) (sizeOf_lt_of_find? found)
  | bare members found =>
      rw [leaves_bare found, List.mem_singleton] at reached
      exact sizeOf_lt_of_member (reached ▸ listed)
  | simple value notArray notObject => simp [leaves_simple notArray notObject] at reached

theorem mergeMembers_append (document : Document) (members others : List (String × Json)) :
    mergeMembers document (members ++ others) =
      mergeMembers document members >>= (mergeMembers · others) := by
  simp only [mergeMembers_eq_foldlM, List.foldlM_append]

theorem merge_eq_mergeMembers {value : Json} (composite : ∀ part, Met value part → Composite part)
    (document : Document) :
    merge document value = mergeMembers document (leaves value).flatten := by
  induction value using contextInduction generalizing document with
  | array items ih =>
      have each : ∀ item ∈ items, ∀ document,
          merge document item = mergeMembers document (leaves item).flatten :=
        fun item listed => ih item listed fun part inside => composite part (.item listed inside)
      rw [merge, mergeItems_eq_foldlM, leaves, leavesOfItems_eq]
      -- Each item goes on from what the items before it made, so this is for every document.
      clear composite ih
      induction items generalizing document with
      | nil =>
          rw [List.foldlM_nil, List.flatMap_nil, List.flatten_nil, mergeMembers]
          rfl
      | cons item rest ih =>
          rw [List.foldlM_cons, List.flatMap_cons, List.flatten_append, mergeMembers_append,
            each item List.mem_cons_self document]
          congr 1
          funext merged
          exact ih merged fun later listed => each later (List.mem_cons_of_mem item listed)
  | wrapped members inner found ih =>
      rw [merge, mergeWrapped_eq, found, leaves_wrapped found]
      exact ih (fun part inside => composite part (.wrapped found inside)) document
  | bare members found =>
      rw [merge, mergeWrapped_eq, found, leaves_bare found, List.flatten_singleton]
      rfl
  | simple value notArray notObject =>
      rcases composite value (.self value) with rfl | ⟨items, same⟩ | ⟨members, same⟩
      · rfl
      · exact absurd same (notArray items)
      · exact absurd same (notObject members)

theorem composite_of_merge {value part : Json} (met : Met value part) {document result : Document}
    (merged : merge document value = .ok result) : Composite part := by
  induction met generalizing document result with
  | self value =>
      cases value with
      | null => exact Or.inl rfl
      | array items => exact Or.inr (Or.inl ⟨items, rfl⟩)
      | object members => exact Or.inr (Or.inr ⟨members, rfl⟩)
      | bool flag => cases merged
      | number number => cases merged
      | string url => cases merged
  | @item items item part listed inside ih =>
      rw [merge, mergeItems_eq_foldlM] at merged
      induction items generalizing document with
      | nil => cases listed
      | cons head rest later =>
          rw [List.foldlM_cons] at merged
          -- The run over the items passes through the one in which the part is met.
          obtain ⟨between, first, others⟩ := Outcomes.bind_eq_ok.mp merged
          rcases List.mem_cons.mp listed with same | behind
          · exact ih (same ▸ first)
          · exact later behind others
  | wrapped found inside ih =>
      rw [merge, mergeWrapped_eq, found] at merged
      exact ih merged

theorem keywordText_eq_ok {keyword : String} {value : Json} {text : Option String} :
    keywordText keyword value = .ok text ↔ OptionalText value ∧ text = text? value := by
  cases value <;> simp [keywordText, OptionalText, text?, eq_comm]

theorem definitionType_eq_ok {name : String} {given : Option Json} {type : Option TermType} :
    definitionType name given = .ok type ↔
      (∀ value, given = some value → OptionalText value) ∧
        type = (given.bind text?).map TermType.ofText := by
  cases given with
  | none => simp [definitionType, eq_comm]
  | some value => cases value <;> simp [definitionType, OptionalText, text?, eq_comm]

theorem definition_unidentified {name : String} {members : List (String × Json)}
    (missing : Keyed.find? "@id" members = none ∨ Keyed.find? "@id" members = some .null) :
    definition name (.object members) = .ok none := by
  rw [definition]
  rcases missing with missing | missing <;> rw [missing] <;> rfl

theorem definition_identified_eq_ok {name id : String} {members : List (String × Json)}
    {found : Option (Definition Document)}
    (given : Keyed.find? "@id" members = some (.string id)) :
    definition name (.object members) = .ok found ↔
      (∀ type, Keyed.find? "@type" members = some type → OptionalText type) ∧
        ∃ nested, (Keyed.find? "@context" members).map Document.ofJson = nested.map .ok ∧
          found = some ⟨id, ((Keyed.find? "@type" members).bind text?).map TermType.ofText, nested⟩ := by
  rw [definition, given, definitionId]
  dsimp only
  cases typed : definitionType name (Keyed.find? "@type" members) with
  | error fault =>
      have refused : ¬ ∀ type, Keyed.find? "@type" members = some type → OptionalText type := by
        intro allowed
        cases typed.symm.trans (definitionType_eq_ok.mpr ⟨allowed, rfl⟩)
      simp [refused]
  | ok type =>
      obtain ⟨allowed, rfl⟩ := definitionType_eq_ok.mp typed
      rw [mergeWrapped_eq, and_iff_right allowed]
      change _ ↔ ∃ nested, (Keyed.find? "@context" members).map (merge .empty) = _ ∧ _
      cases (Keyed.find? "@context" members).map (merge .empty) with
      | none => simp [eq_comm]
      | some outcome => cases outcome <;> simp [eq_comm]

theorem definition_misidentified {name : String} {members : List (String × Json)} {value : Json}
    (given : Keyed.find? "@id" members = some value) (wrong : ¬ OptionalText value)
    (found : Option (Definition Document)) : definition name (.object members) ≠ .ok found := by
  rw [definition, given]
  cases value with
  | null => exact absurd (Or.inl rfl) wrong
  | string id => exact absurd (Or.inr ⟨id, rfl⟩) wrong
  | _ =>
      intro read
      cases read

theorem exists_definition_iff {name : String} {value : Json}
    (nested : ∀ members inner, value = .object members →
      Keyed.find? "@context" members = some inner →
        ((∃ document, Document.ofJson inner = .ok document) ↔ WellFormed inner)) :
    (∃ found, definition name value = .ok found) ↔ WellFormedDefinition value := by
  cases value with
  | null => exact ⟨fun _ => .null, fun _ => ⟨none, rfl⟩⟩
  | string id => exact ⟨fun _ => .text id, fun _ => ⟨some ⟨id, none, none⟩, rfl⟩⟩
  | bool flag => exact ⟨nofun, nofun⟩
  | number number => exact ⟨nofun, nofun⟩
  | array items => exact ⟨nofun, nofun⟩
  | object members =>
      constructor
      · rintro ⟨found, read⟩
        cases identifier : Keyed.find? "@id" members with
        | none => exact .unidentified (Or.inl identifier)
        | some value =>
            by_cases optional : OptionalText value
            · rcases optional with rfl | ⟨id, rfl⟩
              · exact .unidentified (Or.inr identifier)
              · obtain ⟨typed, document, inside, _⟩ :=
                  (definition_identified_eq_ok identifier).mp read
                refine .identified identifier typed fun inner holds => ?_
                rw [holds, Option.map_some] at inside
                cases document with
                | none => cases inside
                | some document =>
                    exact (nested members inner rfl holds).mp ⟨document, Option.some.inj inside⟩
            · exact absurd read (definition_misidentified identifier optional found)
      · intro wellFormed
        cases wellFormed with
        | unidentified missing => exact ⟨none, definition_unidentified missing⟩
        | @identified _ id given typed readable =>
            cases holds : Keyed.find? "@context" members with
            | none =>
                refine ⟨_, (definition_identified_eq_ok given).mpr ⟨typed, none, ?_, rfl⟩⟩
                rw [holds]
                rfl
            | some inner =>
                obtain ⟨document, read⟩ := (nested members inner rfl holds).mpr (readable inner holds)
                refine ⟨_, (definition_identified_eq_ok given).mpr ⟨typed, some document, ?_, rfl⟩⟩
                rw [holds, Option.map_some, read]
                rfl

theorem mergeMember_eq_ok {document result : Document} {name : String} {value : Json}
    {read : Except Fault (Option (Definition Document))} :
    mergeMember document name value read = .ok result ↔
      (name = "@base" ∧ OptionalText value ∧
        .mk (text? value) document.vocab document.terms = result) ∨
      (name = "@vocab" ∧ OptionalText value ∧
        .mk document.base (text? value) document.terms = result) ∨
      (isKeyword name = true ∧ name ≠ "@base" ∧ name ≠ "@vocab" ∧ document = result) ∨
      (isKeyword name = false ∧ ∃ found, read = .ok found ∧ document.define name found = result) := by
  have baseKeyword : isKeyword "@base" = true := by decide
  have vocabKeyword : isKeyword "@vocab" = true := by decide
  by_cases isBase : name = "@base"
  · subst isBase
    simp [mergeMember, Outcomes.map_eq_ok, keywordText_eq_ok, baseKeyword, and_assoc]
  · by_cases isVocab : name = "@vocab"
    · subst isVocab
      simp [mergeMember, Outcomes.map_eq_ok, keywordText_eq_ok, vocabKeyword, and_assoc]
    · cases keyword : isKeyword name with
      | true => simp [mergeMember, isBase, isVocab, keyword]
      | false => simp [mergeMember, isBase, isVocab, keyword, Outcomes.map_eq_ok]

theorem exists_mergeMember_iff {name : String} {value : Json}
    (accepted : (∃ found, definition name value = .ok found) ↔ WellFormedDefinition value)
    (document : Document) :
    (∃ result, mergeMember document name value (definition name value) = .ok result) ↔
      WellFormedMember name value := by
  simp only [mergeMember_eq_ok]
  constructor
  · rintro ⟨result, ⟨isBase, text, _⟩ | ⟨isVocab, text, _⟩ | ⟨keyword, notBase, notVocab, _⟩ |
      ⟨plain, found, read, _⟩⟩
    · exact .default (Or.inl isBase) text
    · exact .default (Or.inr isVocab) text
    · exact .keyword value keyword notBase notVocab
    · exact .term plain (accepted.mp ⟨found, read⟩)
  · intro wellFormed
    cases wellFormed with
    | default names text =>
        rcases names with isBase | isVocab
        · exact ⟨_, Or.inl ⟨isBase, text, rfl⟩⟩
        · exact ⟨_, Or.inr (Or.inl ⟨isVocab, text, rfl⟩)⟩
    | keyword _ keyword notBase notVocab =>
        exact ⟨_, Or.inr (Or.inr (Or.inl ⟨keyword, notBase, notVocab, rfl⟩))⟩
    | term plain definition =>
        obtain ⟨found, read⟩ := accepted.mpr definition
        exact ⟨_, Or.inr (Or.inr (Or.inr ⟨plain, found, read, rfl⟩))⟩

theorem exists_mergeMembers_iff {members : List (String × Json)}
    (accepted : ∀ member ∈ members, (∃ found, definition member.1 member.2 = .ok found) ↔
      WellFormedDefinition member.2) (document : Document) :
    (∃ result, mergeMembers document members = .ok result) ↔
      ∀ member ∈ members, WellFormedMember member.1 member.2 := by
  simp only [mergeMembers_eq_foldlM]
  induction members generalizing document with
  | nil => exact ⟨fun _ => nofun, fun _ => ⟨document, rfl⟩⟩
  | cons member rest ih =>
      have first := exists_mergeMember_iff (accepted member List.mem_cons_self)
      have others := ih fun later listed => accepted later (List.mem_cons_of_mem member listed)
      simp only [List.foldlM_cons, Outcomes.bind_eq_ok, List.forall_mem_cons]
      constructor
      · rintro ⟨result, between, merged, run⟩
        exact ⟨(first document).mp ⟨between, merged⟩, (others between).mp ⟨result, run⟩⟩
      · rintro ⟨wellFormed, each⟩
        obtain ⟨between, merged⟩ := (first document).mpr wellFormed
        obtain ⟨result, run⟩ := (others between).mpr each
        exact ⟨result, between, merged, run⟩

theorem exists_ofJson_iff (value : Json) :
    (∃ document, Document.ofJson value = .ok document) ↔ WellFormed value := by
  generalize counted : sizeOf value = size
  induction size using Nat.strongRecOn generalizing value with
  | ind size ih =>
      subst counted
      -- A nested context is smaller than the value in which its definition stands.
      have accepted : ∀ member ∈ (leaves value).flatten,
          (∃ found, definition member.1 member.2 = .ok found) ↔ WellFormedDefinition member.2 := by
        intro member listed
        obtain ⟨leaf, reached, inside⟩ := List.mem_flatten.mp listed
        refine exists_definition_iff fun members inner same holds => ih _ ?_ inner rfl
        have smaller := sizeOf_lt_of_leaf reached inside
        rw [same] at smaller
        exact Nat.lt_trans (sizeOf_lt_of_find? holds) smaller
      have readable := exists_mergeMembers_iff accepted .empty
      constructor
      · rintro ⟨document, read⟩
        have composite : ∀ part, Met value part → Composite part :=
          fun part met => composite_of_merge met read
        rw [Document.ofJson, merge_eq_mergeMembers composite] at read
        refine .intro composite fun leaf reached member listed => ?_
        exact readable.mp ⟨document, read⟩ member (List.mem_flatten_of_mem reached listed)
      · rintro ⟨composite, members⟩
        rw [Document.ofJson, merge_eq_mergeMembers composite]
        refine readable.mpr fun member listed => ?_
        obtain ⟨leaf, reached, inside⟩ := List.mem_flatten.mp listed
        exact members leaf reached member inside

/-! What a document that was read holds. -/

theorem mergeMembers_invariant {Holds : Document → Prop} {members : List (String × Json)}
    (step : ∀ member ∈ members, ∀ document result, Holds document →
      mergeMember document member.1 member.2 (definition member.1 member.2) = .ok result →
        Holds result)
    {document result : Document} (start : Holds document)
    (merged : mergeMembers document members = .ok result) : Holds result := by
  rw [mergeMembers_eq_foldlM] at merged
  induction members generalizing document with
  | nil =>
      cases merged
      exact start
  | cons member rest ih =>
      rw [List.foldlM_cons] at merged
      obtain ⟨between, first, others⟩ := Outcomes.bind_eq_ok.mp merged
      refine ih (fun later listed => step later (List.mem_cons_of_mem member listed)) ?_ others
      exact step member List.mem_cons_self document between start first

/-- Where the members of one name, and they alone, decide what is seen of a document, the last of them
decides. -/
theorem mergeMembers_last {β : Type} (view : Document → β) {name : String} (meaning : Json → β)
    {members : List (String × Json)}
    (step : ∀ (member : String × Json) document result,
      mergeMember document member.1 member.2 (definition member.1 member.2) = .ok result →
        view result = if member.1 = name then meaning member.2 else view document)
    {document result : Document} (merged : mergeMembers document members = .ok result) :
    view result = ((Keyed.find? name members.reverse).map meaning).getD (view document) := by
  rw [mergeMembers_eq_foldlM] at merged
  induction members generalizing document with
  | nil =>
      cases merged
      rfl
  | cons member rest ih =>
      rw [List.foldlM_cons] at merged
      obtain ⟨between, first, others⟩ := Outcomes.bind_eq_ok.mp merged
      rw [ih others, step member document between first, List.reverse_cons, Keyed.find?_append]
      cases Keyed.find? name rest.reverse with
      | some said => rfl
      | none => by_cases same : member.1 = name <;> simp [Keyed.find?, same]

theorem find?_define (document : Document) (name other : String)
    (found : Option (Definition Document)) :
    Keyed.find? other (document.define name found).terms =
      if other = name then found else Keyed.find? other document.terms := by
  cases found with
  | some given => exact Keyed.find?_insert name other given document.terms
  | none =>
      rw [Document.define, Document.terms]
      split
      · rename_i same
        rw [same, Keyed.find?_erase_self]
      · rename_i different
        rw [Keyed.find?_erase_ne different]

section

variable {name : String} {value : Json} {document result : Document}
  (merged : mergeMember document name value (definition name value) = .ok result)
include merged

theorem base_mergeMember :
    result.base = if name = "@base" then text? value else document.base := by
  rcases mergeMember_eq_ok.mp merged with ⟨rfl, _, rfl⟩ | ⟨rfl, _, rfl⟩ | ⟨_, other, _, rfl⟩ |
    ⟨plain, found, _, rfl⟩
  · rfl
  · rfl
  · rw [if_neg other]
  · have other : name ≠ "@base" := by
      rintro rfl
      exact absurd plain (by decide)
    rw [if_neg other]
    cases found <;> rfl

theorem vocab_mergeMember :
    result.vocab = if name = "@vocab" then text? value else document.vocab := by
  rcases mergeMember_eq_ok.mp merged with ⟨rfl, _, rfl⟩ | ⟨rfl, _, rfl⟩ | ⟨_, _, other, rfl⟩ |
    ⟨plain, found, _, rfl⟩
  · rfl
  · rfl
  · rw [if_neg other]
  · have other : name ≠ "@vocab" := by
      rintro rfl
      exact absurd plain (by decide)
    rw [if_neg other]
    cases found <;> rfl

theorem terms_mergeMember {term : String} (plain : isKeyword term = false) :
    Keyed.find? term result.terms =
      if name = term then (definition term value).toOption.join
      else Keyed.find? term document.terms := by
  have notKeyword (keyword : isKeyword name = true) : name ≠ term := by
    rintro rfl
    rw [plain] at keyword
    cases keyword
  rcases mergeMember_eq_ok.mp merged with ⟨rfl, _, rfl⟩ | ⟨rfl, _, rfl⟩ | ⟨keyword, _, _, rfl⟩ |
    ⟨_, found, read, rfl⟩
  · rw [if_neg (notKeyword (by decide))]
    rfl
  · rw [if_neg (notKeyword (by decide))]
    rfl
  · rw [if_neg (notKeyword keyword)]
  · rw [find?_define]
    by_cases same : term = name
    · subst same
      rw [if_pos rfl, if_pos rfl, read]
      rfl
    · rw [if_neg same, if_neg (Ne.symm same)]

end

/-- The terms stand in the order of their names, and no keyword is among them. -/
structure Tidy (document : Document) : Prop where
  increasing : (document.terms.map Prod.fst).Pairwise (· < ·)
  plain : ∀ name, isKeyword name = true → Keyed.find? name document.terms = none

theorem increasing_define {document : Document} {name : String}
    {found : Option (Definition Document)}
    (increasing : (document.terms.map Prod.fst).Pairwise (· < ·)) :
    ((document.define name found).terms.map Prod.fst).Pairwise (· < ·) := by
  cases found with
  | some given => exact Keyed.increasing_insert name given increasing
  | none => exact List.pairwise_map.mpr ((List.pairwise_map.mp increasing).filter _)

theorem Tidy.mergeMember {name : String} {value : Json} {document result : Document}
    (tidy : Tidy document)
    (merged : mergeMember document name value (definition name value) = .ok result) :
    Tidy result := by
  rcases mergeMember_eq_ok.mp merged with ⟨_, _, rfl⟩ | ⟨_, _, rfl⟩ | ⟨_, _, _, rfl⟩ |
    ⟨plain, found, _, rfl⟩
  · exact ⟨tidy.increasing, tidy.plain⟩
  · exact ⟨tidy.increasing, tidy.plain⟩
  · exact tidy
  · refine ⟨increasing_define tidy.increasing, fun other keyword => ?_⟩
    have different : other ≠ name := by
      rintro rfl
      rw [plain] at keyword
      cases keyword
    rw [find?_define, if_neg different, tidy.plain other keyword]

theorem defines_object_iff {members : List (String × Json)} {given : Definition Document} :
    Defines (.object members) given ↔
      ∃ id nested, Keyed.find? "@id" members = some (.string id) ∧
        (Keyed.find? "@context" members).map Document.ofJson = nested.map .ok ∧
        given = ⟨id, ((Keyed.find? "@type" members).bind text?).map TermType.ofText, nested⟩ := by
  constructor
  · intro defines
    cases defines with
    | bare identifier alone => exact ⟨_, none, identifier, by rw [alone]; rfl, rfl⟩
    | nesting identifier holds read =>
        refine ⟨_, some _, identifier, ?_, rfl⟩
        rw [holds, Option.map_some, read]
        rfl
  · rintro ⟨id, nested, identifier, inside, rfl⟩
    cases nested with
    | none => exact .bare identifier (Option.map_eq_none_iff.mp inside)
    | some document =>
        obtain ⟨inner, holds, read⟩ := Option.map_eq_some_iff.mp inside
        exact .nesting identifier holds read

theorem definition_eq_some_iff {name : String} {value : Json} {found : Option (Definition Document)}
    (read : definition name value = .ok found) {given : Definition Document} :
    found = some given ↔ Defines value given := by
  cases value with
  | null =>
      cases read
      exact ⟨nofun, nofun⟩
  | string id =>
      cases read
      constructor
      · rintro ⟨⟩
        exact .text id
      · rintro ⟨⟩
        rfl
  | bool flag => cases read
  | number number => cases read
  | array items => cases read
  | object members =>
      rw [defines_object_iff]
      cases identifier : Keyed.find? "@id" members with
      | none =>
          cases (definition_unidentified (Or.inl identifier)).symm.trans read
          simp
      | some value =>
          by_cases optional : OptionalText value
          · rcases optional with rfl | ⟨id, rfl⟩
            · cases (definition_unidentified (Or.inr identifier)).symm.trans read
              simp
            · obtain ⟨_, nested, inside, rfl⟩ := (definition_identified_eq_ok identifier).mp read
              constructor
              · rintro ⟨⟩
                exact ⟨id, nested, rfl, inside, rfl⟩
              · rintro ⟨_, other, ⟨⟩, same, rfl⟩
                have unique : nested = other :=
                  Option.map_injective (fun _ _ => Except.ok.inj) (inside.symm.trans same)
                rw [unique]
          · exact absurd read (definition_misidentified identifier optional found)

theorem lastMention?_eq (name : String) (value : Json) :
    lastMention? name value = Keyed.find? name (leaves value).flatten.reverse := by
  rw [lastMention?, ← List.flatMap_id, List.reverse_flatMap, Keyed.find?_flatMap]
  rfl

theorem getD_map_none {α β : Type} (found : Option α) (meaning : α → Option β) :
    (found.map meaning).getD none = found.bind meaning := by
  cases found <;> rfl

theorem join_definition_eq_some_iff {name : String} {members : List (String × Json)}
    (plain : isKeyword name = false)
    (wellFormed : ∀ member ∈ members, WellFormedMember member.1 member.2)
    {given : Definition Document} :
    (Keyed.find? name members.reverse).bind (fun said => (definition name said).toOption.join) =
        some given ↔
      ∃ said, Keyed.find? name members.reverse = some said ∧ Defines said given := by
  rw [Option.bind_eq_some_iff]
  refine exists_congr fun said => and_congr_right fun mentioned => ?_
  have listed := List.mem_reverse.mp (Keyed.mem_of_find? mentioned)
  obtain ⟨found, read⟩ : ∃ found, definition name said = .ok found := by
    rw [exists_definition_iff fun _ inner _ _ => exists_ofJson_iff inner]
    cases wellFormed _ listed with
    | default names _ => rcases names with rfl | rfl <;> exact absurd plain (by decide)
    | keyword _ keyword => exact absurd keyword (by simp [plain])
    | term _ definition => exact definition
  rw [read, ← definition_eq_some_iff read]
  cases found <;> rfl

theorem holdsLast_of_ofJson {value : Json} {document : Document}
    (read : Document.ofJson value = .ok document) : HoldsLast value document := by
  obtain ⟨composite, wellFormed⟩ := (exists_ofJson_iff value).mp ⟨document, read⟩
  have members : ∀ member ∈ (leaves value).flatten, WellFormedMember member.1 member.2 := by
    intro member listed
    obtain ⟨leaf, reached, inside⟩ := List.mem_flatten.mp listed
    exact wellFormed leaf reached member inside
  rw [Document.ofJson, merge_eq_mergeMembers composite] at read
  have tidy : Tidy document :=
    mergeMembers_invariant (fun _ _ _ _ start => start.mergeMember) ⟨.nil, fun _ _ => rfl⟩ read
  refine ⟨?_, ?_, ?_, tidy.increasing⟩
  · rw [lastMention?_eq, ← getD_map_none]
    exact mergeMembers_last Document.base text? (fun _ _ _ => base_mergeMember) read
  · rw [lastMention?_eq, ← getD_map_none]
    exact mergeMembers_last Document.vocab text? (fun _ _ _ => vocab_mergeMember) read
  · intro name given
    cases keyword : isKeyword name with
    | true => simp [tidy.plain name keyword]
    | false =>
        have last := mergeMembers_last (fun document => Keyed.find? name document.terms)
          (fun said => (definition name said).toOption.join)
          (fun _ _ _ merged => terms_mergeMember merged keyword) read
        change Keyed.find? name document.terms = Option.getD _ none at last
        rw [last, getD_map_none, lastMention?_eq, and_iff_right rfl]
        exact join_definition_eq_some_iff keyword members

/-- A value can be read as a context exactly if all that is met on the way to its leaves, all members of
the leaves and all contexts nested in them are well formed, and then the last mention of every name
decides what the document holds of it. -/
theorem last_mention_wins (value : Json) :
    ((∃ document, Document.ofJson value = .ok document) ↔ WellFormed value) ∧
      ∀ document, Document.ofJson value = .ok document → HoldsLast value document :=
  ⟨exists_ofJson_iff value, fun _ read => holdsLast_of_ofJson read⟩

def mentionedValue : Json :=
  .array [
    .object [("@context", .array [
      .object [("@base", .string "http://base/"), ("gone", .string "ex:gone"),
        ("kept", .string "ex:kept"), ("name", .string "ex:first")],
      .null]), ("name", .bool true)],
    .object [("@base", .null), ("@version", .bool true), ("gone", .object [("@type", .bool true)]),
      ("name", .object [("@context", .object [("inner", .string "ex:inner")]),
        ("@id", .string "ex:second"), ("@type", .string "@vocab")])]]

def mentionedDocument : Document :=
  .mk none none [
    ("kept", ⟨"ex:kept", none, none⟩),
    ("name", ⟨"ex:second", some .vocab,
      some (.mk none none [("inner", ⟨"ex:inner", none, none⟩)])⟩)]

theorem last_mention_wins_nested :
    Document.ofJson mentionedValue = .ok mentionedDocument ∧ WellFormed mentionedValue ∧
      HoldsLast mentionedValue mentionedDocument := by
  have read : Document.ofJson mentionedValue = .ok mentionedDocument := rfl
  obtain ⟨readable, last⟩ := last_mention_wins mentionedValue
  exact ⟨read, readable.mp ⟨mentionedDocument, read⟩, last mentionedDocument read⟩

end ShapeCompiler.Context
