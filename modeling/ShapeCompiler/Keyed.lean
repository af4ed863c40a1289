/-! Maps from names to values, as lists of entries in increasing order of their names, and sums of the
numbers of what they hold. -/

namespace ShapeCompiler

def total : List Nat → Nat
  | [] => 0
  | count :: counts => count + total counts

theorem total_lengths {α β : Type} (items : List α) (parts : α → List β) :
    total (items.map fun item => (parts item).length) = (items.flatMap parts).length := by
  induction items with
  | nil => rfl
  | cons item items ih => rw [List.map_cons, total, List.flatMap_cons, List.length_append, ih]

end ShapeCompiler

namespace ShapeCompiler.Keyed

def find? {α : Type} (name : String) : List (String × α) → Option α
  | [] => none
  | entry :: rest => if entry.1 = name then some entry.2 else find? name rest

def contains {α : Type} (name : String) (entries : List (String × α)) : Bool :=
  (find? name entries).isSome

def insert {α : Type} (name : String) (value : α) : List (String × α) → List (String × α)
  | [] => [(name, value)]
  | entry :: rest =>
      if name < entry.1 then (name, value) :: entry :: rest
      else if name = entry.1 then (name, value) :: rest
      else entry :: insert name value rest

def erase {α : Type} (name : String) (entries : List (String × α)) : List (String × α) :=
  entries.filter fun entry => entry.1 != name

def ofList {α : Type} (entries : List (String × α)) : List (String × α) :=
  entries.foldl (fun map entry => insert entry.1 entry.2 map) []

def items {α : Type} (name : String) (entries : List (String × List α)) : List α :=
  (find? name entries).getD []

def push {α : Type} (name : String) (item : α) (entries : List (String × List α)) :
    List (String × List α) :=
  insert name (items name entries ++ [item]) entries

/-- Goes once through the sources and adds an item under every name of each. -/
def distribute {α β : Type} (namesOf : β → List String) (itemOf : String → β → α)
    (sources : List β) : List (String × List α) :=
  sources.foldl
    (fun map source =>
      (namesOf source).foldl (fun map name => push name (itemOf name source) map) map)
    []

theorem mem_of_find? {α : Type} {name : String} {value : α} {entries : List (String × α)}
    (found : find? name entries = some value) : (name, value) ∈ entries := by
  induction entries with
  | nil => simp [find?] at found
  | cons entry rest ih =>
      simp only [find?] at found
      split at found
      · rename_i same
        cases found
        rw [← same]
        exact List.mem_cons_self
      · exact List.mem_cons_of_mem entry (ih found)

theorem contains_iff {α : Type} {name : String} {entries : List (String × α)} :
    contains name entries = true ↔ name ∈ entries.map Prod.fst := by
  induction entries with
  | nil => simp [contains, find?]
  | cons entry rest ih =>
      by_cases same : entry.1 = name
      · simp [contains, find?, same]
      · unfold contains at ih ⊢
        rw [find?, if_neg same, ih, List.map_cons, List.mem_cons]
        simp [Ne.symm same]

theorem find?_insert_self {α : Type} (name : String) (value : α) (entries : List (String × α)) :
    find? name (insert name value entries) = some value := by
  induction entries with
  | nil => simp [insert, find?]
  | cons entry rest ih =>
      by_cases before : name < entry.1
      · simp [insert, before, find?]
      · by_cases same : name = entry.1
        · rw [insert, if_neg before, if_pos same]
          simp [find?]
        · simp [insert, before, same, find?, Ne.symm same, ih]

theorem find?_insert_ne {α : Type} {name other : String} (different : other ≠ name) (value : α)
    (entries : List (String × α)) :
    find? other (insert name value entries) = find? other entries := by
  induction entries with
  | nil => simp [insert, find?, Ne.symm different]
  | cons entry rest ih =>
      by_cases before : name < entry.1
      · simp [insert, before, find?, Ne.symm different]
      · by_cases same : name = entry.1
        · rw [insert, if_neg before, if_pos same]
          simp [find?, ← same, Ne.symm different]
        · simp [insert, before, same, find?, ih]

theorem find?_erase_self {α : Type} (name : String) (entries : List (String × α)) :
    find? name (erase name entries) = none := by
  induction entries with
  | nil => rfl
  | cons entry rest ih =>
      unfold erase at ih
      by_cases same : entry.1 = name
      · simp [erase, same, ih]
      · simp [erase, same, find?, ih]

theorem find?_erase_ne {α : Type} {name other : String} (different : other ≠ name)
    (entries : List (String × α)) : find? other (erase name entries) = find? other entries := by
  induction entries with
  | nil => rfl
  | cons entry rest ih =>
      unfold erase at ih
      by_cases same : entry.1 = name
      · simp [erase, same, ih, find?, Ne.symm different]
      · simp [erase, same, find?, ih]

theorem find?_insert {α : Type} (name other : String) (value : α) (entries : List (String × α)) :
    find? other (insert name value entries) =
      if other = name then some value else find? other entries := by
  split
  · rename_i same
    rw [same, find?_insert_self]
  · rename_i different
    rw [find?_insert_ne different]

theorem find?_map {α β : Type} (name : String) (change : α → β) (entries : List (String × α)) :
    find? name (entries.map fun entry => (entry.1, change entry.2)) =
      (find? name entries).map change := by
  induction entries with
  | nil => rfl
  | cons entry rest ih =>
      simp only [List.map_cons, find?, ih]
      split <;> rfl

theorem erase_map {α β : Type} (name : String) (change : α → β) (entries : List (String × α)) :
    erase name (entries.map fun entry => (entry.1, change entry.2)) =
      (erase name entries).map fun entry => (entry.1, change entry.2) := by
  rw [erase, List.filter_map]
  rfl

theorem find?_append {α : Type} (name : String) (entries others : List (String × α)) :
    find? name (entries ++ others) = (find? name entries).or (find? name others) := by
  induction entries with
  | nil => simp [find?]
  | cons entry rest ih =>
      simp only [List.cons_append, find?]
      split
      · rfl
      · exact ih

theorem find?_foldl_insert {α : Type} (name : String) (entries map : List (String × α)) :
    find? name (entries.foldl (fun map entry => insert entry.1 entry.2 map) map) =
      (find? name entries.reverse).or (find? name map) := by
  induction entries generalizing map with
  | nil => simp [find?]
  | cons entry rest ih =>
      rw [List.foldl_cons, ih, find?_insert, List.reverse_cons, find?_append]
      by_cases same : entry.1 = name
      · cases find? name rest.reverse <;> simp [find?, same]
      · cases find? name rest.reverse <;> simp [find?, same, Ne.symm same]

theorem find?_ofList {α : Type} (name : String) (entries : List (String × α)) :
    find? name (ofList entries) = find? name entries.reverse := by
  rw [ofList, find?_foldl_insert]
  simp [find?]

theorem contains_ofList {α : Type} {name : String} {entries : List (String × α)} :
    contains name (ofList entries) = true ↔ name ∈ entries.map Prod.fst := by
  rw [contains, find?_ofList, ← contains, contains_iff, List.map_reverse, List.mem_reverse]

theorem mem_insert {α : Type} {name : String} {value : α} {entries : List (String × α)}
    {entry : String × α} (member : entry ∈ insert name value entries) :
    entry = (name, value) ∨ entry ∈ entries := by
  induction entries with
  | nil => simpa [insert] using member
  | cons head rest ih =>
      simp only [insert] at member
      split at member
      · simpa using member
      · split at member
        · rcases List.mem_cons.mp member with same | later
          · exact Or.inl same
          · exact Or.inr (List.mem_cons_of_mem head later)
        · rcases List.mem_cons.mp member with same | later
          · exact Or.inr (same ▸ List.mem_cons_self)
          · rcases ih later with new | old
            · exact Or.inl new
            · exact Or.inr (List.mem_cons_of_mem head old)

theorem mem_of_mem_foldl_insert {α : Type} {entries map : List (String × α)} {entry : String × α}
    (member : entry ∈ entries.foldl (fun map entry => insert entry.1 entry.2 map) map) :
    entry ∈ entries ∨ entry ∈ map := by
  induction entries generalizing map with
  | nil => exact Or.inr member
  | cons head rest ih =>
      rcases ih member with later | before
      · exact Or.inl (List.mem_cons_of_mem head later)
      · rcases mem_insert before with same | old
        · exact Or.inl (same ▸ List.mem_cons_self)
        · exact Or.inr old

theorem mem_of_mem_ofList {α : Type} {entries : List (String × α)} {entry : String × α}
    (member : entry ∈ ofList entries) : entry ∈ entries :=
  (mem_of_mem_foldl_insert member).resolve_right List.not_mem_nil

theorem increasing_insert {α : Type} (name : String) (value : α) {entries : List (String × α)}
    (increasing : (entries.map Prod.fst).Pairwise (· < ·)) :
    ((insert name value entries).map Prod.fst).Pairwise (· < ·) := by
  induction entries with
  | nil => simp [insert]
  | cons head rest ih =>
      obtain ⟨before, ordered⟩ := List.pairwise_cons.mp increasing
      by_cases first : name < head.1
      · rw [insert, if_pos first]
        refine List.pairwise_cons.mpr ⟨?_, increasing⟩
        intro other later
        rcases List.mem_cons.mp later with same | behind
        · exact same ▸ first
        · exact String.lt_trans first (before other behind)
      · by_cases same : name = head.1
        · rw [insert, if_neg first, if_pos same, List.map_cons]
          exact List.pairwise_cons.mpr ⟨same ▸ before, ordered⟩
        · rw [insert, if_neg first, if_neg same]
          refine List.pairwise_cons.mpr ⟨?_, ih ordered⟩
          intro other later
          have behind : head.1 < name := by
            rcases Std.Trichotomous.rel_or_eq_or_rel_swap (r := (· < · : String → String → Prop)) with
              less | equal | greater
            · exact absurd less first
            · exact absurd equal same
            · exact greater
          obtain ⟨entry, member, rfl⟩ := List.mem_map.mp later
          rcases mem_insert member with new | old
          · exact new ▸ behind
          · exact before entry.1 (List.mem_map.mpr ⟨entry, old, rfl⟩)

theorem increasing_ofList {α : Type} (entries : List (String × α)) :
    ((ofList entries).map Prod.fst).Pairwise (· < ·) := by
  have fold (map : List (String × α)) (increasing : (map.map Prod.fst).Pairwise (· < ·)) :
      ((entries.foldl (fun map entry => insert entry.1 entry.2 map) map).map Prod.fst).Pairwise
        (· < ·) := by
    induction entries generalizing map with
    | nil => exact increasing
    | cons entry rest ih => exact ih _ (increasing_insert entry.1 entry.2 increasing)
  exact fold [] .nil

theorem find?_flatMap {α β : Type} (name : String) (entriesOf : β → List (String × α))
    (items : List β) :
    find? name (items.flatMap entriesOf) = items.findSome? fun item => find? name (entriesOf item) := by
  induction items with
  | nil => rfl
  | cons item rest ih =>
      rw [List.flatMap_cons, find?_append, ih, List.findSome?_cons]
      cases find? name (entriesOf item) <;> rfl

theorem items_erase_ne {α : Type} {name other : String} (different : other ≠ name)
    (entries : List (String × List α)) : items other (erase name entries) = items other entries := by
  rw [items, find?_erase_ne different, items]

theorem items_push {α : Type} (name other : String) (item : α) (entries : List (String × List α)) :
    items other (push name item entries) =
      if other = name then items other entries ++ [item] else items other entries := by
  rw [items, push, find?_insert]
  split
  · rename_i same
    rw [same]
    rfl
  · rfl

theorem items_foldl_push {α : Type} {names : List String} (distinct : names.Nodup)
    (itemOf : String → α) (other : String) (map : List (String × List α)) :
    items other (names.foldl (fun map name => push name (itemOf name) map) map) =
      if other ∈ names then items other map ++ [itemOf other] else items other map := by
  induction names generalizing map with
  | nil => simp
  | cons name rest ih =>
      obtain ⟨fresh, distinct⟩ := List.nodup_cons.mp distinct
      rw [List.foldl_cons, ih distinct, items_push]
      by_cases same : other = name
      · subst same
        simp [fresh]
      · simp [same]

/-- The items of a name come from the sources that have the name, in their order. -/
theorem items_distribute {α β : Type} {namesOf : β → List String} {sources : List β}
    (distinct : ∀ source ∈ sources, (namesOf source).Nodup) (itemOf : String → β → α)
    (name : String) :
    items name (distribute namesOf itemOf sources) =
      (sources.filter fun source => (namesOf source).contains name).map (itemOf name) := by
  -- A round adds one item at most, whatever the map holds already.
  have rounds (map : List (String × List α)) :
      items name (sources.foldl
        (fun map source =>
          (namesOf source).foldl (fun map name => push name (itemOf name source) map) map) map) =
      items name map ++
        (sources.filter fun source => (namesOf source).contains name).map (itemOf name) := by
    induction sources generalizing map with
    | nil => simp
    | cons source rest ih =>
        obtain ⟨first, later⟩ := List.forall_mem_cons.mp distinct
        rw [List.foldl_cons, ih later, items_foldl_push first (itemOf · source)]
        by_cases named : name ∈ namesOf source <;> simp [named]
  exact rounds []

theorem increasing_push {α : Type} (name : String) (item : α) {entries : List (String × List α)}
    (increasing : (entries.map Prod.fst).Pairwise (· < ·)) :
    ((push name item entries).map Prod.fst).Pairwise (· < ·) :=
  increasing_insert name _ increasing

theorem increasing_distribute {α β : Type} (namesOf : β → List String) (itemOf : String → β → α)
    (sources : List β) :
    ((distribute namesOf itemOf sources).map Prod.fst).Pairwise (· < ·) := by
  let Increasing (map : List (String × List α)) : Prop := (map.map Prod.fst).Pairwise (· < ·)
  refine List.foldlRecOn (motive := Increasing) sources _ .nil ?_
  intro map increasing source _
  refine List.foldlRecOn (motive := Increasing) (namesOf source) _ increasing ?_
  intro map increasing name _
  exact increasing_push name (itemOf name source) increasing

end ShapeCompiler.Keyed
