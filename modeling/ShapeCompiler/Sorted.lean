/-! Lists kept in increasing order: sets without repeats, and a sort by a key that leaves elements
of equal keys in their order. -/

namespace ShapeCompiler.Sorted

def insert {α : Type} [LT α] [DecidableLT α] [DecidableEq α] (item : α) : List α → List α
  | [] => [item]
  | head :: tail =>
      if item < head then item :: head :: tail
      else if item = head then head :: tail
      else head :: insert item tail

def ofList {α : Type} [LT α] [DecidableLT α] [DecidableEq α] (items : List α) : List α :=
  items.foldr insert []

def insertByKey {α : Type} (key : α → String) (item : α) : List α → List α
  | [] => [item]
  | head :: tail =>
      if key head < key item then head :: insertByKey key item tail else item :: head :: tail

def byKey {α : Type} (key : α → String) (items : List α) : List α :=
  items.foldr (insertByKey key) []

theorem mem_insert {α : Type} [LT α] [DecidableLT α] [DecidableEq α] {item member : α}
    {items : List α} : member ∈ insert item items ↔ member = item ∨ member ∈ items := by
  induction items with
  | nil => simp [insert]
  | cons head tail ih =>
      simp only [insert]
      split
      · simp
      · split
        · rename_i same
          simp [same]
        · simp only [List.mem_cons, ih]
          exact or_left_comm

theorem mem_ofList {α : Type} [LT α] [DecidableLT α] [DecidableEq α] {member : α}
    {items : List α} : member ∈ ofList items ↔ member ∈ items := by
  induction items with
  | nil => simp [ofList]
  | cons head tail ih =>
      rw [ofList, List.foldr_cons, mem_insert, List.mem_cons]
      exact or_congr_right ih

section

variable {α : Type} [LT α] [Std.Irrefl (· < · : α → α → Prop)]

theorem nodup_of_pairwise {items : List α} (increasing : items.Pairwise (· < ·)) :
    items.Nodup := by
  apply increasing.imp
  intro lesser greater less same
  exact Std.Irrefl.irrefl greater (same ▸ less)

theorem eq_of_mem_iff
    [Trans (· < · : α → α → Prop) (· < · : α → α → Prop) (· < · : α → α → Prop)]
    {items others : List α} (increasing : items.Pairwise (· < ·))
    (othersIncreasing : others.Pairwise (· < ·))
    (same : ∀ member, member ∈ items ↔ member ∈ others) : items = others := by
  have rearranged : items.Perm others := by
    rw [List.perm_ext_iff_of_nodup (nodup_of_pairwise increasing)
      (nodup_of_pairwise othersIncreasing)]
    exact same
  refine rearranged.eq_of_pairwise ?_ increasing othersIncreasing
  intro left right _ _ less greater
  exact absurd (Trans.trans less greater) (Std.Irrefl.irrefl left)

end

section

variable {α : Type} [LT α] [DecidableLT α] [DecidableEq α]
  [Trans (· < · : α → α → Prop) (· < · : α → α → Prop) (· < · : α → α → Prop)]
  [Std.Trichotomous (· < · : α → α → Prop)]

theorem pairwise_insert {item : α} {items : List α} (increasing : items.Pairwise (· < ·)) :
    (insert item items).Pairwise (· < ·) := by
  induction increasing with
  | nil => simp [insert]
  | @cons head tail before ordered ih =>
      simp only [insert]
      split
      · rename_i first
        refine List.pairwise_cons.mpr ⟨?_, List.pairwise_cons.mpr ⟨before, ordered⟩⟩
        intro later member
        rcases List.mem_cons.mp member with same | behind
        · exact same ▸ first
        · exact Trans.trans first (before later behind)
      · rename_i notFirst
        split
        · exact List.pairwise_cons.mpr ⟨before, ordered⟩
        · rename_i different
          refine List.pairwise_cons.mpr ⟨?_, ih⟩
          intro later member
          rcases mem_insert.mp member with same | behind
          · subst same
            rcases Std.Trichotomous.rel_or_eq_or_rel_swap (r := (· < · : α → α → Prop)) with
              less | same | greater
            · exact absurd less notFirst
            · exact absurd same different
            · exact greater
          · exact before later behind

theorem pairwise_ofList (items : List α) : (ofList items).Pairwise (· < ·) := by
  induction items with
  | nil => simp [ofList]
  | cons item rest ih => exact pairwise_insert ih

theorem nodup_ofList [Std.Irrefl (· < · : α → α → Prop)] (items : List α) :
    (ofList items).Nodup :=
  nodup_of_pairwise (pairwise_ofList items)

theorem ofList_congr [Std.Irrefl (· < · : α → α → Prop)] {items others : List α}
    (same : ∀ member, member ∈ items ↔ member ∈ others) : ofList items = ofList others := by
  refine eq_of_mem_iff (pairwise_ofList items) (pairwise_ofList others) ?_
  intro member
  rw [mem_ofList, mem_ofList, same]

end

theorem mem_insertByKey {α : Type} {key : α → String} {item member : α} {items : List α} :
    member ∈ insertByKey key item items ↔ member = item ∨ member ∈ items := by
  induction items with
  | nil => simp [insertByKey]
  | cons head tail ih =>
      simp only [insertByKey]
      split
      · simp only [List.mem_cons, ih]
        exact or_left_comm
      · simp

theorem mem_byKey {α : Type} {key : α → String} {member : α} {items : List α} :
    member ∈ byKey key items ↔ member ∈ items := by
  induction items with
  | nil => simp [byKey]
  | cons head tail ih =>
      rw [byKey, List.foldr_cons, mem_insertByKey, List.mem_cons]
      exact or_congr_right ih

theorem perm_insertByKey {α : Type} (key : α → String) (item : α) (items : List α) :
    (insertByKey key item items).Perm (item :: items) := by
  induction items with
  | nil => exact .refl [item]
  | cons head tail ih =>
      simp only [insertByKey]
      split
      · exact (ih.cons head).trans (.swap item head tail)
      · exact .refl (item :: head :: tail)

theorem perm_byKey {α : Type} (key : α → String) (items : List α) :
    (byKey key items).Perm items := by
  induction items with
  | nil => exact .refl []
  | cons item rest ih => exact (perm_insertByKey key item (byKey key rest)).trans (ih.cons item)

theorem pairwise_insertByKey {α : Type} {key : α → String} {item : α} {items : List α}
    (ordered : items.Pairwise (key · ≤ key ·)) :
    (insertByKey key item items).Pairwise (key · ≤ key ·) := by
  induction ordered with
  | nil => simp [insertByKey]
  | @cons head tail before ordered ih =>
      simp only [insertByKey]
      split
      · rename_i behind
        refine List.pairwise_cons.mpr ⟨?_, ih⟩
        intro later member
        rcases mem_insertByKey.mp member with same | further
        · exact same ▸ String.not_lt.mp fun less => String.lt_irrefl _ (String.lt_trans less behind)
        · exact before later further
      · rename_i notBehind
        have first : key item ≤ key head := String.not_lt.mp notBehind
        refine List.pairwise_cons.mpr ⟨?_, List.pairwise_cons.mpr ⟨before, ordered⟩⟩
        intro later member
        rcases List.mem_cons.mp member with same | further
        · exact same ▸ first
        · exact String.le_trans first (before later further)

theorem pairwise_byKey {α : Type} (key : α → String) (items : List α) :
    (byKey key items).Pairwise (key · ≤ key ·) := by
  induction items with
  | nil => exact .nil
  | cons item rest ih => exact pairwise_insertByKey ih

theorem filter_insertByKey {α : Type} (key : α → String) (item : α) (items : List α)
    (value : String) :
    (insertByKey key item items).filter (key · = value) =
      (item :: items).filter (key · = value) := by
  induction items with
  | nil => rfl
  | cons head tail ih =>
      simp only [insertByKey]
      split
      · rename_i behind
        rw [List.filter_cons, ih]
        by_cases first : key head = value
        -- Only one of two elements with different keys is kept.
        · have other : key item ≠ value := fun same => String.lt_irrefl _ (same ▸ first ▸ behind)
          simp [first, other]
        · simp [List.filter_cons, first]
      · rfl

theorem insertByKey_map {α : Type} {key : α → String} {change : α → α}
    (keeps : ∀ item, key (change item) = key item) (item : α) (items : List α) :
    insertByKey key (change item) (items.map change) = (insertByKey key item items).map change := by
  induction items with
  | nil => rfl
  | cons head tail ih =>
      rw [List.map_cons, insertByKey, insertByKey, keeps, keeps, ih]
      split <;> rfl

theorem byKey_map {α : Type} {key : α → String} {change : α → α}
    (keeps : ∀ item, key (change item) = key item) (items : List α) :
    byKey key (items.map change) = (byKey key items).map change := by
  induction items with
  | nil => rfl
  | cons item rest ih =>
      change insertByKey key (change item) (byKey key (rest.map change)) = _
      rw [ih, insertByKey_map keeps]
      rfl

/-- Elements of one key stay in their order. -/
theorem filter_byKey {α : Type} (key : α → String) (items : List α) (value : String) :
    (byKey key items).filter (key · = value) = items.filter (key · = value) := by
  induction items with
  | nil => rfl
  | cons item rest ih =>
      change (insertByKey key item (byKey key rest)).filter _ = _
      rw [filter_insertByKey, List.filter_cons, ih, List.filter_cons]

end ShapeCompiler.Sorted
