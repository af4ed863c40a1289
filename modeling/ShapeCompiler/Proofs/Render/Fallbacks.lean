import Mathlib.Data.List.Nodup

/-! Names that are given in turn. Each wish gets the name that it wants, or its fallback where the name was
taken before. No one asks whether the fallback was taken too, so that names may repeat, and this module
tells exactly when they do. -/

namespace ShapeCompiler.Render

structure Wish where
  wanted : String
  fallback : String

def givenNames (taken : List String) : List Wish → List String
  | [] => []
  | wish :: wishes =>
      let name := if wish.wanted ∈ taken then wish.fallback else wish.wanted
      name :: givenNames (name :: taken) wishes

/-- A name is taken before a position: a wish before it wants the name, or falls back to it because the
name that it wants was taken in turn. -/
inductive Taken (wishes : List Wish) : Nat → String → Prop where
  | wanted {before position : Nat} {wish : Wish} (earlier : before < position)
      (stands : wishes[before]? = some wish) : Taken wishes position wish.wanted
  | fallback {before position : Nat} {wish : Wish} (earlier : before < position)
      (stands : wishes[before]? = some wish) (missed : Taken wishes before wish.wanted) :
      Taken wishes position wish.fallback

def FallbacksFree (wishes : List Wish) : Prop :=
  ∀ position wish, wishes[position]? = some wish →
    Taken wishes position wish.wanted → ¬ Taken wishes position wish.fallback

theorem getElem?_givenNames (taken : List String) (wishes : List Wish) (position : Nat) :
    (givenNames taken wishes)[position]? = wishes[position]?.map fun wish =>
      if wish.wanted ∈ (givenNames taken wishes).take position ++ taken then wish.fallback
      else wish.wanted := by
  induction wishes generalizing taken position with
  | nil => rfl
  | cons first wishes ih =>
      cases position with
      | zero => rfl
      | succ position =>
          rw [givenNames, List.getElem?_cons_succ, List.getElem?_cons_succ, ih, List.take_succ_cons]
          congr 1
          funext wish
          exact if_congr List.perm_middle.mem_iff rfl rfl

section

variable {wishes : List Wish} {position : Nat} {name : String}

theorem mem_take_iff {names : List String} :
    name ∈ names.take position ↔ ∃ before < position, names[before]? = some name := by
  simp only [List.mem_iff_getElem?, List.getElem?_take]
  constructor
  · rintro ⟨before, found⟩
    split at found
    · exact ⟨before, ‹_›, found⟩
    · cases found
  · rintro ⟨before, earlier, found⟩
    exact ⟨before, by rwa [if_pos earlier]⟩

theorem mem_take_givenNames :
    name ∈ (givenNames [] wishes).take position ↔ Taken wishes position name := by
  constructor
  · induction position using Nat.strongRecOn generalizing name with
    | ind position ih =>
        intro given
        obtain ⟨before, earlier, found⟩ := mem_take_iff.mp given
        rw [getElem?_givenNames, Option.map_eq_some_iff] at found
        obtain ⟨wish, stands, rfl⟩ := found
        split
        · rename_i missed
          rw [List.append_nil] at missed
          exact .fallback earlier stands (ih before earlier missed)
        · exact .wanted earlier stands
  · intro taken
    induction taken with
    | @wanted before position wish earlier stands =>
        by_cases missed : wish.wanted ∈ (givenNames [] wishes).take before
        · exact (List.take_subset_take_left _ (Nat.le_of_lt earlier)) missed
        · refine mem_take_iff.mpr ⟨before, earlier, ?_⟩
          rw [getElem?_givenNames, stands]
          simp [missed]
    | @fallback before position wish earlier stands _ ih =>
        refine mem_take_iff.mpr ⟨before, earlier, ?_⟩
        rw [getElem?_givenNames, stands]
        simp [ih]

/-- Whoever stands at a position is given the wanted name if it was not taken before, else the
fallback. -/
theorem getElem?_givenNames_iff :
    (givenNames [] wishes)[position]? = some name ↔ ∃ wish, wishes[position]? = some wish ∧
      (Taken wishes position wish.wanted ∧ name = wish.fallback ∨
        ¬ Taken wishes position wish.wanted ∧ name = wish.wanted) := by
  rw [getElem?_givenNames, Option.map_eq_some_iff]
  simp only [List.append_nil]
  constructor
  · rintro ⟨wish, stands, rfl⟩
    refine ⟨wish, stands, ?_⟩
    split
    · rename_i missed
      exact Or.inl ⟨mem_take_givenNames.mp missed, rfl⟩
    · rename_i free
      exact Or.inr ⟨fun taken => free (mem_take_givenNames.mpr taken), rfl⟩
  · rintro ⟨wish, stands, ⟨missed, rfl⟩ | ⟨free, rfl⟩⟩
    · exact ⟨wish, stands, if_pos (mem_take_givenNames.mpr missed)⟩
    · exact ⟨wish, stands, if_neg fun taken => free (mem_take_givenNames.mp taken)⟩

end

theorem nodup_iff_not_mem_take {names : List String} :
    names.Nodup ↔ ∀ position name, names[position]? = some name → name ∉ names.take position := by
  rw [List.nodup_iff_getElem?_ne_getElem?]
  constructor
  · intro distinct position name found repeated
    obtain ⟨before, earlier, same⟩ := mem_take_iff.mp repeated
    obtain ⟨bound, _⟩ := List.getElem?_eq_some_iff.mp found
    exact distinct before position earlier bound (same.trans found.symm)
  · intro fresh before position earlier bound same
    have found : names[position]? = some names[position] := List.getElem?_eq_getElem bound
    exact fresh position _ found (mem_take_iff.mpr ⟨before, earlier, same.trans found⟩)

/-- Names repeat exactly where a fallback was taken before. -/
theorem nodup_givenNames_iff {wishes : List Wish} :
    (givenNames [] wishes).Nodup ↔ FallbacksFree wishes := by
  rw [nodup_iff_not_mem_take]
  simp only [mem_take_givenNames, getElem?_givenNames_iff]
  constructor
  · intro fresh position wish stands missed
    exact fresh position wish.fallback ⟨wish, stands, Or.inl ⟨missed, rfl⟩⟩
  · rintro free position name ⟨wish, stands, ⟨missed, rfl⟩ | ⟨unclaimed, rfl⟩⟩
    · exact free position wish stands missed
    · exact unclaimed

theorem not_taken_of_nodup {wishes : List Wish} (distinct : (wishes.map Wish.wanted).Nodup)
    {position : Nat} {wish : Wish} (stands : wishes[position]? = some wish) :
    ¬ Taken wishes position wish.wanted := by
  have apart := List.nodup_iff_getElem?_ne_getElem?.mp distinct
  induction position using Nat.strongRecOn generalizing wish with
  | ind position ih =>
      intro taken
      generalize named : wish.wanted = name at taken
      cases taken with
      | @wanted before _ other earlier found =>
          have bound : position < wishes.length := (List.getElem?_eq_some_iff.mp stands).1
          refine apart before position earlier (by simpa using bound) ?_
          rw [List.getElem?_map, List.getElem?_map, found, stands]
          exact congrArg some named.symm
      | @fallback before _ other earlier found missed => exact ih before earlier found missed

end ShapeCompiler.Render
