import Mathlib.Data.List.Basic
import Mathlib.Data.List.TakeWhile
import ShapeCompiler.Text.Cut

/-! What is cut off at the ends of texts. -/

namespace ShapeCompiler.Text

theorem stripPrefix?_eq_some {start text rest : String} :
    stripPrefix? start text = some rest ↔ start ++ rest = text := by
  simp only [stripPrefix?, Option.map_eq_some_iff, List.isPrefixOf?_eq_some_iff_append_eq]
  constructor
  · rintro ⟨letters, same, rfl⟩
    rw [← String.toList_inj, String.toList_append, String.toList_ofList, same]
  · intro same
    refine ⟨rest.toList, ?_, String.ofList_toList⟩
    rw [← String.toList_append, same]

theorem isPathMark_iff {c : Char} : isPathMark c = true ↔ c = '/' ∨ c = '#' := by
  simp [isPathMark]

/-- What stands behind the last path mark of an IRI, which is the whole IRI if it has none. -/
structure IsLocalName (iri name : String) : Prop where
  split : ∃ before, iri.toList = before ++ name.toList ∧ ∀ c ∈ before.getLast?, isPathMark c = true
  plain : ∀ c ∈ name.toList, isPathMark c = false

theorem isLocalName_localName (iri : String) : IsLocalName iri (localName iri) := by
  constructor
  · refine ⟨(iri.toList.reverse.dropWhile fun c => !isPathMark c).reverse, ?_, ?_⟩
    · rw [localName, String.toList_ofList, ← List.reverse_append, List.takeWhile_append_dropWhile,
        List.reverse_reverse]
    · intro c last
      rw [List.getLast?_reverse, Option.mem_def] at last
      have marked := List.head?_dropWhile_not (fun c => !isPathMark c) iri.toList.reverse
      rw [last] at marked
      simpa using marked
  · intro c inside
    rw [localName, String.toList_ofList, List.mem_reverse] at inside
    simpa using List.mem_takeWhile_imp inside

structure IsTrimmed (text core : List Char) : Prop where
  split : ∃ before behind, text = before ++ core ++ behind ∧
    (∀ c ∈ before, isBlank c = true) ∧ ∀ c ∈ behind, isBlank c = true
  start : ∀ c ∈ core.head?, isBlank c = false
  ending : ∀ c ∈ core.getLast?, isBlank c = false

theorem dropWhile_of_head? {text : List Char} (start : ∀ c ∈ text.head?, isBlank c = false) :
    text.dropWhile isBlank = text := by
  cases text with
  | nil => rfl
  | cons c rest => exact List.dropWhile_cons_of_neg (by simp [start c rfl])

theorem dropBlankEnd_append {core behind : List Char} (blank : ∀ c ∈ behind, isBlank c = true)
    (ending : ∀ c ∈ core.getLast?, isBlank c = false) : dropBlankEnd (core ++ behind) = core := by
  rw [dropBlankEnd, List.reverse_append, List.dropWhile_append_of_pos, dropWhile_of_head?,
    List.reverse_reverse]
  · rwa [List.head?_reverse]
  · intro c member
    exact blank c (List.mem_reverse.mp member)

theorem exists_dropBlankEnd (text : List Char) : ∃ behind, text = dropBlankEnd text ++ behind ∧
    ∀ c ∈ behind, isBlank c = true := by
  refine ⟨(text.reverse.takeWhile isBlank).reverse, ?_, ?_⟩
  · rw [dropBlankEnd, ← List.reverse_append, List.takeWhile_append_dropWhile, List.reverse_reverse]
  · intro c member
    exact List.mem_takeWhile_imp (List.mem_reverse.mp member)

theorem head?_dropWhile_isBlank {text : List Char} {c : Char}
    (first : (text.dropWhile isBlank).head? = some c) : isBlank c = false := by
  have stops := List.head?_dropWhile_not isBlank text
  rw [first] at stops
  simpa using stops

theorem isTrimmed_trim (text : String) : IsTrimmed text.toList (trim text).toList := by
  obtain ⟨behind, split, blank⟩ := exists_dropBlankEnd (text.toList.dropWhile isBlank)
  rw [trim, String.toList_ofList]
  refine ⟨⟨text.toList.takeWhile isBlank, behind, ?_, ?_, blank⟩, ?_, ?_⟩
  · rw [List.append_assoc, ← split, List.takeWhile_append_dropWhile]
  · exact fun c member => List.mem_takeWhile_imp member
  · intro c first
    obtain ⟨rest, starts⟩ := List.head?_eq_some_iff.mp first
    rw [starts] at split
    exact head?_dropWhile_isBlank (congrArg List.head? split)
  · intro c last
    rw [dropBlankEnd, List.getLast?_reverse] at last
    exact head?_dropWhile_isBlank last

theorem toList_trim_eq_iff {text : String} {core : List Char} :
    (trim text).toList = core ↔ IsTrimmed text.toList core := by
  constructor
  · rintro rfl
    exact isTrimmed_trim text
  · rintro ⟨⟨before, behind, split, blankBefore, blankBehind⟩, start, ending⟩
    rw [trim, String.toList_ofList, split, List.append_assoc,
      List.dropWhile_append_of_pos blankBefore]
    cases core with
    | nil =>
        rw [List.nil_append, List.dropWhile_eq_nil_iff.mpr blankBehind]
        rfl
    | cons c core =>
        rw [dropWhile_of_head? (by simpa using start)]
        exact dropBlankEnd_append blankBehind ending

end ShapeCompiler.Text
