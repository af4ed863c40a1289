import Mathlib.Data.String.Basic
import ShapeCompiler.Text.Cut

/-! The longest text that all items of a list start with. The loop over the items keeps a number of bytes of
the first one. This number is always the size of a start of the first item, so that no character is cut, and
of a longest one, so that the order of the items does not count. -/

namespace ShapeCompiler.Text

open String (utf8Len)

def sharedStart : List Char → List Char → List Char
  | c :: left, d :: right => if c = d then c :: sharedStart left right else []
  | _, _ => []

theorem prefix_sharedStart_iff {left right text : List Char} :
    text <+: sharedStart left right ↔ text <+: left ∧ text <+: right := by
  induction left generalizing right text with
  | nil =>
      rw [sharedStart, List.prefix_nil]
      · refine ⟨?_, And.left⟩
        rintro rfl
        exact ⟨rfl, List.nil_prefix⟩
      · nofun
  | cons c left ih =>
      cases right with
      | nil =>
          rw [sharedStart, List.prefix_nil]
          · refine ⟨?_, And.right⟩
            rintro rfl
            exact ⟨List.nil_prefix, rfl⟩
          · nofun
      | cons d right =>
          cases text with
          | nil => simp
          | cons e text =>
              by_cases same : c = d
              · subst same
                rw [sharedStart, if_pos rfl, List.cons_prefix_cons, List.cons_prefix_cons,
                  List.cons_prefix_cons, ih, and_and_left]
              · rw [sharedStart, if_neg same, List.prefix_nil, List.cons_prefix_cons,
                  List.cons_prefix_cons]
                refine iff_of_false (List.cons_ne_nil e text) ?_
                rintro ⟨⟨rfl, _⟩, equal, _⟩
                exact same equal

theorem sharedStart_eq_of_isPrefix {left right text : List Char} (ofLeft : text <+: left)
    (ofRight : text <+: right) (longest : sharedStart left right <+: text) :
    sharedStart left right = text :=
  longest.eq_of_length_le (prefix_sharedStart_iff.mpr ⟨ofLeft, ofRight⟩).length_le

theorem sharedStart_prefix_left (left right : List Char) : sharedStart left right <+: left :=
  (prefix_sharedStart_iff.mp (List.prefix_refl _)).1

theorem sharedStart_prefix_right (left right : List Char) : sharedStart left right <+: right :=
  (prefix_sharedStart_iff.mp (List.prefix_refl _)).2

theorem utf8Len_le_of_isPrefix {start text : List Char} (begins : start <+: text) :
    utf8Len start ≤ utf8Len text := by
  obtain ⟨rest, rfl⟩ := begins
  rw [String.utf8Len_append]
  exact Nat.le_add_right _ _

theorem end_of_shared (first item : List Char) (offset : Nat) :
    (match (((placedFrom offset first).zip item).takeWhile fun pair => pair.1.2 = pair.2).getLast? with
      | some ((place, c), _) => place + c.utf8Size
      | none => offset) = offset + utf8Len (sharedStart first item) := by
  induction first generalizing item offset with
  | nil => simp [placedFrom, sharedStart]
  | cons c first ih =>
      cases item with
      | nil => simp [placedFrom, sharedStart]
      | cons d item =>
          by_cases same : c = d
          · have further := ih item (offset + c.utf8Size)
            rw [placedFrom, List.zip_cons_cons, List.takeWhile_cons_of_pos (by simpa using same),
              sharedStart, if_pos same, String.utf8Len_cons, List.getLast?_cons]
            cases last : (((placedFrom (offset + c.utf8Size) first).zip item).takeWhile
                fun pair => pair.1.2 = pair.2).getLast? with
            | none =>
                rw [last] at further
                dsimp only [Option.getD] at further ⊢
                omega
            | some pair =>
                rw [last] at further
                dsimp only [Option.getD] at further ⊢
                omega
          · rw [placedFrom, List.zip_cons_cons, List.takeWhile_cons_of_neg (by simpa using same),
              sharedStart, if_neg same]
            rfl

theorem sharedBytes_eq (first item : List Char) :
    sharedBytes first item = utf8Len (sharedStart first item) := by
  have ends := end_of_shared first item 0
  rwa [Nat.zero_add] at ends

theorem min_sharedBytes {first start : List Char} (begins : start <+: first) (item : List Char) :
    min (sharedBytes first item) (utf8Len start) = utf8Len (sharedStart start item) := by
  rw [sharedBytes_eq]
  have ofItem := sharedStart_prefix_right first item
  rcases List.prefix_or_prefix_of_prefix (sharedStart_prefix_left first item) begins with
    shorter | longer
  · have same : sharedStart start item = sharedStart first item := by
      refine sharedStart_eq_of_isPrefix shorter ofItem (prefix_sharedStart_iff.mpr ⟨?_, ?_⟩)
      · exact (sharedStart_prefix_left start item).trans begins
      · exact sharedStart_prefix_right start item
    rw [same, Nat.min_eq_left (utf8Len_le_of_isPrefix shorter)]
  · have same : sharedStart start item = start :=
      sharedStart_eq_of_isPrefix (List.prefix_refl start) (longer.trans ofItem)
        (sharedStart_prefix_left start item)
    rw [same, Nat.min_eq_right (utf8Len_le_of_isPrefix longer)]

def sharedByAll (start : List Char) (items : List String) : List Char :=
  items.foldl (fun shared item => sharedStart shared item.toList) start

theorem prefix_sharedByAll_iff {start text : List Char} {items : List String} :
    text <+: sharedByAll start items ↔ text <+: start ∧ ∀ item ∈ items, text <+: item.toList := by
  induction items generalizing start with
  | nil => simp [sharedByAll]
  | cons item items ih =>
      rw [sharedByAll, List.foldl_cons, ← sharedByAll, ih, prefix_sharedStart_iff,
        List.forall_mem_cons, and_assoc]

theorem foldl_min_sharedBytes {first start : List Char} (begins : start <+: first)
    (items : List String) :
    items.foldl (fun length item => min (sharedBytes first item.toList) length) (utf8Len start) =
      utf8Len (sharedByAll start items) := by
  induction items generalizing start with
  | nil => rfl
  | cons item items ih =>
      rw [List.foldl_cons, min_sharedBytes begins]
      exact ih ((sharedStart_prefix_left start item.toList).trans begins)

theorem commonLength_eq (first : String) (items : List String) :
    commonLength first items = utf8Len (sharedByAll first.toList items) := by
  have whole : first.utf8ByteSize = utf8Len first.toList := by
    rw [← String.utf8ByteSize_ofList, String.ofList_toList]
  rw [commonLength, whole]
  exact foldl_min_sharedBytes (List.prefix_refl _) items

theorem firstBytes?_of_isPrefix {start text : List Char} (begins : start <+: text) :
    firstBytes? text (utf8Len start) = some start := by
  induction start generalizing text with
  | nil => cases text <;> rfl
  | cons c start ih =>
      obtain ⟨rest, rfl⟩ := begins
      have positive := c.utf8Size_pos
      obtain ⟨length, size⟩ : ∃ length, utf8Len (c :: start) = length + 1 :=
        Nat.exists_eq_add_one.mpr (by rw [String.utf8Len_cons]; omega)
      have behind : length + 1 - c.utf8Size = utf8Len start := by
        rw [← size, String.utf8Len_cons, Nat.add_sub_cancel]
      have fits : c.utf8Size ≤ length + 1 := by
        rw [← size, String.utf8Len_cons]
        exact Nat.le_add_left _ _
      rw [size, List.cons_append, firstBytes?, if_pos fits, behind, ih (List.prefix_append start rest)]
      rfl

structure IsLongestStart (items : List String) (text : String) : Prop where
  starts : ∀ item ∈ items, text.toList <+: item.toList
  longest : ∀ other : String, (∀ item ∈ items, other.toList <+: item.toList) →
    other.toList <+: text.toList

theorem IsLongestStart.unique {items others : List String} {text other : String}
    (same : ∀ item, item ∈ items ↔ item ∈ others) (found : IsLongestStart items text)
    (alsoFound : IsLongestStart others other) : text = other := by
  have forth := alsoFound.longest text fun item member => found.starts item ((same item).mpr member)
  have back := found.longest other fun item member => alsoFound.starts item ((same item).mp member)
  exact String.toList_inj.mp (forth.eq_of_length_le back.length_le)

theorem commonPrefix?_eq (first : String) (items : List String) :
    commonPrefix? (first :: items) = some (String.ofList (sharedByAll first.toList items)) := by
  have begins := (prefix_sharedByAll_iff.mp (List.prefix_refl (sharedByAll first.toList items))).1
  rw [commonPrefix?, commonLength_eq, firstBytes?_of_isPrefix begins]
  rfl

theorem commonPrefix_isLongestStart (first : String) (items : List String) :
    IsLongestStart (first :: items) (commonPrefix (first :: items)) := by
  have shared (text : List Char) : text <+: (commonPrefix (first :: items)).toList ↔
      ∀ item ∈ first :: items, text <+: item.toList := by
    rw [commonPrefix, commonPrefix?_eq, Option.getD_some, String.toList_ofList,
      prefix_sharedByAll_iff, List.forall_mem_cons]
  exact ⟨(shared _).mp (List.prefix_refl _), fun other => (shared other.toList).mpr⟩

/-- The number of bytes that the loop ends with is the end of a character of the first item, so that the slice
is there; it is the longest common start of all items, whatever their order. -/
theorem commonPrefix_exact (first : String) (items : List String) :
    (⟨commonLength first items⟩ : String.Pos.Raw).IsValid first ∧
      commonPrefix? (first :: items) = some (commonPrefix (first :: items)) ∧
      IsLongestStart (first :: items) (commonPrefix (first :: items)) ∧
      ∀ others, others.Perm (first :: items) → commonPrefix others = commonPrefix (first :: items) := by
  have longest := commonPrefix_isLongestStart first items
  refine ⟨?_, ?_, longest, ?_⟩
  · obtain ⟨rest, split⟩ := longest.starts first List.mem_cons_self
    refine String.Pos.Raw.isValid_iff_exists_append.mpr
      ⟨commonPrefix (first :: items), String.ofList rest, ?_, ?_⟩
    · rw [← String.toList_inj, String.toList_append, String.toList_ofList, split]
    · rw [commonLength_eq, commonPrefix, commonPrefix?_eq, Option.getD_some, ← String.utf8ByteSize_ofList]
      rfl
  · rw [commonPrefix, commonPrefix?_eq]
    rfl
  · intro others rearranged
    cases others with
    | nil => exact absurd rearranged.length_eq (by simp)
    | cons other others =>
        exact (commonPrefix_isLongestStart other others).unique (fun item => rearranged.mem_iff) longest

theorem commonPrefix_exact_accents :
    (⟨commonLength "né" ["nè"]⟩ : String.Pos.Raw).IsValid "né" ∧
      IsLongestStart ["né", "nè"] "n" ∧ ["nè", "né"].Perm ["né", "nè"] ∧
      commonPrefix ["nè", "né"] = "n" := by
  obtain ⟨valid, _, longest, unordered⟩ := commonPrefix_exact "né" ["nè"]
  have start : commonPrefix ["né", "nè"] = "n" := by decide
  have swapped : ["nè", "né"].Perm ["né", "nè"] := .swap "né" "nè" []
  rw [start] at longest unordered
  exact ⟨valid, longest, swapped, unordered _ swapped⟩

end ShapeCompiler.Text
