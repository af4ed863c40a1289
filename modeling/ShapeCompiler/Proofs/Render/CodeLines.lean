import Mathlib.Data.List.Infix
import ShapeCompiler.Render.SourceFile

/-! The lines of code in a source file: those that are left when documentation is taken away. Whatever text
is documentation, on an entry or on the whole file, it adds no line of code. -/

namespace ShapeCompiler.Text

theorem piecesFrom_append {isMark : Char → Bool} {mark : Char} (marks : isMark mark = true)
    (left right : List Char) : ∀ piece, piecesFrom isMark piece (left ++ mark :: right) =
      piecesFrom isMark piece left ++ piecesFrom isMark [] right := by
  induction left with
  | nil =>
      intro piece
      rw [List.nil_append, piecesFrom, piecesFrom, if_pos marks, List.singleton_append]
  | cons c left ih =>
      intro piece
      rw [List.cons_append, piecesFrom, piecesFrom]
      split
      · rw [ih, List.cons_append]
      · rw [ih]

theorem piecesFrom_unmarked {isMark : Char → Bool} {text : List Char}
    (unmarked : ∀ c ∈ text, isMark c = false) : ∀ piece,
      piecesFrom isMark piece text = [piece.reverse ++ text] := by
  induction text with
  | nil =>
      intro piece
      rw [piecesFrom, List.append_nil]
  | cons c text ih =>
      intro piece
      have first := unmarked c List.mem_cons_self
      have others := fun other member => unmarked other (List.mem_cons_of_mem c member)
      rw [piecesFrom, first, if_neg Bool.false_ne_true, ih others, List.reverse_cons,
        List.append_assoc, List.singleton_append]

theorem lineFeed_not_mem_endedLine {line : List Char} (single : '\n' ∉ line) :
    '\n' ∉ endedLine line := by
  unfold endedLine
  split
  · rw [List.mem_reverse]
    exact fun member => single (List.mem_cons_of_mem _ member)
  · rwa [List.mem_reverse]

theorem lineFeed_not_mem_linesFrom (text : List Char) :
    ∀ {line}, '\n' ∉ line → ∀ found ∈ linesFrom line text, '\n' ∉ found := by
  induction text with
  | nil =>
      intro line single found member
      rw [linesFrom] at member
      split at member
      · cases member
      · rwa [List.mem_singleton.mp member, List.mem_reverse]
  | cons c text ih =>
      intro line single found member
      by_cases feed : c = '\n'
      · subst feed
        rw [linesFrom] at member
        rcases List.mem_cons.mp member with rfl | later
        · exact lineFeed_not_mem_endedLine single
        · exact ih List.not_mem_nil found later
      · rw [linesFrom.eq_3 line c text feed] at member
        have longer : '\n' ∉ c :: line := by
          rw [List.mem_cons, not_or]
          exact ⟨fun same => feed same.symm, single⟩
        exact ih longer found member

theorem lineFeed_not_mem_lines {text line : String} (member : line ∈ lines text) :
    '\n' ∉ line.toList := by
  obtain ⟨found, listed, rfl⟩ := List.mem_map.mp member
  rw [String.toList_ofList]
  exact lineFeed_not_mem_linesFrom text.toList List.not_mem_nil found listed

end ShapeCompiler.Text

namespace ShapeCompiler.Render

def isDocLine (line : List Char) : Bool :=
  ['/', '/', '/'].isPrefixOf (line.dropWhile Text.isBlank) ||
    ['/', '/', '!'].isPrefixOf (line.dropWhile Text.isBlank)

/-- The lines of a text that are not documentation. -/
def codeLines (text : String) : List (List Char) :=
  (Text.pieces (· = '\n') text.toList).filter fun line => !isDocLine line

theorem codeLines_append (left right : String) :
    codeLines (left ++ "\n" ++ right) = codeLines left ++ codeLines right := by
  have text : (left ++ "\n" ++ right).toList = left.toList ++ '\n' :: right.toList := by
    simp only [String.toList_append, List.append_assoc]
    rfl
  rw [codeLines, text, Text.pieces, Text.piecesFrom_append (by decide), List.filter_append]
  rfl

theorem codeLines_single {line : String} (single : '\n' ∉ line.toList) :
    codeLines line = if isDocLine line.toList then [] else [line.toList] := by
  have unmarked : ∀ c ∈ line.toList, decide (c = '\n') = false := by
    intro c member
    rw [decide_eq_false_iff_not]
    rintro rfl
    exact single member
  rw [codeLines, Text.pieces, Text.piecesFrom_unmarked unmarked, List.reverse_nil, List.nil_append,
    List.filter_cons]
  cases isDocLine line.toList with
  | false => rfl
  | true => rfl

theorem isDocLine_eq_false {line : List Char} (plain : '/' ∉ line) : isDocLine line = false := by
  have dropped : '/' ∉ line.dropWhile Text.isBlank := fun member =>
    plain ((List.dropWhile_sublist _).subset member)
  unfold isDocLine
  cases rest : line.dropWhile Text.isBlank with
  | nil => rfl
  | cons c others =>
      rw [rest, List.mem_cons, not_or] at dropped
      simp [List.isPrefixOf, dropped.1]

structure IsMark (mark : String) : Prop where
  single : '\n' ∉ mark.toList
  documents : ∀ rest, isDocLine (mark.toList ++ rest) = true

theorem isMark_outer : IsMark "//!" :=
  ⟨by decide, fun _ => rfl⟩

theorem isMark_item : IsMark ("" ++ "///") :=
  ⟨by decide, fun _ => rfl⟩

theorem isMark_indented : IsMark ("    " ++ "///") :=
  ⟨by decide, fun _ => rfl⟩

theorem IsMark.codeLines_eq_nil {mark : String} (isMark : IsMark mark) (rest : String)
    (single : '\n' ∉ rest.toList) : codeLines (mark ++ rest) = [] := by
  have documents : isDocLine (mark ++ rest).toList = true := by
    rw [String.toList_append, isMark.documents]
  have unbroken : '\n' ∉ (mark ++ rest).toList := by
    rw [String.toList_append, List.mem_append, not_or]
    exact ⟨isMark.single, single⟩
  rw [codeLines_single unbroken, documents]
  rfl

def marked (mark text : String) : String :=
  if text = "" then mark else mark ++ " " ++ text

theorem docLine_eq (mark text : String) : Entry.docLine mark text = marked mark text ++ "\n" := by
  unfold Entry.docLine marked
  split
  · rfl
  · rfl

theorem IsMark.codeLines_marked {mark text : String} (isMark : IsMark mark)
    (single : '\n' ∉ text.toList) : codeLines (marked mark text) = [] := by
  unfold marked
  split
  · have bare := isMark.codeLines_eq_nil "" List.not_mem_nil
    rwa [String.append_empty] at bare
  · have spaced : '\n' ∉ (" " ++ text).toList := by
      rw [String.toList_append, List.mem_append, not_or]
      exact ⟨by decide, single⟩
    rw [String.append_assoc]
    exact isMark.codeLines_eq_nil (" " ++ text) spaced

theorem IsMark.code_lines {mark : String} (isMark : IsMark mark) (text : String) :
    ((Text.lines text).map (marked mark)).flatMap codeLines = [] := by
  rw [List.flatMap_map, List.flatMap_eq_nil_iff]
  intro line member
  exact isMark.codeLines_marked (Text.lineFeed_not_mem_lines member)

/-! Entries -/

def terminated (lines : List String) : String :=
  String.join (lines.map (· ++ "\n"))

theorem terminated_append (lines others : List String) :
    terminated (lines ++ others) = terminated lines ++ terminated others := by
  rw [terminated, List.map_append, String.join_append]
  rfl

theorem codeLines_terminated (lines : List String) (rest : String) :
    codeLines (terminated lines ++ rest) = lines.flatMap codeLines ++ codeLines rest := by
  induction lines with
  | nil =>
      have empty : terminated [] ++ rest = rest := by
        rw [terminated, List.map_nil, String.join_nil, String.empty_append]
      rw [empty, List.flatMap_nil, List.nil_append]
  | cons line lines ih =>
      have first : terminated (line :: lines) ++ rest = line ++ "\n" ++ (terminated lines ++ rest) := by
        simp only [terminated, List.map_cons, String.join_cons, String.append_assoc]
      rw [first, codeLines_append, ih, List.flatMap_cons, List.append_assoc]

theorem join_docLines (mark : String) (texts : List String) :
    String.join (texts.map (Entry.docLine mark)) = terminated (texts.map (marked mark)) := by
  rw [terminated, List.map_map]
  exact congrArg String.join (List.map_congr_left fun text _ => docLine_eq mark text)

namespace Entry

def lines : Entry → List String
  | .line text => [text]
  | .doc indent text =>
      if text = "" then [indent ++ "///"] else (Text.lines text).map (marked (indent ++ "///"))

theorem text_eq_terminated (entry : Entry) : entry.text = terminated entry.lines := by
  cases entry with
  | line content =>
      simp only [text, lines, terminated, List.map_cons, List.map_nil, String.join_cons,
        String.join_nil, String.append_empty]
  | doc indent content =>
      simp only [text, lines]
      split
      · simp only [docLine_eq, marked, if_true, terminated, List.map_cons, List.map_nil,
          String.join_cons, String.join_nil, String.append_empty]
      · exact join_docLines _ _

def code (entry : Entry) : List (List Char) :=
  entry.lines.flatMap codeLines

theorem code_line {text : String} (single : '\n' ∉ text.toList)
    (code : isDocLine text.toList = false) : (Entry.line text).code = [text].map String.toList := by
  rw [Entry.code, lines, List.flatMap_singleton, codeLines_single single, code]
  rfl

theorem code_doc {indent : String} (isMark : IsMark (indent ++ "///")) (content : String) :
    (doc indent content).code = [] := by
  simp only [code, lines]
  split
  · have bare := isMark.codeLines_eq_nil "" List.not_mem_nil
    rwa [String.append_empty, ← List.flatMap_singleton codeLines] at bare
  · exact isMark.code_lines content

end Entry

def codeOf (entries : List Entry) : List (List Char) :=
  entries.flatMap Entry.code

theorem codeOf_append (entries others : List Entry) :
    codeOf (entries ++ others) = codeOf entries ++ codeOf others :=
  List.flatMap_append

theorem codeLines_body (entries : List Entry) (rest : String) :
    codeLines (SourceFile.body entries ++ rest) = codeOf entries ++ codeLines rest := by
  induction entries with
  | nil =>
      have empty : SourceFile.body [] ++ rest = rest := by
        rw [SourceFile.body, List.map_nil, String.join_nil, String.empty_append]
      rw [empty]
      rfl
  | cons entry entries ih =>
      have first : SourceFile.body (entry :: entries) ++ rest =
          terminated entry.lines ++ (SourceFile.body entries ++ rest) := by
        simp only [SourceFile.body, List.map_cons, String.join_cons, String.append_assoc,
          entry.text_eq_terminated]
      rw [first, codeLines_terminated, ih, codeOf, codeOf, List.flatMap_cons, List.append_assoc]
      rfl

def Closes (entries : List Entry) : Prop :=
  ∃ front text, entries = front ++ [.line (text ++ "\x7d"), Entry.blank]

theorem closes_of_drop {entries : List Entry} (count : Nat) (start : String)
    (ending : entries.drop count = [.line (start ++ "\x7d"), Entry.blank]) : Closes entries := by
  refine ⟨entries.take count, start, ?_⟩
  rw [← ending, List.take_append_drop]

theorem Closes.append {others : List Entry} (closes : Closes others) (entries : List Entry) :
    Closes (entries ++ others) := by
  obtain ⟨front, text, rfl⟩ := closes
  exact ⟨entries ++ front, text, (List.append_assoc entries front _).symm⟩

theorem Closes.append_flatMap {α : Type} {entries : List Entry} {parts : α → List Entry}
    (closes : Closes entries) (each : ∀ item, Closes (parts item)) (items : List α) :
    Closes (entries ++ items.flatMap parts) := by
  induction items generalizing entries with
  | nil => rwa [List.flatMap_nil, List.append_nil]
  | cons item items ih =>
      rw [List.flatMap_cons, ← List.append_assoc]
      exact ih ((each item).append entries)

theorem trimEnd_closed (text : String) :
    Text.trimEnd (text ++ "\x7d" ++ "\n" ++ "\n") = text ++ "\x7d" := by
  have reversed : (text ++ "\x7d" ++ "\n" ++ "\n").toList.reverse =
      '\n' :: '\n' :: '\x7d' :: text.toList.reverse := by
    simp only [String.toList_append, List.reverse_append]
    rfl
  have dropped : ('\n' :: '\n' :: '\x7d' :: text.toList.reverse).dropWhile Text.isBlank =
      '\x7d' :: text.toList.reverse := by
    rfl
  rw [Text.trimEnd, Text.dropBlankEnd, reversed, dropped, List.reverse_cons, List.reverse_reverse,
    String.ofList_append, String.ofList_toList]

theorem codeLines_header (moduleDoc rest : String) :
    codeLines (SourceFile.header moduleDoc ++ rest) = [] :: codeLines rest := by
  have banner : "//!\n//! @generated by shaclc. Do not edit.\n\n" =
      terminated ["//!", "//! @generated by shaclc. Do not edit.", ""] := by
    decide
  have note : ["//!", "//! @generated by shaclc. Do not edit.", ""].flatMap codeLines = [[]] := by
    decide
  rw [SourceFile.header, join_docLines, banner, ← terminated_append, codeLines_terminated,
    List.flatMap_append, isMark_outer.code_lines, note]
  rfl

/-- The lines of code of a file are those of its entries, whatever documents the file and them. -/
theorem codeLines_text {file : SourceFile} (closes : Closes file.entries) :
    codeLines file.text = [] :: codeOf file.entries := by
  obtain ⟨front, text, shape⟩ := closes
  have ending : SourceFile.body file.entries =
      SourceFile.body front ++ text ++ "\x7d" ++ "\n" ++ "\n" := by
    simp only [shape, SourceFile.body, List.map_append, List.map_cons, List.map_nil, String.join_append,
      String.join_cons, String.join_nil, Entry.text, Entry.blank, String.append_assoc,
      String.append_empty, String.empty_append]
  -- One line feed is put back for the two that are trimmed, so the blank line is the end of the text.
  have trimmed : file.text = SourceFile.header file.moduleDoc ++
      (SourceFile.body front ++ (text ++ "\x7d" ++ "\n" ++ "")) := by
    rw [SourceFile.text, ending]
    simp only [← String.append_assoc]
    rw [trimEnd_closed, String.append_empty]
  rw [trimmed, codeLines_header, codeLines_body, codeLines_append, shape, codeOf_append]
  have last : codeOf [.line (text ++ "\x7d"), Entry.blank] = codeLines (text ++ "\x7d") ++ codeLines "" := by
    simp only [codeOf, Entry.code, Entry.lines, Entry.blank, List.flatMap_cons, List.flatMap_nil,
      List.append_nil]
  rw [last]

def framed? (start finish : String) (line : List Char) : Option (List Char) :=
  (start.toList.isPrefixOf? line).bind finish.toList.isSuffixOf?

theorem framed?_eq_some (start inner finish : String) :
    framed? start finish (start ++ inner ++ finish).toList = some inner.toList := by
  have started : start.toList.isPrefixOf? (start ++ inner ++ finish).toList =
      some (inner ++ finish).toList := by
    rw [List.isPrefixOf?_eq_some_iff_append_eq]
    simp only [String.toList_append, List.append_assoc]
  rw [framed?, started, Option.bind_some, List.isSuffixOf?_eq_some_iff_append_eq,
    String.toList_append]

def linesBetween (opening closing : String) (lines : List (List Char)) : List (List Char) :=
  ((lines.dropWhile (· != opening.toList)).drop 1).takeWhile (· != closing.toList)

theorem linesBetween_eq {opening closing : String} {before inside : List String}
    (unopened : opening ∉ before) (unclosed : closing ∉ inside) (after : List String) :
    linesBetween opening closing
      ((before ++ opening :: (inside ++ closing :: after)).map String.toList) =
        inside.map String.toList := by
  have skipped : ∀ line ∈ before.map String.toList, (line != opening.toList) = true := by
    intro line member
    obtain ⟨text, listed, rfl⟩ := List.mem_map.mp member
    rw [bne_iff_ne, ne_eq, String.toList_inj]
    rintro rfl
    exact unopened listed
  have kept : ∀ line ∈ inside.map String.toList, (line != closing.toList) = true := by
    intro line member
    obtain ⟨text, listed, rfl⟩ := List.mem_map.mp member
    rw [bne_iff_ne, ne_eq, String.toList_inj]
    rintro rfl
    exact unclosed listed
  rw [linesBetween, List.map_append, List.map_cons, List.map_append, List.map_cons,
    List.dropWhile_append_of_pos skipped, List.dropWhile_cons_of_neg (by simp), List.drop_one,
    List.tail_cons, List.takeWhile_append_of_pos kept, List.takeWhile_cons_of_neg (by simp),
    List.append_nil]

end ShapeCompiler.Render
