import AgentFabric.Construction.Renovation.SimplePdf
import AgentFabric.Foundation.JsonText

namespace AgentFabric.Renovation.SimplePdf
open ByteLayout

section Literals

/-- Where a reader of a content stream is: outside the literals, inside one with the open inner
parentheses and the characters that were read, or behind a backslash in it. -/
inductive ScanState where
  | outside
  | inside (depth : Nat) (read : List Char)
  | escaped (depth : Nat) (read : List Char)

/-- The literals of a content stream with their escapes. -/
def literalsFrom : ScanState → List Char → List (List Char)
  | _, [] => []
  | .outside, char :: rest =>
      if char = '(' then literalsFrom (.inside 0 []) rest else literalsFrom .outside rest
  | .escaped depth read, char :: rest => literalsFrom (.inside depth (char :: read)) rest
  | .inside depth read, char :: rest =>
      if char = '\\' then literalsFrom (.escaped depth (char :: read)) rest
      else if char = '(' then literalsFrom (.inside (depth + 1) (char :: read)) rest
      else if char = ')' then
        match depth with
        | 0 => read.reverse :: literalsFrom .outside rest
        | outer + 1 => literalsFrom (.inside outer (char :: read)) rest
      else literalsFrom (.inside depth (char :: read)) rest

/-- A backslash stands for the character behind it. -/
def unescape : List Char → List Char
  | [] => []
  | [char] => [char]
  | first :: second :: rest =>
      if first = '\\' then second :: unescape rest else first :: unescape (second :: rest)

/-- Every parenthesis has a backslash of its own before it. -/
def ParenthesesEscaped : List Char → Prop
  | [] => True
  | [char] => char ≠ '(' ∧ char ≠ ')'
  | first :: second :: rest =>
      if first = '\\' then ParenthesesEscaped rest
      else first ≠ '(' ∧ first ≠ ')' ∧ ParenthesesEscaped (second :: rest)

/-- The escaped form of one character. -/
def escapeChar (char : Char) : List Char :=
  if char = '\\' ∨ char = '(' ∨ char = ')' then ['\\', char] else [char]

variable (value : List Char)

/-- The three replacements escape every character once. -/
theorem pdfEscape_eq : pdfEscape value = value.flatMap escapeChar := by
  induction value with
  | nil => rfl
  | cons char rest ih =>
      have first : pdfEscape (char :: rest) = pdfEscape [char] ++ pdfEscape rest := by
        simp [pdfEscape, replaceChar]
      have single : pdfEscape [char] = escapeChar char := by
        unfold pdfEscape replaceChar escapeChar
        by_cases backslash : char = '\\'
        · subst backslash
          rfl
        by_cases opening : char = '('
        · subst opening
          rfl
        by_cases closing : char = ')'
        · subst closing
          rfl
        simp [backslash, opening, closing]
      rw [first, single, ih, List.flatMap_cons]

variable {char : Char}

theorem escapeChar_special (special : char = '\\' ∨ char = '(' ∨ char = ')') :
    escapeChar char = ['\\', char] := if_pos special

theorem escapeChar_plain (plain : ¬ (char = '\\' ∨ char = '(' ∨ char = ')')) :
    escapeChar char = [char] := if_neg plain

/-- A plain character is read as it is. -/
theorem unescape_plain (plain : char ≠ '\\') (rest : List Char) :
    unescape (char :: rest) = char :: unescape rest := by
  cases rest with
  | nil => rfl
  | cons second others => exact if_neg plain

theorem unescape_pdfEscape : unescape (pdfEscape value) = value := by
  rw [pdfEscape_eq]
  induction value with
  | nil => rfl
  | cons char rest ih =>
      rw [List.flatMap_cons]
      by_cases special : char = '\\' ∨ char = '(' ∨ char = ')'
      · rw [escapeChar_special special]
        exact congrArg (char :: ·) ih
      · rw [escapeChar_plain special, List.singleton_append,
          unescape_plain fun backslash => special (.inl backslash), ih]

theorem parenthesesEscaped_plain {rest : List Char}
    (plain : ¬ (char = '\\' ∨ char = '(' ∨ char = ')')) (others : ParenthesesEscaped rest) :
    ParenthesesEscaped (char :: rest) := by
  rw [not_or, not_or] at plain
  cases rest with
  | nil => exact ⟨plain.2.1, plain.2.2⟩
  | cons second others =>
      rw [ParenthesesEscaped, if_neg plain.1]
      exact ⟨plain.2.1, plain.2.2, others⟩

theorem parenthesesEscaped_pdfEscape : ParenthesesEscaped (pdfEscape value) := by
  rw [pdfEscape_eq]
  induction value with
  | nil => trivial
  | cons char rest ih =>
      rw [List.flatMap_cons]
      by_cases special : char = '\\' ∨ char = '(' ∨ char = ')'
      · rw [escapeChar_special special]
        exact ih
      · rw [escapeChar_plain special]
        exact parenthesesEscaped_plain special ih

/-- A reader skips what has no opening parenthesis. -/
theorem literalsFrom_outside {skipped : List Char} (closed : '(' ∉ skipped) (rest : List Char) :
    literalsFrom .outside (skipped ++ rest) = literalsFrom .outside rest := by
  induction skipped with
  | nil => rfl
  | cons char others ih =>
      rw [List.mem_cons, not_or] at closed
      rw [List.cons_append, literalsFrom, if_neg (Ne.symm closed.1), ih closed.2]

/-- A reader inside a literal reads an escaped text up to the parenthesis that ends it. -/
theorem literalsFrom_inside (value read rest : List Char) :
    literalsFrom (.inside 0 read) (pdfEscape value ++ ')' :: rest) =
      (read.reverse ++ pdfEscape value) :: literalsFrom .outside rest := by
  rw [pdfEscape_eq]
  induction value generalizing read with
  | nil => simp [literalsFrom]
  | cons char others ih =>
      rw [List.flatMap_cons, List.append_assoc]
      by_cases special : char = '\\' ∨ char = '(' ∨ char = ')'
      · rw [escapeChar_special special]
        have later := ih (char :: '\\' :: read)
        simpa [literalsFrom] using later
      · rw [escapeChar_plain special]
        rw [not_or, not_or] at special
        have later := ih (char :: read)
        simpa [literalsFrom, special.1, special.2.1, special.2.2] using later

theorem literalsFrom_literal {before : List Char} (closed : '(' ∉ before) (value rest : List Char) :
    literalsFrom .outside (before ++ '(' :: (pdfEscape value ++ ')' :: rest)) =
      pdfEscape value :: literalsFrom .outside rest := by
  rw [literalsFrom_outside closed, literalsFrom, if_pos rfl, literalsFrom_inside]
  rfl

end Literals

section Content

theorem no_parenthesis_nat (value : Nat) : '(' ∉ (toString value).toList := by
  intro member
  rw [Nat.toString_eq_repr, Nat.toList_repr] at member
  exact absurd (Json.digit_of_mem_toDigits value '(' member) (by decide)

theorem no_parenthesis_int (value : Int) : '(' ∉ (toString value).toList := by
  intro member
  rcases Json.int_text_chars value '(' member with digit | sign
  · exact absurd digit (by decide)
  · exact absurd sign (by decide)

/-- The operators of a line have no parenthesis. -/
theorem operators_evaluated :
    '(' ∉ "BT /F1 ".toList ∧ '(' ∉ " Tf 50 ".toList ∧ '(' ∉ " Td ".toList ∧ '(' ∉ lineEnd := by
  decide +kernel

theorem no_parenthesis_lineHead (y : Int) (size : Nat) : '(' ∉ lineHead y size := by
  obtain ⟨font, place, move, _⟩ := operators_evaluated
  exact List.not_mem_append
    (List.not_mem_append
      (List.not_mem_append (List.not_mem_append font (no_parenthesis_nat size)) place)
      (no_parenthesis_int y))
    move

/-- A line of the page has one literal. -/
theorem literalsFrom_pdfLine (y : Int) (shown : List Char) (size : Nat) (rest : List Char) :
    literalsFrom .outside (pdfLine y shown size ++ rest) =
      pdfEscape (shown.take 115) :: literalsFrom .outside rest := by
  have after : literalsFrom .outside (lineEnd ++ rest) = literalsFrom .outside rest :=
    literalsFrom_outside operators_evaluated.2.2.2 rest
  have line : pdfLine y shown size ++ rest =
      lineHead y size ++ '(' :: (pdfEscape (shown.take 115) ++ ')' :: (lineEnd ++ rest)) := by
    simp only [pdfLine, List.append_assoc, List.cons_append]
  rw [line, literalsFrom_literal (no_parenthesis_lineHead y size), after]

/-- Lines that have one literal each have their literals together. -/
theorem literalsFrom_intercalate {rows : List (List Char × List Char)}
    (single : ∀ row ∈ rows, ∀ rest,
      literalsFrom .outside (row.1 ++ rest) = row.2 :: literalsFrom .outside rest) :
    literalsFrom .outside (List.intercalate ['\n'] (rows.map Prod.fst)) = rows.map Prod.snd := by
  induction rows with
  | nil => rfl
  | cons row others ih =>
      have first := single row (.head _)
      have later := ih fun other member => single other (.tail _ member)
      cases others with
      | nil =>
          have ended := first []
          rw [List.append_nil] at ended
          simpa [List.intercalate, literalsFrom] using ended
      | cons next rest =>
          have joined : List.intercalate ['\n'] ((row :: next :: rest).map Prod.fst) =
              row.1 ++ (['\n'] ++ List.intercalate ['\n'] ((next :: rest).map Prod.fst)) := by
            simp [List.intercalate]
          rw [joined, first, literalsFrom_outside (by decide), later]
          rfl

/-- The literals of the page are the escaped lines. -/
theorem literalsFrom_pageContent (lines : List String) :
    literalsFrom .outside (pageContent lines) =
      (lines.take 39).map fun line => pdfEscape (line.toList.take 115) := by
  have rows := @literalsFrom_intercalate ((lines.take 39).zipIdx.map fun line =>
    (pdfLine (760 - line.2 * 18) line.1.toList (if line.2 = 0 then 15 else 10),
      pdfEscape (line.1.toList.take 115))) (by
    intro row member rest
    obtain ⟨line, _, rfl⟩ := List.mem_map.mp member
    exact literalsFrom_pdfLine _ _ _ _)
  rw [List.map_map, List.map_map] at rows
  rw [pageContent, List.mapIdx_eq_zipIdx_map]
  refine rows.trans ?_
  conv_rhs => rw [← List.zipIdx_map_fst 0 (lines.take 39), List.map_map]
  rfl

end Content

section Layout

/-- What a reader of a file finds through its last lines, its table and its content stream. -/
structure PdfFile (lines : List String) (file : List UInt8) (objects : List (List UInt8))
    (xref : Nat) (content : List Char) : Prop where
  startxref : ∃ digits, Reads digits xref ∧
    text "startxref\n" ++ digits ++ text "\n%%EOF\n" <:+ file
  body : file.take xref = pdfHeader ++ objects.flatMap (· ++ text "\n")
  table : text "xref\n0 6\n0000000000 65535 f \n" <+: file.drop xref
  count : objects.length = 5
  numbered : ∀ index object, objects[index]? = some object →
    text (toString (index + 1) ++ " 0 obj ") <+: object
  entries : ∀ index object, objects[index]? = some object → ∃ digits offset, Reads digits offset ∧
    (file.drop (xref + 29 + 20 * index)).take 20 = digits ++ text " 00000 n \n" ∧
      file.take offset = pdfHeader ++ (objects.take index).flatMap (· ++ text "\n") ∧
        object ++ text "\n" <+: file.drop offset
  stream : ∃ digits, Reads digits (encode content).length ∧
    objects[4]? = some (text "5 0 obj << /Length " ++ digits ++ text " >> stream\n" ++
      encode content ++ text "\nendstream endobj")
  literals : (literalsFrom .outside content).map unescape =
    (lines.take 39).map fun line => line.toList.take 115
  parentheses : ∀ literal ∈ literalsFrom .outside content, ParenthesesEscaped literal

theorem text_append (first second : String) : text (first ++ second) = text first ++ text second := by
  rw [text, String.toList_append, encode_append]
  rfl

theorem text_number (value : Nat) : text (toString value) = encode (Nat.toDigits 10 value) := by
  rw [text, Nat.toString_eq_repr, Nat.toList_repr]

variable (stream : List UInt8)

/-- The offset of an object behind the objects before it. -/
def objectOffset (index : Nat) : Nat :=
  (pdfHeader ++ ((pdfObjects stream).take index).flatMap (· ++ text "\n")).length

theorem pdfBody_offsets :
    (pdfBody (pdfObjects stream)).2.tail = (List.range 5).map (objectOffset stream) := by
  rw [pdfBody, writeAll_snd]
  rfl

/-- The head of the table has 29 bytes. -/
def tableHead : List UInt8 := text "xref\n0 6\n0000000000 65535 f \n"

/-- What the texts that are the same in every file evaluate to. -/
theorem fixedTexts_evaluated :
    (pdfHeader ++ pageObjects.flatMap (· ++ text "\n")).length < 10 ^ 10 ∧
    (∀ index < 4, ∀ object ∈ pageObjects[index]?,
      text (toString (index + 1) ++ " 0 obj ") <+: object) ∧
    (encode " 00000 n \n".toList).length = 10 ∧
    text ("xref\n0 " ++ toString (5 + 1) ++ "\n0000000000 65535 f \n") = tableHead ∧
    tableHead.length = 29 ∧
    text (toString (4 + 1) ++ " 0 obj ") = text "5 0 obj " ∧
    text "5 0 obj << /Length " = text "5 0 obj " ++ text "<< /Length " := by
  decide +kernel

variable {index : Nat}

/-- The content stream comes last, so that no offset depends on it. -/
theorem objectOffset_lt (inside : index < 5) : objectOffset stream index < 10 ^ 10 := by
  have before : (pdfObjects stream).take index = pageObjects.take index :=
    List.take_append_of_le_length (Nat.le_of_lt_succ inside)
  have whole : pageObjects.flatMap (· ++ text "\n") =
      (pageObjects.take index).flatMap (· ++ text "\n") ++
        (pageObjects.drop index).flatMap (· ++ text "\n") := by
    rw [← List.flatMap_append, List.take_append_drop]
  have bounded := fixedTexts_evaluated.1
  rw [whole, List.length_append, List.length_append] at bounded
  rw [objectOffset, before, List.length_append]
  omega

theorem length_xrefRow {offset : Nat} (fits : offset < 10 ^ 10) : (xrefRow offset).length = 20 := by
  rw [xrefRow, encode_append, List.length_append, length_encode_of_ascii, length_zeroPadded]
  · rw [fixedTexts_evaluated.2.2.1]
  · decide
  · exact fits
  · intro char member
    exact ascii_of_isDigit (isDigit_of_mem_zeroPadded member)

theorem pdfTable_eq : pdfTable (pdfObjects stream) =
    tableHead ++ ((List.range 5).map (objectOffset stream)).flatMap xrefRow := by
  obtain ⟨_, _, _, head, _⟩ := fixedTexts_evaluated
  rw [pdfTable, pdfBody_offsets, ← head]
  rfl

theorem getElem?_pdfObjects_four : (pdfObjects stream)[4]? = some (contentObject stream) := rfl

theorem pdfObjects_numbered {object : List UInt8}
    (listed : (pdfObjects stream)[index]? = some object) :
    text (toString (index + 1) ++ " 0 obj ") <+: object := by
  obtain ⟨_, closed, _, _, _, number, head⟩ := fixedTexts_evaluated
  rcases Nat.lt_or_ge index 4 with early | late
  · rw [pdfObjects, List.getElem?_append_left (by exact early)] at listed
    exact closed index early object listed
  · have inside := (List.getElem?_eq_some_iff.mp listed).1
    have last : index = 4 := by
      have length : (pdfObjects stream).length = 5 := rfl
      omega
    subst last
    rw [getElem?_pdfObjects_four] at listed
    cases listed
    rw [number, contentObject, text_append, text_append, head]
    simp only [List.append_assoc]
    exact List.prefix_append _ _

/-- The place of the table behind the objects. -/
def tableOffset : Nat := (pdfBody (pdfObjects stream)).1.length

theorem pdfFile_eq : pdfFile stream = (pdfBody (pdfObjects stream)).1 ++
    (tableHead ++ (((List.range 5).map (objectOffset stream)).flatMap xrefRow ++
      pdfTrailer (pdfObjects stream) (tableOffset stream))) := by
  rw [pdfFile, pdfTable_eq, List.append_assoc, List.append_assoc]
  rfl

/-- The file ends with the place of the table. -/
theorem startxref_suffix :
    text "startxref\n" ++ encode (Nat.toDigits 10 (tableOffset stream)) ++ text "\n%%EOF\n" <:+
      pdfFile stream := by
  refine ⟨(pdfBody (pdfObjects stream)).1 ++ pdfTable (pdfObjects stream) ++
    text ("trailer << /Size " ++ toString ((pdfObjects stream).length + 1) ++
      " /Root 1 0 R >>\n"), ?_⟩
  rw [pdfFile, pdfTrailer, text_append _ "\n%%EOF\n", text_append _ (toString _),
    text_append _ "startxref\n", text_number]
  simp only [List.append_assoc]
  rfl

theorem take_tableOffset : (pdfFile stream).take (tableOffset stream) =
    pdfHeader ++ (pdfObjects stream).flatMap (· ++ text "\n") := by
  rw [pdfFile_eq, tableOffset, List.take_left]
  exact writeAll_fst

theorem drop_tableOffset : (pdfFile stream).drop (tableOffset stream) =
    tableHead ++ (((List.range 5).map (objectOffset stream)).flatMap xrefRow ++
      pdfTrailer (pdfObjects stream) (tableOffset stream)) := by
  rw [pdfFile_eq, tableOffset, List.drop_left]

/-- A row of the table is found at its index behind the head of the table. -/
theorem take_drop_table (inside : index < 5) :
    ((pdfFile stream).drop (tableOffset stream + 29 + 20 * index)).take 20 =
      encode (zeroPadded 10 (objectOffset stream index)) ++ text " 00000 n \n" := by
  obtain ⟨_, _, _, _, head, _⟩ := fixedTexts_evaluated
  have even : ∀ offset ∈ (List.range 5).map (objectOffset stream), (xrefRow offset).length = 20 := by
    intro offset member
    obtain ⟨found, listed, rfl⟩ := List.mem_map.mp member
    exact length_xrefRow (objectOffset_lt stream (List.mem_range.mp listed))
  have listed : ((List.range 5).map (objectOffset stream))[index]? =
      some (objectOffset stream index) := by
    rw [List.getElem?_map, List.getElem?_range inside]
    rfl
  rw [← List.drop_drop, ← List.drop_drop, drop_tableOffset, ← head, List.drop_left,
    take_drop_rows even listed, xrefRow, encode_append]
  rfl

theorem contentObject_eq : contentObject stream =
    text "5 0 obj << /Length " ++ encode (Nat.toDigits 10 stream.length) ++ text " >> stream\n" ++
      stream ++ text "\nendstream endobj" := by
  rw [contentObject, text_append, text_append, text_number]

/-- The last lines of the file give the place of the table, the table gives the places of the objects,
and the last object holds the lines. -/
theorem simplePdf_layout (lines : List String) :
    ∃ objects xref content, PdfFile lines (simplePdf lines) objects xref content := by
  refine ⟨pdfObjects (encode (pageContent lines)), tableOffset (encode (pageContent lines)),
    pageContent lines, ?_⟩
  exact {
    startxref := ⟨_, reads_toDigits _, startxref_suffix _⟩
    body := take_tableOffset _
    table := by
      rw [simplePdf, drop_tableOffset]
      exact List.prefix_append _ _
    count := rfl
    numbered := fun index object listed => pdfObjects_numbered _ listed
    entries := by
      intro index object listed
      have inside : index < 5 := (List.getElem?_eq_some_iff.mp listed).1
      have written := @writeAll_at _ (text "\n") pdfHeader [0] _ index object listed
        (pdfTable (pdfObjects (encode (pageContent lines))) ++
          pdfTrailer (pdfObjects (encode (pageContent lines)))
            (tableOffset (encode (pageContent lines))))
      rw [← List.append_assoc] at written
      exact ⟨_, _, reads_zeroPadded 10 _, take_drop_table _ inside, written⟩
    stream := ⟨_, reads_toDigits _, by rw [getElem?_pdfObjects_four, contentObject_eq]⟩
    literals := by
      rw [literalsFrom_pageContent, List.map_map]
      exact List.map_congr_left fun line _ => unescape_pdfEscape _
    parentheses := by
      intro literal member
      rw [literalsFrom_pageContent] at member
      obtain ⟨line, _, rfl⟩ := List.mem_map.mp member
      exact parenthesesEscaped_pdfEscape _ }

end Layout

end AgentFabric.Renovation.SimplePdf
