import AgentFabric.Foundation.Segments

namespace AgentFabric.Renovation.SimplePdf
open ByteLayout

/-- `str.replace` of one character. -/
def replaceChar (old : Char) (new : List Char) (text : List Char) : List Char :=
  text.flatMap fun char => if char = old then new else [char]

/-- The backslashes are doubled before the parentheses get theirs. -/
def pdfEscape (value : List Char) : List Char :=
  replaceChar ')' ['\\', ')'] (replaceChar '(' ['\\', '('] (replaceChar '\\' ['\\', '\\'] value))

/-- The operators that select the font and the place of a line. -/
def lineHead (y : Int) (size : Nat) : List Char :=
  "BT /F1 ".toList ++ (toString size).toList ++ " Tf 50 ".toList ++ (toString y).toList ++
    " Td ".toList

def lineEnd : List Char := " Tj ET".toList

/-- A line of the page shows at most 115 characters of its text. -/
def pdfLine (y : Int) (text : List Char) (size : Nat) : List Char :=
  lineHead y size ++ '(' :: (pdfEscape (text.take 115) ++ ')' :: lineEnd)

variable (lines : List String)

/-- The content of the page, whose first line is a title. -/
def pageContent : List Char :=
  List.intercalate ['\n'] ((lines.take 39).mapIdx fun index line =>
    pdfLine (760 - index * 18) line.toList (if index = 0 then 15 else 10))

def text (value : String) : List UInt8 := encode value.toList

/-- The objects of the document that are always the same. -/
def pageObjects : List (List UInt8) := [
  text "1 0 obj << /Type /Catalog /Pages 2 0 R >> endobj",
  text "2 0 obj << /Type /Pages /Kids [3 0 R] /Count 1 >> endobj",
  text "3 0 obj << /Type /Page /Parent 2 0 R /MediaBox [0 0 612 792] /Resources << /Font << /F1 4 0 R >> >> /Contents 5 0 R >> endobj",
  text "4 0 obj << /Type /Font /Subtype /Type1 /BaseFont /Helvetica >> endobj"]

variable (stream : List UInt8)

/-- The content with its length. -/
def contentObject : List UInt8 :=
  text ("5 0 obj << /Length " ++ toString stream.length ++ " >> stream\n") ++ stream ++
    text "\nendstream endobj"

def pdfObjects : List (List UInt8) := pageObjects ++ [contentObject stream]

/-- A row of the table gives the offset of an object in ten digits. -/
def xrefRow (offset : Nat) : List UInt8 :=
  encode (zeroPadded 10 offset ++ " 00000 n \n".toList)

def pdfHeader : List UInt8 := text "%PDF-1.4\n"

variable (objects : List (List UInt8))

/-- The objects behind the header and the offsets at which they were written. -/
def pdfBody : List UInt8 × List Nat :=
  writeAll (text "\n") pdfHeader [0] objects

def pdfTable : List UInt8 :=
  text ("xref\n0 " ++ toString (objects.length + 1) ++ "\n0000000000 65535 f \n") ++
    (pdfBody objects).2.tail.flatMap xrefRow

def pdfTrailer (xref : Nat) : List UInt8 :=
  text ("trailer << /Size " ++ toString (objects.length + 1) ++ " /Root 1 0 R >>\n" ++
    "startxref\n" ++ toString xref ++ "\n%%EOF\n")

/-- The file with a content stream. -/
def pdfFile : List UInt8 :=
  (pdfBody (pdfObjects stream)).1 ++ pdfTable (pdfObjects stream) ++
    pdfTrailer (pdfObjects stream) (pdfBody (pdfObjects stream)).1.length

def simplePdf : List UInt8 := pdfFile (encode (pageContent lines))

end AgentFabric.Renovation.SimplePdf
