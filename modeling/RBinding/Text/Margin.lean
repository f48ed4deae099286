import RBinding.Text.Lines

/-!
# RBinding.Text.Margin

Removing the margin of indented text.

* `dedent` takes the least indentation of its non-blank lines off every line and trims the result.
  Trimming also takes what is left of the indentation of the first non-blank line, so only the lines
  after it keep their distances.
* `clean` prepares documentation as it stands in source code: tabs become spaces, the first line
  (which stands beside the opening quotes) is trimmed at its start, the least indentation of the
  lines after it is taken off them, and empty lines at both ends are dropped.
* `squeeze` leaves one empty line where several blank lines follow each other.
-/

namespace RBinding
namespace Text

/-- The least indentation of the lines that are not blank; nothing if all are. -/
def leastIndent (ls : List Line) : Nat :=
  match ((ls.filter (!isAllBlank ·)).map indentOf).min? with
  | none => 0
  | some n => n

/-- Takes `n` characters off a line; a line too short for that stays as it is. -/
def cutMargin (n : Nat) (l : Line) : Line :=
  if n ≤ l.length then l.drop n else l

def dedent (ls : List Line) : List Char :=
  trim (unlines (ls.map (cutMargin (leastIndent ls))))

/-- Drops the empty lines at both ends; lines of spaces are not empty. -/
def dropOuterEmpty (ls : List Line) : List Line :=
  ((ls.dropWhile List.isEmpty).reverse.dropWhile List.isEmpty).reverse

def tabWidth : Nat := 8

/-- Replaces tabs by spaces up to the next tab stop. `column` is the column of the first character;
line feeds and carriage returns go back to column 0. -/
def expandTabsAt (column : Nat) : List Char → List Char
  | [] => []
  | c :: cs =>
    if c = '\t' then
      let gap := tabWidth - column % tabWidth
      List.replicate gap ' ' ++ expandTabsAt (column + gap) cs
    else if c = '\n' || c = '\r' then c :: expandTabsAt 0 cs
    else c :: expandTabsAt (column + 1) cs

def expandTabs (cs : List Char) : List Char :=
  expandTabsAt 0 cs

/-- Takes the margin off documentation text; the margin does not count the first line. -/
def cleanLines : List Line → List Line
  | [] => []
  | first :: rest => dropOuterEmpty (trimStart first :: rest.map (List.drop (leastIndent rest)))

def clean (cs : List Char) : List Line :=
  cleanLines (lines (expandTabs cs))

/-- Documentation as it stands in source code, without its margin. -/
def cleanText (s : String) : String :=
  String.ofList (unlines (clean s.toList))

/-- Leaves one empty line for each run of blank lines. -/
def squeeze : List Line → List Line
  | [] => []
  | l :: ls =>
    if isAllBlank l then
      match squeeze ls with
      | [] :: more => [] :: more
      | more => [] :: more
    else l :: squeeze ls

end Text
end RBinding
