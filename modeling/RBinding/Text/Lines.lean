import RBinding.Text.Blank

/-!
# RBinding.Text.Lines

Text as lines. Only the line feed ends a line, so `lines` and `unlines` are inverse to each other
on lines without one (`unlines_lines`, `lines_unlines`). The indentation of a line is the number
of blank characters it starts with.
-/

namespace RBinding
namespace Text

abbrev Line := List Char

def lines (cs : List Char) : List Line :=
  cs.splitOn '\n'

def unlines (ls : List Line) : List Char :=
  ['\n'].intercalate ls

theorem unlines_lines (cs : List Char) : unlines (lines cs) = cs :=
  List.intercalate_splitOn '\n'

theorem lines_unlines {ls : List Line} (h : ∀ l ∈ ls, '\n' ∉ l) (hne : ls ≠ []) :
    lines (unlines ls) = ls :=
  List.splitOn_intercalate '\n' h hne

/-- The number of blank characters before the first that is not. -/
def indentOf (l : Line) : Nat :=
  (l.takeWhile isBlank).length

def linesOf (s : String) : List String :=
  (lines s.toList).map String.ofList

def trimmedEnd (s : String) : String :=
  String.ofList (trimEnd s.toList)

def blankText (s : String) : Bool :=
  isAllBlank s.toList

end Text
end RBinding
