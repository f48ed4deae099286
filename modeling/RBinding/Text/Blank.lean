/-!
# RBinding.Text.Blank

Blank characters and trimming. A character is blank if it separates words or lines: the spaces of
Unicode (general category Zs), the line and paragraph separators, and the control characters that
move the carriage or separate records. The zero-width space and the byte order mark are not blank.

Text is read as `List Char`. `trimStart`, `trimEnd` and `trim` cut blank characters off its ends.
-/

namespace RBinding
namespace Text

def isBlank (c : Char) : Bool :=
  let n := c.toNat
  (9 ≤ n && n ≤ 13) || (28 ≤ n && n ≤ 32) || n == 0x85 || n == 0xa0 || n == 0x1680 ||
  (0x2000 ≤ n && n ≤ 0x200a) || n == 0x2028 || n == 0x2029 || n == 0x202f || n == 0x205f ||
  n == 0x3000

def trimStart (cs : List Char) : List Char :=
  cs.dropWhile isBlank

def trimEnd (cs : List Char) : List Char :=
  (cs.reverse.dropWhile isBlank).reverse

def trim (cs : List Char) : List Char :=
  trimEnd (trimStart cs)

def isAllBlank (cs : List Char) : Bool :=
  cs.all isBlank

@[simp] theorem trimStart_nil : trimStart [] = [] := rfl

@[simp] theorem trimEnd_nil : trimEnd [] = [] := rfl

@[simp] theorem isAllBlank_nil : isAllBlank [] = true := rfl

theorem isAllBlank_iff {cs : List Char} : isAllBlank cs = true ↔ ∀ c ∈ cs, isBlank c = true := by
  simp [isAllBlank]

end Text
end RBinding
