import Stencil.Text.Basic
import Stencil.Text.Intervals

/-!
# White space

Two notions of white space occur in templates. Inside a tag, and between the two delimiters of a
set-delimiters tag, every white space character of Unicode counts (`isSpace`), with the four
information separators U+001C to U+001F among them. In front of a tag only spaces and tabs count
(`isBlank`), since only they can indent a line.
-/

namespace Stencil.Text

/-- Where white space begins and ends among the code points. -/
def spaceBoundaries : List Nat :=
  [9, 14, 28, 33, 133, 134, 160, 161, 5760, 5761, 8192, 8203, 8232, 8234, 8239, 8240, 8287, 8288,
   12288, 12289]

/-- White space in the sense of Unicode, with the information separators. -/
def isSpace (point : CodePoint) : Bool :=
  withinBoundaries point.toNat spaceBoundaries

/-- The characters that can indent a line. -/
def isBlank (point : CodePoint) : Bool :=
  point == .char ' ' || point == .char '\t'

/-- Indentation is white space. -/
theorem isSpace_of_isBlank {point : CodePoint} (blank : isBlank point = true) :
    isSpace point = true := by
  simp only [isBlank, Bool.or_eq_true, beq_iff_eq] at blank
  rcases blank with rfl | rfl <;> decide

/-- The words of a text: its maximal runs of code points that are no white space. -/
def words : Text → List Text
  | [] => []
  | first :: rest =>
    if isSpace first then words rest
    else match rest with
      | [] => [[first]]
      | next :: _ =>
        if isSpace next then [first] :: words rest
        else match words rest with
          | [] => [[first]]
          | word :: others => (first :: word) :: others

end Stencil.Text
