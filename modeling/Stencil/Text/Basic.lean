import Stencil.Text.CodePoint

/-!
# Texts

A text is the list of its code points, so that taking one apart is structural recursion and the
laws of templates are laws of list concatenation. `Text.after?` is the one primitive by which a
fixed string is recognised, and `Text.after?_eq_some_iff` says what it recognises.
-/

namespace Stencil

/-- Text is held as the sequence of its code points, so every offset counts code points. -/
abbrev Text := List CodePoint

namespace Text

/-- The text of a string. -/
def of (string : String) : Text :=
  string.toList.map .char

/-- The string of a text, if it consists of characters. -/
def toString? (text : Text) : Option String :=
  (text.mapM CodePoint.char?).map String.ofList

/-- The string of a text, with a mark in the place of what is no character. -/
def toString (text : Text) : String :=
  String.ofList (text.map fun point => point.char?.getD '\uFFFD')

/-- What follows a fixed opening in a text, if the text begins with it. -/
def after? : Text → Text → Option Text
  | [], text => some text
  | _ :: _, [] => none
  | expected :: opening, found :: text =>
    if expected = found then after? opening text else none

/-- Recognising a fixed opening splits the text at its end and nowhere else. -/
theorem after?_eq_some_iff {opening text rest : Text} :
    after? opening text = some rest ↔ text = opening ++ rest := by
  induction opening generalizing text with
  | nil => simp [after?]
  | cons expected opening inductionHypothesis =>
    cases text with
    | nil => simp [after?]
    | cons found text =>
      by_cases same : expected = found
      · simp [after?, same, inductionHypothesis]
      · simp [after?, same, Ne.symm same]

/-- Whether a piece occurs in a text. -/
def holds (piece : Text) : Text → Bool
  | [] => (after? piece []).isSome
  | first :: rest => (after? piece (first :: rest)).isSome || holds piece rest

/-- What a text begins with occurs in it. -/
theorem holds_of_after? {piece text rest : Text} (begins : after? piece text = some rest) :
    holds piece text = true := by
  cases text <;> simp [holds, begins]

/-- What occurs in the rest of a text occurs in the text. -/
theorem holds_append {piece text : Text} (before : Text) (occurs : holds piece text = true) :
    holds piece (before ++ text) = true := by
  induction before with
  | nil => exact occurs
  | cons first before inductionHypothesis => simp [holds, inductionHypothesis]

/-- Lines are counted by the breaks between them. -/
def lineBreaks (text : Text) : Nat :=
  text.count (.char '\n')

/-- Breaks are counted piece by piece. -/
@[simp] theorem lineBreaks_append (first second : Text) :
    lineBreaks (first ++ second) = lineBreaks first + lineBreaks second :=
  List.count_append

/-- A counter is written in decimal. -/
def ofNat (count : Nat) : Text :=
  (Nat.toDigits 10 count).map .char

/-- A number is written in decimal, with a sign only when it is negative. -/
def ofInt : Int → Text
  | .ofNat magnitude => ofNat magnitude
  | .negSucc magnitude => .char '-' :: ofNat (magnitude + 1)

/-- The texts of a list with a separator between neighbours. -/
def joinWith (separator : Text) : List Text → Text
  | [] => []
  | [only] => only
  | first :: rest => first ++ separator ++ joinWith separator rest

/-- The pieces of a text between occurrences of a code point; there is always at least one. -/
def splitAt (mark : CodePoint) : Text → List Text
  | [] => [[]]
  | found :: rest =>
    if found = mark then [] :: splitAt mark rest
    else (splitAt mark rest).modifyHead (found :: ·)

end Text

end Stencil
