import GenKill.Text.Blank

/-!
# Lists of elements in one text

Attributes list elements with commas between them.  Blanks around an element and
empty elements do not count, so an element can be listed only if it has neither.
-/

namespace GenKill.Elements

def split (text : Text) : List Text :=
  ((text.splitOn (Text.byte ',')).map Text.trim).filter fun element =>
    element ≠ []

def join (elements : List Text) : Text := Text.join "," elements

/-- The element survives being listed. -/
def isListable (element : Text) : Bool :=
  decide (element ≠ [] ∧ Text.byte ',' ∉ element ∧ element.trim = element)

end GenKill.Elements
