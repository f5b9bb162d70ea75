import BoundSelect.Text.Blank

set_option autoImplicit false

namespace BoundSelect.Text

def foldedWords (s : String) : List String := (words s).map String.toUpper

def findKeyword {α : Type} (spelling : α → String) (candidates : List α) (s : String) : Option α :=
  candidates.find? fun a => foldedWords (spelling a) == foldedWords s

theorem findKeyword_congr {α : Type} (spelling : α → String) (candidates : List α) {s t : String}
    (same : foldedWords s = foldedWords t) :
    findKeyword spelling candidates s = findKeyword spelling candidates t := by
  simp [findKeyword, same]

-- Blanks inside stay and make the keyword unknown.
def keyword (s : String) : String := (trim s).toUpper

end BoundSelect.Text
