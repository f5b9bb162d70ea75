set_option autoImplicit false

namespace BoundSelect

inductive Name where
  | plain (letters : String)
  | quoted (content : String)
  deriving DecidableEq, Repr

inductive Part where
  | name (name : Name)
  | star
  deriving DecidableEq, Repr

structure Identifier where
  path : List Name := []
  last : Part
  deriving DecidableEq, Repr

namespace Name

def isStart (c : Char) : Bool := c.isAlpha || c == '_'

def isFollower (c : Char) : Bool := c.isAlphanum || c == '_' || c == '$'

def WellFormed : Name → Prop
  | plain letters => ∃ c rest, letters.toList = c :: rest ∧ isStart c ∧ ∀ d ∈ rest, isFollower d
  | quoted content => content ≠ "" ∧ '\x00' ∉ content.toList

def escape (cs : List Char) : List Char :=
  cs.flatMap fun c => if c = '"' then ['"', '"'] else [c]

def text : Name → String
  | plain letters => letters
  | quoted content => "\"" ++ String.ofList (escape content.toList) ++ "\""

-- Bare names clash whatever the case of their letters, quoted ones by what stands between the quotes.
def key : Name → String
  | plain letters => letters.toLower
  | quoted content => content

end Name

namespace Part

def text : Part → String
  | name n => n.text
  | star => "*"

def WellFormed : Part → Prop
  | name n => n.WellFormed
  | star => True

end Part

namespace Identifier

def parts (i : Identifier) : List Part := i.path.map .name ++ [i.last]

def text (i : Identifier) : String := ".".intercalate (i.parts.map Part.text)

def isQualified (i : Identifier) : Bool := !i.path.isEmpty

def qualify (qualifier : Name) (i : Identifier) : Identifier :=
  if i.isQualified then i else { i with path := [qualifier] }

def bare (i : Identifier) : Identifier := { last := i.last }

def WellFormed (i : Identifier) : Prop := (∀ n ∈ i.path, n.WellFormed) ∧ i.last.WellFormed

@[simp] theorem qualify_qualify (a b : Name) (i : Identifier) :
    (i.qualify a).qualify b = i.qualify a := by
  rcases i with ⟨_ | ⟨n, path⟩, last⟩ <;> rfl

@[simp] theorem bare_qualify (a : Name) (i : Identifier) : (i.qualify a).bare = i.bare := by
  rcases i with ⟨_ | ⟨n, path⟩, last⟩ <;> rfl

theorem parts_ne_nil (i : Identifier) : i.parts ≠ [] := by simp [parts]

def initial (i : Identifier) : Char :=
  let letters := match i.last with
    | .name (.plain s) | .name (.quoted s) => s.toList
    | .star => []
  ((letters.find? Char.isAlpha).map Char.toLower).getD 't'

end Identifier

end BoundSelect
