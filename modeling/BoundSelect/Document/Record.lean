import BoundSelect.Fault

set_option autoImplicit false

namespace BoundSelect.Document

-- The first of the names is the one that faults are reported with.
structure Field (α : Type) where
  name : String
  otherName : Option String := none
  required : Bool := false
  read : Json → Except Mismatch (α → α)

structure Record (α : Type) where
  title : String
  blank : α
  fields : List (Field α)

variable {α : Type}

def Field.isNamed (f : Field α) (key : String) : Bool := f.name == key || f.otherName == some key

namespace Record

def field? (r : Record α) (key : String) : Option (Field α) := r.fields.find? (·.isNamed key)

structure Progress (α : Type) where
  value : α
  seen : List String := []

def readEntry (r : Record α) (p : Progress α) (entry : String × Json) :
    Except Mismatch (Progress α) :=
  match r.field? entry.1 with
  | none => .ok p
  | some f =>
      if f.name ∈ p.seen then .error (.duplicate f.name)
      else do
        let update ← f.read entry.2
        return { value := update p.value, seen := f.name :: p.seen }

def readObject (r : Record α) (entries : List (String × Json)) : Except Mismatch α := do
  let p ← entries.foldlM r.readEntry { value := r.blank }
  match r.fields.find? fun f => f.required && !p.seen.contains f.name with
  | some f => throw (.missing f.name)
  | none => return p.value

def readItems (fields : List (Field α)) (items : List Json) (value : α) :
    Except Mismatch (α × List (Field α) × List Json) :=
  match fields, items with
  | f :: fields, item :: items => do
      let update ← f.read item
      readItems fields items (update value)
  | fields, items => .ok (value, fields, items)

def readArray (r : Record α) (items : List Json) : Except Mismatch α := do
  let (value, missing, extra) ← readItems r.fields items r.blank
  if missing.any Field.required then throw (.tooFew items.length r.title r.fields.length)
  if !extra.isEmpty then throw (.tooMany items.length)
  return value

def read (r : Record α) : Json → Except Mismatch α
  | .obj entries => r.readObject entries
  | .arr items => r.readArray items
  | other => .error (.type other s!"struct {r.title}")

end Record

def readText : Json → Except Mismatch String
  | .str s => .ok s
  | other => .error (.type other "a string")

def readItemsOf {β : Type} (item : Json → Except Mismatch β) : Json → Except Mismatch (List β)
  | .arr items => items.mapM item
  | other => .error (.type other "a sequence")

def readUInt64 : Json → Except Mismatch UInt64
  | .num (.int n) => if n < 0 then .error (.negative n) else .ok n.toUInt64
  | .num (.big n _) => .ok n
  | other => .error (.type other "u64")

-- What may be left out may also be null.
def readOptional {β : Type} (read : Json → Except Mismatch β) : Json → Except Mismatch (Option β)
  | .null => .ok none
  | other => some <$> read other

end BoundSelect.Document
