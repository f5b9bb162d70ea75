import BoundSelect.Placeholder
import Std.Data.ExtTreeMap.Basic

set_option autoImplicit false

namespace BoundSelect

abbrev Binds := Std.ExtTreeMap String Value

namespace Binds

def ofSlots (slots : List Slot) : Binds := .ofList (slots.map fun s => (s.key, s.value))

def toJson (b : Binds) : Json := .obj (b.toList.map fun (key, value) => (key, value.toJson))

end Binds

end BoundSelect
