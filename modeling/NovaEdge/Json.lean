import Mathlib.Tactic

/-! JSON values as the program's serialisation libraries hand them over. -/
namespace NovaEdge

inductive JsonValue
 | null
 | bool (b : Bool)
 | num (text : String)
 | str (s : String)
 | arr (items : List JsonValue)
 | obj (fields : List (String × JsonValue))

abbrev JsonObject := List (String × JsonValue)

def JsonObject.get (o : JsonObject) (k : String) : Option JsonValue := o.lookup k

def JsonObject.put (o : JsonObject) (k : String) (v : JsonValue) : JsonObject :=
 (k,v)::o.filter fun f => f.1 ≠ k

end NovaEdge
