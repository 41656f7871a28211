import Palimpsest.Toml.Scalar

/-!
# Documents of TOML

A document is a tree of tables. Each table remembers how it came to be, because that decides what
may still be added to it:

* an implicit table stands only on the way to another one, and a header may still define it;
* a dotted table comes from a dotted key, and only dotted keys of the same place add to it;
* an inline table is complete.

`Node.descend` walks along a path and changes the table at its end. The path leads through the last
table of an array of tables.
-/

namespace Palimpsest.Toml

/-- How a table came to be. -/
structure Origin where
  implicit : Bool
  dotted : Bool
  inline : Bool

/-- A table that a header defines, or the document itself. -/
def Origin.header : Origin := ⟨false, false, false⟩

inductive Node where
  | scalar (value : Scalar)
  /-- An array; whether it is made of headers, and so can be extended. -/
  | array (ofHeaders : Bool) (items : List Node)
  | table (origin : Origin) (fields : List (String × Node))

abbrev Fields := List (String × Node)

/-- The fields with a value under a key, in the place of an earlier one. -/
def setField (key : String) (node : Node) : Fields → Fields
  | [] => [(key, node)]
  | (name, old) :: rest =>
    if name = key then (key, node) :: rest else (name, old) :: setField key node rest

namespace Node

/-- Changes the table at the end of a path. Tables on the way are made where there are none. -/
def descend (dotted : Bool) (change : Origin → Fields → Option Node) :
    List String → Origin → Fields → Option Node
  | [], origin, fields => change origin fields
  | key :: path, origin, fields => do
    let child ←
      match fields.lookup key with
      | none => descend dotted change path ⟨true, dotted, false⟩ []
      | some (.table origin fields) =>
        if origin.inline || (dotted && !origin.implicit) then none
        else descend dotted change path origin fields
      | some (.array true items) =>
        match items.reverse with
        | .table origin fields :: before =>
          (descend dotted change path origin fields).map
            fun last => .array true (before.reverse ++ [last])
        | _ => none
      | some _ => none
    return .table origin (setField key child fields)

/-- Adds a value under a dotted key: its last part, and the parts before it. -/
def addValue (path : List String) (key : String) (value : Node) (origin : Origin)
    (fields : Fields) : Option Node :=
  let dotted := !path.isEmpty
  descend dotted
    (fun origin fields =>
      if origin.dotted != dotted || (fields.lookup key).isSome then none
      else some (.table origin (fields ++ [(key, value)])))
    path origin fields

def addTable (path : List String) (key : String) (origin : Origin) (fields : Fields) :
    Option Node :=
  descend false
    (fun origin fields =>
      match fields.lookup key with
      | none => some (.table origin (fields ++ [(key, .table .header [])]))
      | some (.table old inner) =>
        if old.implicit && !old.dotted then
          some (.table origin (setField key (.table .header inner) fields))
        else none
      | some _ => none)
    path origin fields

def addToArray (path : List String) (key : String) (origin : Origin) (fields : Fields) :
    Option Node :=
  descend false
    (fun origin fields =>
      match fields.lookup key with
      | none => some (.table origin (fields ++ [(key, .array true [.table .header []])]))
      | some (.array true items) =>
        some (.table origin (setField key (.array true (items ++ [.table .header []])) fields))
      | some _ => none)
    path origin fields

end Node

end Palimpsest.Toml
