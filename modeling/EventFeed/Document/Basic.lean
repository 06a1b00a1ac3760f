import EventFeed.Number.Shortest
import EventFeed.Text.Quoted

/-! Self-describing values: what a header may hold, and what records are read from and written to. -/

namespace EventFeed

/-- What an entry of a document is filed under. -/
inductive Key where
  | name (text : String)
  /-- The place of a field in its record, counted from zero. -/
  | place (index : Nat)
  /-- Bytes that are no text; no field has such a name. -/
  | bytes (value : List UInt8)
  /-- Anything that cannot name a field. -/
  | other
deriving DecidableEq

/-- A value that carries its own shape. -/
inductive Document where
  | null
  | bool (value : Bool)
  /-- A whole number of either sign. -/
  | integer (value : Int)
  /-- A whole number that is stored without a sign. -/
  | natural (value : Nat)
  /-- A double, by its bits. -/
  | real (bits : UInt64)
  | text (value : String)
  /-- Bytes that need not be a text. -/
  | bytes (value : List UInt8)
  | list (items : List Document)
  /-- Values under keys, in order. -/
  | entries (items : List (Key × Document))
  /-- A value of a kind that no record holds. -/
  | foreign
deriving BEq, Inhabited

namespace Document

/-- Entries under names. -/
def named (fields : List (String × Document)) : Document :=
  .entries (fields.map fun (label, value) => (.name label, value))

/-- A whole number, stored without a sign where it has none. -/
def ofInt (value : Int) : Document :=
  if 0 ≤ value then .natural value.toNat else .integer value

/-- An optional value, with `null` for none. -/
def ofOption {α : Type} (write : α → Document) : Option α → Document
  | none => .null
  | some value => write value

mutual

/-- How many lists and entries stand inside each other at the deepest point. -/
def depth : Document → Nat
  | .list items => depthOfItems items + 1
  | .entries items => depthOfEntries items + 1
  | _ => 0

/-- The greatest depth in a list. -/
def depthOfItems : List Document → Nat
  | [] => 0
  | item :: rest => max item.depth (depthOfItems rest)

/-- The greatest depth under any key. -/
def depthOfEntries : List (Key × Document) → Nat
  | [] => 0
  | (_, item) :: rest => max item.depth (depthOfEntries rest)

end

/-- The debugging text of a key. -/
def keyText : Key → String
  | .name label => quoted label
  | .place index => toString index
  | .bytes value => "Bytes(" ++ toString value.length ++ ")"
  | .other => "?"

mutual

/-- The debugging text of a document. -/
def debugText : Document → String
  | .null => "Null"
  | .bool value => "Bool(" ++ toString value ++ ")"
  | .integer value => "Number(" ++ toString value ++ ")"
  | .natural value => "Number(" ++ toString value ++ ")"
  | .real bits => "Number(" ++ (Double.ofBits bits).text ++ ")"
  | .text value => "String(" ++ quoted value ++ ")"
  | .bytes value => "Bytes(" ++ toString value.length ++ ")"
  | .list items => "Array " ++ listText (itemTexts items)
  | .entries items => "Object \x7b" ++ ", ".intercalate (entryTexts items) ++ "\x7d"
  | .foreign => "Foreign"

/-- The debugging texts of a list. -/
def itemTexts : List Document → List String
  | [] => []
  | item :: rest => item.debugText :: itemTexts rest

/-- The debugging texts of entries. -/
def entryTexts : List (Key × Document) → List String
  | [] => []
  | (key, item) :: rest => (keyText key ++ ": " ++ item.debugText) :: entryTexts rest

end

end Document

end EventFeed
