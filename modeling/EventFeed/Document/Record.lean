import EventFeed.Document.Basic

/-! Records as documents: written field by field, by name or by place, and
read back from either form. -/

namespace EventFeed

/-- How the fields of a written record are told apart. -/
inductive Layout where
  /-- Each field stands under its name. -/
  | named
  /-- The fields stand in order, without names. -/
  | compact
deriving DecidableEq

namespace Document

/-- Writes a record in the chosen layout. -/
def record (layout : Layout) (fields : List (String × Document)) : Document :=
  match layout with
  | .named => named fields
  | .compact => .list (fields.map Prod.snd)

/-- The field that a key stands for; unknown names and places stand for none. -/
def fieldOfKey (names : List String) : Key → Option Nat
  | .name label => names.idxOf? label
  | .place index => if index < names.length then some index else none
  | .bytes _ | .other => none

/-- The values found for the fields, in the order of their names. -/
def fields? (names : List String) : Document → Option (List (Option Document))
  | .list items => if items.length = names.length then some (items.map some) else none
  | .entries items =>
    let found := items.filterMap fun (key, item) => (fieldOfKey names key).map fun field => (field, item)
    -- A key of the wrong kind and a field given twice are refused; unknown names are passed over.
    if (items.any fun (key, _) => key == .other) ∨ ¬ (found.map Prod.fst).Nodup then none
    else some ((List.range names.length).map fun field => List.lookup field found)
  | _ => none

/-- A field that must be there. -/
def required {α : Type} (read : Document → Option α) (field : Option Document) : Option α :=
  field.bind read

/-- A field that may be missing or null. -/
def optional {α : Type} (read : Document → Option α) : Option Document → Option (Option α)
  | none => some none
  | some .null => some none
  | some document => (read document).map some

/-- Bytes as the text they encode, when they encode one. -/
def textOfBytes? (bytes : List UInt8) : Option String := String.fromUTF8? (ByteArray.mk bytes.toArray)

/-- A text, or bytes that encode one. -/
def text? : Document → Option String
  | .text value => some value
  | .bytes value => textOfBytes? value
  | _ => none

/-- A whole number from zero up to a bound. -/
def naturalBelow? (bound : Nat) : Document → Option Nat
  | .natural value => if value < bound then some value else none
  | .integer value => if 0 ≤ value ∧ value < bound then some value.toNat else none
  | _ => none

/-- A whole number of 64 bits with a sign. -/
def int64? : Document → Option Int64
  | .natural value => if (value : Int) ≤ Int64.maxValue.toInt then some (Int64.ofInt value) else none
  | .integer value =>
    if Int64.minValue.toInt ≤ value ∧ value ≤ Int64.maxValue.toInt then some (Int64.ofInt value)
    else none
  | _ => none

/-- A truth value. -/
def bool? : Document → Option Bool
  | .bool value => some value
  | _ => none

/-- One of the named choices: its name, its place, or either as the only key of a null entry. -/
def choice? {α : Type} (choices : List (String × α)) : Document → Option α
  | .text name => List.lookup name choices
  | .bytes name => (textOfBytes? name).bind fun name => List.lookup name choices
  | .natural place => choices[place]?.map Prod.snd
  | .entries [(.name name, .null)] => List.lookup name choices
  | .entries [(.place place, .null)] => choices[place]?.map Prod.snd
  | _ => none

/-- A list whose items are all read; bytes stand for the list of their numbers. -/
def items? {α : Type} (read : Document → Option α) : Document → Option (List α)
  | .list items => items.mapM read
  | .bytes value => value.mapM fun byte => read (.natural byte.toNat)
  | _ => none

end Document

end EventFeed
