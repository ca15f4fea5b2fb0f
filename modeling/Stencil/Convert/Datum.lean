import Stencil.Convert.Serial

/-!
# Typed data

Data built from integers, truth values, texts, floating-point numbers, options,
sequences and tables.  A table is sorted by its names, and the last of several
entries under one name counts.  Data becomes a value in two ways: directly
(`Value.ofDatum`), and through its serialized form (`Datum.toSerial`).
-/

set_option autoImplicit false

namespace Stencil

open Numeric (Binary32 Binary64)

/-- Typed data. -/
inductive Datum
  | bool (truth : Bool)
  | int (number : Int)
  | single (number : Binary32)
  | double (number : Binary64)
  | string (text : String)
  | absent
  | present (content : Datum)
  | sequence (items : List Datum)
  | table (entries : List (String × Datum))

namespace Datum

instance : Inhabited Datum := ⟨.absent⟩

mutual
/-- The form in which typed data is given to a serializer. -/
def toSerial : Datum → Serial
  | .bool truth => .bool truth
  | .int number => .int number
  | .single number => .single number
  | .double number => .double number
  | .string text => .string text
  | .absent => .absent
  | .present content => .present (toSerial content)
  | .sequence items => .sequence (itemsToSerial items)
  | .table entries => .table (entriesToSerial entries)

/-- The serialized forms of the items of a sequence. -/
def itemsToSerial : List Datum → List Serial
  | [] => []
  | item :: items => toSerial item :: itemsToSerial items

/-- The serialized forms of the entries of a table. -/
def entriesToSerial : List (String × Datum) → List (Serial × Serial)
  | [] => []
  | (name, content) :: entries => (.string name, toSerial content) :: entriesToSerial entries
end

end Datum

namespace Value

mutual
/-- The value of typed data. -/
def ofDatum : Datum → Value
  | .bool truth => .bool truth
  | .int number => ofInt number
  | .single number => .float number.widen
  | .double number => .float number
  | .string text => .string text
  | .absent => .null
  | .present content => ofDatum content
  | .sequence items => .list (ofDatumItems items)
  | .table entries => .map (Entries.sorted (Entries.ofPairs (ofDatumEntries entries)))

/-- The values of the items of a sequence. -/
def ofDatumItems : List Datum → List Value
  | [] => []
  | item :: items => ofDatum item :: ofDatumItems items

/-- The values of the entries of a table. -/
def ofDatumEntries : List (String × Datum) → List (String × Value)
  | [] => []
  | (name, content) :: entries => (name, ofDatum content) :: ofDatumEntries entries
end

end Value

end Stencil
