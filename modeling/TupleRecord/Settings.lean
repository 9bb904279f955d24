import TupleRecord.Text

/-!
Settings of the generator, with the conventions that hold unless a caller sets others.
-/
namespace TupleRecord

structure Settings where
  /-- Spaces per level of nesting. Widths are numbers of any size: the limits of a machine word, and
  of the length that a text can have, are left out. -/
  indentWidth : Nat := 4
  /-- The widest line that may hold the list of all constants. -/
  maxLineWidth : Nat := 100
  /-- The qualified name of the class that every record class extends. -/
  baseRecord : Text := "com.scaleunlimited.cascading.BaseDatum"
  /-- The ending of template names that a class name does not keep. -/
  templateEnding : Text := "DatumTemplate"
  /-- What stands for `templateEnding` in the class name. -/
  classEnding : Text := "Datum"
  /-- Refuses fields that only the untyped getter and a cast can read. -/
  rejectUntyped : Bool := false
  deriving DecidableEq, Repr

end TupleRecord
