import DoubleDispatch.Decimal.Binary64

/-! The tree that a configuration text or a request stands for: scalars, lists, and tables whose
entries keep the order in which they were written. A list of tables that headers opened one by one
is told apart from a list between brackets. -/
namespace DoubleDispatch
open Decimal (Binary64)

structure Date where
  year : Nat
  month : Nat
  day : Nat
  deriving DecidableEq, Repr

structure TimeOfDay where
  hour : Nat
  minute : Nat
  second : Nat
  fraction : List Char
  deriving DecidableEq, Repr

/- Minutes east of the meridian; a bare letter stands for none. -/
inductive Offset where
  | meridian
  | east (minutes : Int)
  deriving DecidableEq, Repr

inductive Moment where
  | day (date : Date)
  | clock (time : TimeOfDay)
  | both (date : Date) (time : TimeOfDay) (offset : Option Offset)
  deriving DecidableEq, Repr

inductive Document where
  | null
  | boolean (value : Bool)
  | integer (value : Int)
  | float (value : Binary64)
  | string (value : String)
  | moment (value : Moment)
  | list (items : List Document)
  | sections (tables : List Document)
  | table (entries : List (String × Document))
  deriving Repr

abbrev Entry := String × Document

namespace Document

/- The reserved name under which a date or time shows when it is looked at as a table. -/
def momentName : String := "$__toml_private_datetime"

def entry? (name : String) : Document → Option Document
  | .table entries => entries.lookup name
  | _ => none

def string? : Document → Option String
  | .string value => some value
  | _ => none

def items? : Document → Option (List Document)
  | .list items | .sections items => some items
  | _ => none

def ofNat (n : Nat) : Document := .integer n

def ofOption (f : α → Document) : Option α → Document
  | none => .null
  | some x => f x

/- The entries by the order of their names. -/
def sortEntries (entries : List Entry) : List Entry :=
  entries.mergeSort (fun a b => !(b.1 < a.1))

theorem sortEntriesPerm (entries : List Entry) : (sortEntries entries).Perm entries :=
  List.mergeSort_perm entries _

end Document
end DoubleDispatch
