import DoubleDispatch.Decimal.Digits
import DoubleDispatch.Storage.Pathname

/-! Why the storage refuses a request, and the words it says so in. -/
namespace DoubleDispatch.Storage

inductive Fault where
  | noSuchEntry
  | alreadyExists
  | notDirectory
  | isDirectory
  | busy
  | nameTooLong
  | nulInName
  | notText
  | other (code : Nat) (description : String)
  deriving DecidableEq, Repr

def coded (description : String) (code : Nat) : String :=
  description ++ " (os error " ++ Decimal.text code ++ ")"

def Fault.message : Fault → String
  | .noSuchEntry => coded "No such file or directory" 2
  | .alreadyExists => coded "File exists" 17
  | .notDirectory => coded "Not a directory" 20
  | .isDirectory => coded "Is a directory" 21
  | .busy => coded "Device or resource busy" 16
  | .nameTooLong => coded "File name too long" 36
  | .nulInName => "file name contained an unexpected NUL byte"
  | .notText => "stream did not contain valid UTF-8"
  | .other code description => coded description code

def pathLimit : Nat := 4096

/- Faults that a path shows before anything is looked up. -/
def Pathname.check (path : Pathname) : Except Fault Unit :=
  if path.text.toList.contains '\x00' then .error .nulInName
  else if path.isEmpty then .error .noSuchEntry
  else if pathLimit ≤ path.text.utf8ByteSize then .error .nameTooLong
  else .ok ()

end DoubleDispatch.Storage
