import DoubleDispatch.Text.Unprintable
import DoubleDispatch.Decimal.Digits

/-! Text in double quotes, as messages show it: what would not be seen is written as an escape. -/
namespace DoubleDispatch.Text

def hexDigits (n : Nat) : List Char :=
  if n < 16 then [Nat.digitChar n] else hexDigits (n / 16) ++ [Nat.digitChar (n % 16)]

def quoteChar (c : Char) : List Char :=
  if c = '"' then ['\\', '"']
  else if c = '\\' then ['\\', '\\']
  else if c = '\n' then ['\\', 'n']
  else if c = '\r' then ['\\', 'r']
  else if c = '\t' then ['\\', 't']
  else if c.toNat = 0 then ['\\', '0']
  else if isUnprintable c then ['\\', 'u', '{'] ++ hexDigits c.toNat ++ ['}']
  else [c]

def quoted (text : String) : String :=
  String.ofList ('"' :: text.toList.flatMap quoteChar ++ ['"'])

/- A name between two grave accents. -/
def ticked (text : String) : String := "`" ++ text ++ "`"

end DoubleDispatch.Text
