/-! Blanks, line ends and comments of TOML texts. -/
namespace DoubleDispatch.Toml

def isBlank (c : Char) : Bool := c == ' ' || c == '\t'

/- Characters that comments and strings may hold as they are: no control but the tab. -/
def isTextChar (c : Char) : Bool := c == '\t' || (32 ≤ c.toNat && c.toNat != 127)

def skipBlanks (cs : List Char) : List Char := cs.dropWhile isBlank

/- A line ends with a line feed, which a carriage return may precede. -/
def lineEnd? : List Char → Option (List Char)
  | '\n' :: rest => some rest
  | '\r' :: '\n' :: rest => some rest
  | _ => none

def skipComment : List Char → List Char
  | '#' :: rest => rest.dropWhile isTextChar
  | cs => cs

/- What may follow on a line after its content: blanks, a comment, the end. -/
def finishLine (cs : List Char) : Option (List Char) :=
  match skipComment (skipBlanks cs) with
  | [] => some []
  | rest => lineEnd? rest

/- Blanks and line ends only. -/
def skipLines : List Char → List Char
  | ' ' :: rest => skipLines rest
  | '\t' :: rest => skipLines rest
  | '\n' :: rest => skipLines rest
  | '\r' :: '\n' :: rest => skipLines rest
  | cs => cs

/- Blanks, comments and line ends between the items of an array; a comment needs its line end. -/
def skipFillerBound : Nat → List Char → Option (List Char)
  | 0, cs => some cs
  | bound + 1, cs =>
    match skipLines cs with
    | '#' :: rest =>
      match lineEnd? (rest.dropWhile isTextChar) with
      | some rest => skipFillerBound bound rest
      | none => none
    | rest => some rest

def skipFiller (cs : List Char) : Option (List Char) := skipFillerBound (cs.length + 1) cs

end DoubleDispatch.Toml
