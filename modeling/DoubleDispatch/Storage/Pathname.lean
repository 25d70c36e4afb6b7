/-! Paths as they are written. Nothing is normalised: a path keeps its text, and only what is read
off it passes over empty segments and inner dots. -/
namespace DoubleDispatch.Storage

structure Pathname where
  text : String
  deriving DecidableEq, Repr

def splitSlashes : List Char → List (List Char)
  | [] => [[]]
  | c :: cs =>
    if c = '/' then [] :: splitSlashes cs
    else
      match splitSlashes cs with
      | [] => [[c]]
      | first :: rest => (c :: first) :: rest

namespace Pathname

def segments (path : Pathname) : List String := (splitSlashes path.text.toList).map String.ofList

def isEmpty (path : Pathname) : Bool := path.text.isEmpty

def isAbsolute (path : Pathname) : Bool := path.text.toList.head? == some '/'

/- Segments that name nothing, unless a relative path starts with one. -/
def isNoise (segment : String) : Bool := segment == "" || segment == "."

def ofSegments : List String → Pathname
  | [""] => ⟨"/"⟩
  | segments => ⟨String.intercalate "/" segments⟩

/- The first segment, and the later ones from the last that names something backwards. -/
def backwards (path : Pathname) : String × List String :=
  match path.segments with
  | [] => ("", [])
  | first :: rest => (first, rest.reverse.dropWhile isNoise)

/- The path without its last name. The root and the empty path have none. -/
def parent? (path : Pathname) : Option Pathname :=
  match path.backwards with
  | (first, _ :: before) => some (ofSegments (first :: (before.dropWhile isNoise).reverse))
  | (first, []) => if first = "" then none else some ⟨""⟩

def fileName? (path : Pathname) : Option String :=
  let (first, later) := path.backwards
  let last := later.headD first
  if isNoise last || last == ".." then none else some last

/- The second path seen from the first one; an absolute path stands for itself. -/
def join (base path : Pathname) : Pathname :=
  if path.isAbsolute then path
  else if base.isEmpty || base.text.toList.getLast? == some '/' then ⟨base.text ++ path.text⟩
  else ⟨base.text ++ "/" ++ path.text⟩

def ancestorsWithin : Nat → Pathname → List Pathname
  | 0, path => [path]
  | bound + 1, path =>
    match path.parent? with
    | some parent => path :: ancestorsWithin bound parent
    | none => [path]

/- The path, its parent, and so on; every step takes a segment away. -/
def ancestors (path : Pathname) : List Pathname := ancestorsWithin path.segments.length path

end Pathname
end DoubleDispatch.Storage
