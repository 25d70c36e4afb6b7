import DoubleDispatch.Storage.Script

/-! A storage as a value: which places hold which files and directories, and where a run stands.
Carrying out a script on it gives the result and the storage afterwards. -/
namespace DoubleDispatch.Storage

/- The names from the root down. -/
abbrev Place := List String

inductive Item where
  | file (content : ByteArray)
  | directory

/- Where a run stands. A directory that was removed under it is no longer linked: it holds nothing
and can be left upwards only. -/
structure Position where
  place : Place
  linked : Bool
  deriving DecidableEq, Repr

structure World where
  entries : List (Place × Item)
  standing : Position
  home : Option Pathname

def nameLimit : Nat := 255

def Pathname.ofPlace (place : Place) : Pathname := ⟨"/" ++ String.intercalate "/" place⟩

namespace World

def item? (world : World) (place : Place) : Option Item :=
  if place.isEmpty then some .directory else world.entries.lookup place

def erase (world : World) (place : Place) : World :=
  { world with entries := world.entries.filter (fun entry => entry.1 != place) }

def put (world : World) (place : Place) (item : Item) : World :=
  { world with entries := (place, item) :: (world.erase place).entries }

def at? (world : World) (position : Position) : Option Item :=
  if position.linked then world.item? position.place else some .directory

def start (world : World) (path : Pathname) : Position :=
  if path.isAbsolute then ⟨[], true⟩ else world.standing

/- One step of a way. It starts from a directory, whatever the step is. -/
def enter (world : World) (position : Position) (segment : String) : Except Fault Position :=
  match world.at? position with
  | some .directory =>
    if Pathname.isNoise segment then .ok position
    else if segment = ".." then .ok ⟨position.place.dropLast, true⟩
    else if !position.linked then .error .noSuchEntry
    else if nameLimit < segment.utf8ByteSize then .error .nameTooLong
    else if (world.item? (position.place ++ [segment])).isSome then
      .ok ⟨position.place ++ [segment], true⟩
    else .error .noSuchEntry
  | some (.file _) => .error .notDirectory
  | none => .error .noSuchEntry

def walk (world : World) (position : Position) (segments : List String) :
    Except Fault Position :=
  segments.foldlM world.enter position

def locate (world : World) (path : Pathname) : Except Fault Position := do
  path.check
  world.walk (world.start path) path.segments

def find (world : World) (path : Pathname) : Except Fault (Position × Item) := do
  let position ← world.locate path
  match world.at? position with
  | some item => .ok (position, item)
  | none => .error .noSuchEntry

/- A place in a directory, whether or not something is there, and whether a slash follows its name. -/
structure Slot where
  place : Place
  slashed : Bool

/- The slot that a path names. Dots and the root are no slots and answer with the given fault, and a
directory that is not linked has none. -/
def slot (world : World) (path : Pathname) (unnamed : Fault) : Except Fault Slot := do
  path.check
  match path.segments.reverse.dropWhile (· == "") with
  | [] => .error unnamed
  | name :: before =>
    let directory ← world.walk (world.start path) before.reverse
    let directory ← world.enter directory "."
    if name = "." ∨ name = ".." then .error unnamed
    else if !directory.linked then .error .noSuchEntry
    else if nameLimit < name.utf8ByteSize then .error .nameTooLong
    else .ok ⟨directory.place ++ [name], path.segments.getLast? == some ""⟩

def isFile (world : World) (path : Pathname) : Bool :=
  match world.find path with
  | .ok (_, .file _) => true
  | _ => false

def isDirectory (world : World) (path : Pathname) : Bool :=
  match world.find path with
  | .ok (_, .directory) => true
  | _ => false

def readText (world : World) (path : Pathname) : Except Fault String := do
  match ← world.find path with
  | (_, .directory) => .error .isDirectory
  | (_, .file content) =>
    match String.fromUTF8? content with
    | some text => .ok text
    | none => .error .notText

def makeDirectory (world : World) (path : Pathname) : Except Fault World := do
  let slot ← world.slot path .alreadyExists
  if (world.item? slot.place).isSome then .error .alreadyExists
  else .ok (world.put slot.place .directory)

def createFile (world : World) (path : Pathname) : Except Fault World := do
  let slot ← world.slot path .isDirectory
  if slot.slashed then .error .isDirectory
  else if (world.item? slot.place).isSome then .error .alreadyExists
  else .ok (world.put slot.place (.file ByteArray.empty))

def writeText (world : World) (path : Pathname) (text : String) : Except Fault World := do
  match ← world.find path with
  | (_, .directory) => .error .isDirectory
  | (position, .file _) => .ok (world.put position.place (.file text.toUTF8))

/- A file takes the place of another one, never that of a directory. -/
def moveFile (world : World) (source target : Pathname) : Except Fault World := do
  match ← world.find source with
  | (_, .directory) => .error .isDirectory
  | (position, .file content) =>
    let slot ← world.slot target .busy
    match world.item? slot.place with
    | some .directory => .error .isDirectory
    | _ =>
      if slot.slashed then .error .notDirectory
      else .ok ((world.erase position.place).put slot.place (.file content))

def removeFile (world : World) (path : Pathname) : Except Fault World := do
  match ← world.find path with
  | (_, .directory) => .error .isDirectory
  | (position, .file _) => .ok (world.erase position.place)

def workingDirectory (world : World) : Except Fault Pathname :=
  if world.standing.linked then .ok (.ofPlace world.standing.place) else .error .noSuchEntry

/- A change that was refused leaves the storage as it was. -/
def settle (world : World) : Except Fault World → Except Fault Unit × World
  | .ok changed => (.ok (), changed)
  | .error fault => (.error fault, world)

def perform (world : World) : Request β → β × World
  | .workingDirectory => (world.workingDirectory, world)
  | .homeDirectory => (world.home, world)
  | .isFile path => (world.isFile path, world)
  | .isDirectory path => (world.isDirectory path, world)
  | .readText path => (world.readText path, world)
  | .makeDirectory path => world.settle (world.makeDirectory path)
  | .createFile path => world.settle (world.createFile path)
  | .writeText path text => world.settle (world.writeText path text)
  | .moveFile source target => world.settle (world.moveFile source target)
  | .removeFile path => world.settle (world.removeFile path)

end World

def Script.run : Script α → World → α × World
  | .done result, world => (result, world)
  | .ask request next, world =>
    let (answer, world) := world.perform request
    (next answer).run world

end DoubleDispatch.Storage
