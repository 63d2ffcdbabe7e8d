import Wordbook.Command.Script
import Wordbook.Text.Split

/-!
# Folders

A folder of files as a value, and the run of a script in it (`Script.runIn`).
Paths are relative to the folder. Outside it there is nothing but the folders
around it, where what is stored is never seen again, and the null device.
-/

namespace Wordbook

/-- The files of a folder, under their paths. A folder inside it is there when a file is in it. -/
structure Folder where
  files : SortedMap String (List UInt8)
  deriving DecidableEq

namespace Folder

def missing : String := "No such file or directory (os error 2)"

def notAFolder : String := "Not a directory (os error 20)"

def isAFolder : String := "Is a directory (os error 21)"

def nameTooLong : String := "File name too long (os error 36)"

/-- The bytes that a name may have at most. -/
def maxName : Nat := 255

/-- The bytes that a path may have at most. -/
def maxPath : Nat := 4095

/-- The path of the null device, which is empty and takes everything. -/
def nullDevice : String := "/dev/null"

/-- Where a walk along a path stands. -/
inductive Place where
  /-- In the folder that these names lead to. -/
  | inside (names : List String)
  /-- In a folder around it. -/
  | around
  deriving DecidableEq, Repr

/-- The place that is left behind. -/
def Place.up : Place → Place
  | inside [] => around
  | inside names => inside names.dropLast
  | around => around

/-- What a path leads to. -/
inductive Target where
  | folder
  /-- What a name in a folder stands for, if for anything. A path that ends in a slash is that of
  a folder. -/
  | entry (place : Place) (name : String) (slash : Bool)
  deriving DecidableEq, Repr

/-- The path of a name in a folder. -/
def join (names : List String) (name : String) : String := "/".intercalate (names ++ [name])

variable (folder : Folder)

def file? (name : String) : Option (List UInt8) := folder.files.get? name

/-- Whether a path is that of a folder inside. -/
def hasFolder (name : String) : Bool := folder.files.keys.any (·.startsWith (name ++ "/"))

/-- The place that a step leads to. -/
def enter (place : Place) (step : String) : Except String Place :=
  if step = "." then .ok place
  else if step = ".." then .ok place.up
  else if maxName < step.utf8ByteSize then .error nameTooLong
  else
    match place with
    | .around => .error missing
    | .inside names =>
      if folder.hasFolder (join names step) then .ok (.inside (names ++ [step]))
      else if (folder.file? (join names step)).isSome then .error notAFolder
      else .error missing

/-- What a path leads to, if all the folders on the way are there. -/
def locate (path : String) : Except String Target := do
  if maxPath < path.utf8ByteSize then throw nameTooLong
  if path = "" then throw missing
  let pieces := (Text.pieces '/' path.toList).map String.ofList
  let start := if pieces.head? = some "" then .around else .inside []
  let steps := pieces.filter (· != "")
  let place ← steps.dropLast.foldlM folder.enter start
  match steps.getLast? with
  | none | some "." | some ".." => return .folder
  | some name => return .entry place name (pieces.getLast? = some "")

def load (path : String) : FileResult := do
  if path = nullDevice then return []
  match ← folder.locate path with
  | .folder => throw isAFolder
  | .entry place name slash =>
    if maxName < name.utf8ByteSize then throw nameTooLong
    match place with
    | .around => throw missing
    | .inside names =>
      if folder.hasFolder (join names name) then throw isAFolder
      match folder.file? (join names name) with
      | some bytes => if slash then throw notAFolder else return bytes
      | none => throw missing

/-- The folder with a file in it, in the place of one with the same path. -/
def store (path : String) (bytes : List UInt8) : Except String Folder := do
  if path = nullDevice then return folder
  match ← folder.locate path with
  | .folder => throw isAFolder
  | .entry place name slash =>
    if slash then throw isAFolder
    if maxName < name.utf8ByteSize then throw nameTooLong
    match place with
    | .around => return folder
    | .inside names =>
      if folder.hasFolder (join names name) then throw isAFolder
      return ⟨folder.files.insert (join names name) bytes⟩

end Folder

/-- What surrounds a script besides its files. -/
structure Surroundings where
  environment : SortedMap String String
  clock : String
  freshId : String

/-- What a script has done: the files that it leaves, and the lines that it has told and put out. -/
structure Session where
  folder : Folder
  told : List String
  output : List String
  deriving DecidableEq

/-- The run of a script in a folder. -/
def Script.runIn {α : Type} (around : Surroundings) : Script α → Session → α × Session
  | done a, s => (a, s)
  | tell line next, s => next.runIn around { s with told := s.told ++ [line] }
  | put line next, s => next.runIn around { s with output := s.output ++ [line] }
  | environment name next, s => (next (around.environment.get? name)).runIn around s
  | load path next, s => (next (s.folder.load path)).runIn around s
  | store path bytes next, s =>
    match s.folder.store path bytes with
    | .ok folder => (next (.ok ())).runIn around { s with folder := folder }
    | .error reason => (next (.error reason)).runIn around s
  | clock next, s => (next around.clock).runIn around s
  | freshId next, s => (next around.freshId).runIn around s

end Wordbook
