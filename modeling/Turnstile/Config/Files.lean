/-
Files below a working directory.

A name is a path: its parts are looked up one after another, and every part but the
last has to be a directory.  Nothing is known of what lies outside the working
directory.
-/
import Turnstile.Text.Utf8

namespace Turnstile.Config

/-- Why a file cannot be read as text. -/
inductive FileError
  | missing
  | isDirectory
  | notDirectory
  | nameTooLong
  /-- The name holds a character that no name can hold. -/
  | badName
  | notText
deriving DecidableEq, Repr

/-- The words for it. -/
def FileError.message : FileError → String
  | missing => "No such file or directory (os error 2)"
  | isDirectory => "Is a directory (os error 21)"
  | notDirectory => "Not a directory (os error 20)"
  | nameTooLong => "File name too long (os error 36)"
  | badName => "file name contained an unexpected NUL byte"
  | notText => "stream did not contain valid UTF-8"

/-- What a name stands for. -/
inductive Entry
  | file (bytes : List UInt8)
  | directory
deriving DecidableEq, Repr

/-- The files and directories below the working directory, by the parts of their names. -/
structure Files where
  entries : List (List String × Entry)

namespace Files

/-- An empty directory. -/
def empty : Files := ⟨[]⟩

/-- The parts of a name: what stands between slashes. -/
def parts (name : String) : List String :=
  ((name.toList.splitOn '/').map String.ofList).filter (· ≠ "")

/-- The parts of a name that lead anywhere. -/
def steps (name : String) : List String := (parts name).filter (· ≠ ".")

/-- What stands at a place. -/
def entry? (fs : Files) (place : List String) : Option Entry :=
  match fs.entries.lookup place with
  | some e => some e
  | none =>
    if place.isEmpty || fs.entries.any fun (p, _) => place.isPrefixOf p then some .directory
    else none

/-- Remove what stands at a place. -/
def erase (fs : Files) (name : String) : Files :=
  ⟨fs.entries.filter fun (p, _) => p ≠ steps name⟩

/-- Put a file or a directory at a place. -/
def put (fs : Files) (name : String) (e : Entry) : Files :=
  ⟨(steps name, e) :: (fs.erase name).entries⟩

/-- Follow the parts of a name from a place. -/
def follow (fs : Files) (place : List String) : List String → Except FileError (List String × Entry)
  | [] => match fs.entry? place with
    | some e => .ok (place, e)
    | none => .error .missing
  | part :: rest =>
    match fs.entry? place with
    | none => .error .missing
    | some (.file _) => .error .notDirectory
    | some .directory =>
      if 255 < part.utf8ByteSize then .error .nameTooLong
      else if part = "." then fs.follow place rest
      else if part = ".." then
        if place.isEmpty then (if rest.all (· = "..") then .ok ([], .directory) else .error .missing)
        else fs.follow place.dropLast rest
      else fs.follow (place ++ [part]) rest

/-- What a name stands for. -/
def find (fs : Files) (name : String) : Except FileError Entry :=
  if name.isEmpty then .error .missing
  else if name.toList.any fun c => c.toNat = 0 then .error .badName
  else if 4096 ≤ name.utf8ByteSize then .error .nameTooLong
  else if name.startsWith "/" then
    if (steps name).all (· = "..") then .ok .directory else .error .missing
  else match fs.follow [] (parts name) with
    | .ok (_, .file bytes) => if name.endsWith "/" then .error .notDirectory else .ok (.file bytes)
    | .ok (_, .directory) => .ok .directory
    | .error e => .error e

/-- Is there anything of that name? -/
def has (fs : Files) (name : String) : Bool :=
  match fs.find name with
  | .ok _ => true
  | .error _ => false

/-- Read a file as text. -/
def read (fs : Files) (name : String) : Except FileError String :=
  match fs.find name with
  | .error e => .error e
  | .ok .directory => .error .isDirectory
  | .ok (.file bytes) => match Text.ofBytes? bytes with
    | some s => .ok s
    | none => .error .notText

/-- What follows the last point of a file's name, unless the name starts with it. -/
def extension? (name : String) : Option String :=
  match (steps name).getLast? with
  | none => none
  | some last =>
    if last = ".." then none
    else
      let tail := last.toList.reverse.takeWhile (· ≠ '.')
      if tail.length + 1 < last.length then some (String.ofList tail.reverse) else none

end Files

end Turnstile.Config
