import LockScreen.FileContent
import LockScreen.Text.Lines

/-!
Paths, and what they lead to. A path is walked name by name, from the root if it starts with a slash
and from the working directory otherwise; a name can only be looked up in a directory.
-/

namespace LockScreen

open LockScreen.Text

abbrev FileTree := String → FileContent

/-- Files and empty directories, by the names on the way to them from the root. -/
structure Disk where
  files : List (List String × List UInt8)
  directories : List (List String)
  current : List String

def pathNames (path : String) : List String :=
  ((pieces '/' path.toList).filter fun name => !name.isEmpty).map String.ofList

def endsInSlash (path : String) : Bool :=
  path.toList.getLast? = some '/'

def plainNames (names : List String) : List String :=
  let follow (way : List String) (name : String) : List String :=
    if name = "." then way
    else if name = ".." && way.getLast?.any (· ≠ "..") then way.dropLast
    else way ++ [name]
  names.foldl follow []

def sameWay (path other : String) : Bool :=
  path.startsWith "/" == other.startsWith "/" &&
    plainNames (pathNames path) == plainNames (pathNames other)

namespace Disk

def nameLimit : Nat := 255

def pathLimit : Nat := 4096

def isDirectory (disk : Disk) (names : List String) : Bool :=
  (disk.current :: disk.directories ++ disk.files.map fun file => file.1.dropLast).any
    names.isPrefixOf

def content (disk : Disk) (names : List String) : FileContent :=
  match disk.files.lookup names with
  | some bytes => .regular bytes
  | none => if disk.isDirectory names then .directory else .missing

def walk (disk : Disk) (place : List String) : List String → FileContent
  | [] => disk.content place
  | name :: rest =>
    match disk.content place with
    | .directory =>
      if name = "." then walk disk place rest
      else if name = ".." then walk disk place.dropLast rest
      else if nameLimit < name.utf8ByteSize then .overlong
      else walk disk (place ++ [name]) rest
    | .regular _ => .obstructed
    | fault => fault

/-- What a path leads to. A slash at its end asks for a directory. -/
def find (disk : Disk) (path : String) : FileContent :=
  if path.toList.contains '\x00' then .unnameable
  else if path.isEmpty then .missing
  else if pathLimit ≤ path.utf8ByteSize then .overlong
  else
    match disk.walk (if path.startsWith "/" then [] else disk.current) (pathNames path) with
    | .regular bytes => if endsInSlash path then .obstructed else .regular bytes
    | content => content

def systemFiles : List (List String × List UInt8) :=
  [(["dev", "null"], []), (["dev", "full"], []), (["dev", "stdin"], []),
    (["etc", "passwd"], Utf8.encode "root:x:0:0:root:/root:/bin/sh\n"),
    (["etc", "hosts"], Utf8.encode "127.0.0.1 localhost\n")]

def systemDirectories : List (List String) :=
  [["bin"], ["home"], ["lib"], ["opt"], ["proc"], ["root"], ["run"], ["sys"], ["tmp"], ["usr"],
    ["var"]]

end Disk

namespace FileTree

def ofFiles (files : List (String × List UInt8)) : FileTree :=
  let current := ["tmp", "session"]
  let placed := files.map fun file => (current ++ pathNames file.1, file.2)
  Disk.find ⟨placed ++ Disk.systemFiles, Disk.systemDirectories, current⟩

def withoutSlashes (path : List Char) : List Char :=
  (path.reverse.dropWhile (· = '/')).reverse

def parent (path : String) : String :=
  let behind := (withoutSlashes path.toList).reverse.dropWhile (· ≠ '/')
  if behind.isEmpty then "." else String.ofList behind.reverse

def endsInName (path : String) : Bool :=
  match (pathNames path).getLast? with
  | some name => name ≠ "." && name ≠ ".."
  | none => false

/-- Why no file can be written under a path, if so. No file is made under a path that ends in a
slash, even if nothing stands there yet. -/
def refusal? (files : FileTree) (path : String) : Option String :=
  match files path with
  | .regular _ => none
  | .directory => some FileContent.isADirectory
  | .overlong => some FileContent.nameTooLong
  | .unnameable => some FileContent.zeroInName
  | _ =>
    if path.isEmpty then some FileContent.notFound
    else
      match files (parent path) with
      | .directory =>
        if !endsInName path then some FileContent.notFound
        else if endsInSlash path then some FileContent.isADirectory
        else none
      | .regular _ | .obstructed => some FileContent.notADirectory
      | .overlong => some FileContent.nameTooLong
      | .unnameable => some FileContent.zeroInName
      | .missing => some FileContent.notFound

end FileTree

end LockScreen
