import LanguageSession.FilePath
import LanguageSession.Json.Display

/-!
Folders that are made, and the files in them.  A folder is made together with all the
folders above it, and making one that is there already changes nothing.  The starting
points of paths are there from the beginning.
-/

namespace LanguageSession

/-- Why a folder cannot be made. -/
inductive FolderError where
  | name (error : NameError)
  /-- A file has this name. -/
  | taken (path : Text)
  /-- The path goes through a file. -/
  | notAFolder (path : Text)
  | tooLong (path : Text)
  deriving DecidableEq, Repr

def FolderError.message : FolderError → Text
  | .name error => error.message
  | .taken path => "[Errno 17] File exists: " ++ Json.quoted path
  | .notAFolder path => "[Errno 20] Not a directory: " ++ Json.quoted path
  | .tooLong path => "[Errno 36] File name too long: " ++ Json.quoted path

structure FileTree where
  folders : List FilePath.Place := []
  files : List FilePath.Place := []
  deriving Repr

namespace FileTree

open FilePath (Place)

def isFolder (tree : FileTree) (place : Place) : Bool :=
  tree.folders.contains place || place.all fun name => name = [] || name = FilePath.upward

/-- Why a path cannot be followed. -/
inductive Obstacle where
  /-- There is nothing at a place on the way. -/
  | missing
  | file
  | longName
  deriving DecidableEq, Repr

def byteCount (text : Text) : Nat := (text.flatMap Lossless.encodeCodePoint).length

def longestName : Nat := 255

def longestPath : Nat := 4095

/--
Goes on by one part from a place, which has to be a folder.  The names of places are those that
the system gives back.
-/
def step (tree : FileTree) (place : Place) (part : Text) : Except Obstacle Place :=
  if tree.files.contains place then .error .file
  else if !tree.isFolder place then .error .missing
  else if part = FilePath.upward then .ok (FilePath.above place)
  else if longestName < byteCount part then .error .longName
  else .ok (place ++ [FilePath.givenBack part])

/-- Makes one folder, unless it is there; `none` if the folder above it is missing. -/
def makeOne (tree : FileTree) (leading : Text) (parts : List Text) :
    Except FolderError (Option FileTree) :=
  let path := FilePath.ofParts leading parts
  if longestPath < byteCount path then .error (.tooLong path)
  else
    match parts.foldlM tree.step (FilePath.start leading) with
    | .error .missing => .ok none
    | .error .file => .error (.notAFolder path)
    | .error .longName => .error (.tooLong path)
    | .ok place =>
      if tree.files.contains place then .error (.taken path)
      else if tree.isFolder place then .ok (some tree)
      else .ok (some { tree with folders := tree.folders ++ [place] })

/--
Makes a folder, whose parts are given from the last one on, and the folders above it.  Where that
fails on the way, the folders above stay.
-/
def makeAll (tree : FileTree) (leading : Text) : List Text → Except FolderError Unit × FileTree
  | [] => (.ok (), tree)
  | name :: above =>
    let parts := (name :: above).reverse
    match tree.makeOne leading parts with
    | .error error => (.error error, tree)
    | .ok (some made) => (.ok (), made)
    | .ok none =>
      match tree.makeAll leading above with
      | (.error error, made) => (.error error, made)
      | (.ok _, made) =>
        match made.makeOne leading parts with
        | .error error => (.error error, made)
        | .ok again => (.ok (), again.getD made)

/-- Makes the folder of a path. -/
def makeFolder (tree : FileTree) (path : Text) : Except FolderError Unit × FileTree :=
  match FilePath.checkName (FilePath.tidy path) with
  | .error error => (.error (.name error), tree)
  | .ok _ => tree.makeAll (FilePath.leading path) (FilePath.parts path).reverse

end FileTree

end LanguageSession
