import LanguageSession.Text.Case
import LanguageSession.Text.Lossless

/-!
File paths as texts.  A path is looked at lexically: empty parts and single dots mean
nothing, and two dots go back to the part before.  A place is what a path leads to,
told by the names on the way: from the working directory, or after an empty name from
the root.
-/

namespace LanguageSession

/-- Why there can be no file with a name. -/
inductive NameError where
  /-- A surrogate that stands for no byte. -/
  | strange (run : Utf8.SurrogateRun)
  /-- A character with the number zero. -/
  | zero
  deriving DecidableEq, Repr

def NameError.message : NameError → Text
  | .strange run => run.message
  | .zero => "embedded null byte"

namespace FilePath

def slash : CodePoint := CodePoint.ofChar '/'

def dot : CodePoint := CodePoint.ofChar '.'

def upward : Text := [dot, dot]

def parts (path : Text) : List Text :=
  (Text.splitAt slash path).filter fun part => part ≠ [] && part ≠ [dot]

def fileName (path : Text) : Text := (parts path).getLastD []

/--
The last dot of the file name and what follows it.  A dot at the start or at the end
of the name begins no suffix.
-/
def suffix (path : Text) : Text :=
  let name := fileName path
  let tail := (name.reverse.takeWhile fun c => c ≠ dot).reverse
  if tail.isEmpty || name.length ≤ tail.length + 1 then [] else dot :: tail

def isAbsolute (path : Text) : Bool := path.head? = some slash

/-! ## Places -/

abbrev Place := List Text

/-- Where a path starts. -/
def start (path : Text) : Place := if isAbsolute path then [[]] else []

/-- Goes back from a place.  Above the root is the root again. -/
def above (place : Place) : Place :=
  match place.getLast? with
  | none => [upward]
  | some name =>
    if name = [] then place
    else if name = upward then place ++ [upward]
    else place.dropLast

def follow (place : Place) : List Text → Place
  | [] => place
  | part :: rest =>
    if part = upward then follow (above place) rest else follow (place ++ [part]) rest

def place (path : Text) : Place := follow (start path) (parts path)

/-- The shortest path to a place, a single dot for the working directory itself. -/
def pathTo : Place → Text
  | [] => [dot]
  | [[]] => [slash]
  | names => Text.join [slash] names

def normal (path : Text) : Text := pathTo (place path)

/-- The slashes at the start of a path that mean something: none, one, or exactly two. -/
def leading (path : Text) : Text :=
  let slashes := path.takeWhile fun c => c = slash
  if slashes.isEmpty then [] else if slashes.length = 2 then [slash, slash] else [slash]

/-- A path of parts, a single dot if there is nothing in it. -/
def ofParts (leading : Text) (parts : List Text) : Text :=
  match leading ++ Text.join [slash] parts with
  | [] => [dot]
  | path => path

/-- A path with only the parts that mean something; two dots are kept. -/
def tidy (path : Text) : Text := ofParts (leading path) (parts path)

/--
The absolute path of a path, seen from a working directory.  Exactly two slashes at the
start are kept, since the system may treat them in a way of its own.
-/
def resolve (directory path : Text) : Text :=
  if isAbsolute path then (leading path).drop 1 ++ pathTo (place path)
  else pathTo (follow (place directory) (parts path))

/-! ## Names as bytes -/

/-- Can the system be asked for a path? -/
def checkName (path : Text) : Except NameError Unit :=
  match Lossless.findStrange path with
  | some run => .error (.strange run)
  | none => if path.any fun c => c.val == 0 then .error .zero else .ok ()

/-- The text that the system gives back for a name: bytes that turn out to be UTF-8 are read. -/
def givenBack (name : Text) : Text := Lossless.decode (name.flatMap Lossless.encodeCodePoint)

/--
Follows parts as the system does, which is asked for every place on the way and not only
for the last one.
-/
def lookUp (place : Place) : List Text → Except NameError Place
  | [] => .ok place
  | part :: rest =>
    if part = upward then lookUp (above place) rest
    else do
      checkName (pathTo (place ++ [part]))
      lookUp (place ++ [part]) rest

/-! ## URIs -/

/-- Bytes that stand for themselves in the path of a URI. -/
def isPlain (byte : UInt8) : Bool :=
  let n := byte.toNat
  (0x30 ≤ n && n ≤ 0x39) || (0x41 ≤ n && n ≤ 0x5A) || (0x61 ≤ n && n ≤ 0x7A) ||
    n == 0x5F || n == 0x2E || n == 0x2D || n == 0x7E || n == 0x2F

def upperHex (n : Nat) : Text := (Text.hex 2 n).upper

def percentEncode (byte : UInt8) : Text :=
  if isPlain byte then [CodePoint.ofByte byte]
  else CodePoint.ofChar '%' :: upperHex byte.toNat

/-- The URI of an absolute path. -/
def uriOf (path : Text) : Except NameError Text :=
  match Lossless.encode path with
  | .error run => .error (.strange run)
  | .ok bytes => .ok ("file://" ++ bytes.flatMap percentEncode)

def uri (directory path : Text) : Except NameError Text := uriOf (resolve directory path)

/-- The URI of an absolute path that is looked up in the file system. -/
def lookedUpUri (path : Text) : Except NameError Text := do
  uriOf (pathTo (← lookUp (start path) (parts path)))

end FilePath

end LanguageSession
