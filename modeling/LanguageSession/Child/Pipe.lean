import LanguageSession.Failure
import LanguageSession.Text.Blank
import LanguageSession.Text.Utf8

/-!
Pipes from a child process.  A pipe is the list of what becomes available in it: bytes,
or a failure.  It is read either in blocks, as output is, or in lines, as error output
is.  Main statements: the blocks of some bytes, and their lines, put one after the
other are these bytes.
-/

namespace LanguageSession

namespace Child

/-- What a read of a pipe comes to.  No bytes stand for the end of the pipe. -/
inductive Read where
  | bytes (data : Bytes)
  | failed (failure : Failure)
  deriving DecidableEq, Repr

def blockSize : Nat := 4096

/-- Cuts bytes into blocks; only the last one may be shorter than the others. -/
def blocks (data : Bytes) : List Bytes :=
  if data.isEmpty then []
  else data.take blockSize :: blocks (data.drop blockSize)
termination_by data.length
decreasing_by
  have nonempty : data.length ≠ 0 := by simp_all
  simp only [List.length_drop, blockSize]
  omega

/-- The reads of a pipe that is read in blocks. -/
def Read.inBlocks : Read → List Read
  | .bytes [] => [.bytes []]
  | .bytes data => (blocks data).map .bytes
  | .failed failure => [.failed failure]

/-- The bytes that become available before a pipe first fails. -/
def bytesBeforeFailure : List Read → Bytes
  | [] => []
  | .bytes data :: rest => data ++ bytesBeforeFailure rest
  | .failed _ :: _ => []

def lineFeed : UInt8 := 0x0A

/-- Cuts bytes after every line feed. -/
def lines : Bytes → List Bytes
  | [] => []
  | byte :: rest =>
    if byte = lineFeed then [byte] :: lines rest
    else
      match lines rest with
      | [] => [[byte]]
      | line :: others => (byte :: line) :: others

/-- The text of a line without the characters that end it, unless it is blank. -/
def lineText? (line : Bytes) : Option Text :=
  let text := (Utf8.decodeLossy line).dropEndWhile fun c =>
    c = CodePoint.ofChar '\r' || c = CodePoint.ofChar '\n'
  if text.isBlank then none else some text

theorem flatten_blocks (data : Bytes) : (blocks data).flatten = data := by
  fun_induction blocks data with
  | case1 data empty => simp_all
  | case2 data nonempty ih => simp [ih]

theorem flatten_lines (data : Bytes) : (lines data).flatten = data := by
  induction data with
  | nil => rfl
  | cons byte rest ih =>
      simp only [lines]
      split
      · simp [ih]
      · split
        · next none => simp_all
        · next line others some => simp_all

end Child

end LanguageSession
