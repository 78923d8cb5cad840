import LanguageSession.Text.Basic

/-!
Control sequences of terminals.  A sequence is the escape character, an opening bracket,
any number of digits, semicolons and question marks, and a letter, which ends it.  Text
that does not go to a terminal is written without them.
-/

namespace LanguageSession

namespace Terminal

def escape : CodePoint := CodePoint.ofChar '\x1b'

def isParameter (c : CodePoint) : Bool :=
  (0x30 ≤ c.val && c.val ≤ 0x39) || c = CodePoint.ofChar ';' || c = CodePoint.ofChar '?'

def isLetter (c : CodePoint) : Bool :=
  (0x41 ≤ c.val && c.val ≤ 0x5A) || (0x61 ≤ c.val && c.val ≤ 0x7A)

/-- How long the control sequence at the front of a text is after its first character. -/
def sequenceTail? : Text → Option Nat
  | first :: bracket :: rest =>
    let parameters := rest.takeWhile isParameter
    if first = escape && bracket = CodePoint.ofChar '[' &&
        (rest.drop parameters.length).head?.any isLetter then some (parameters.length + 2)
    else none
  | _ => none

/-- Leaves out so many characters, and then all control sequences. -/
def withoutSequences : Nat → Text → Text
  | _, [] => []
  | skip + 1, _ :: rest => withoutSequences skip rest
  | 0, c :: rest =>
    match sequenceTail? (c :: rest) with
    | some skip => withoutSequences skip rest
    | none => c :: withoutSequences 0 rest

/-- A text as it is written where there is no terminal. -/
def bare (text : Text) : Text := withoutSequences 0 text

end Terminal

end LanguageSession
