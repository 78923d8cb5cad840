import LanguageSession.Log.Record

/-!
Parts of a program that log under dotted names.  A name belongs to the name in front of
one of its dots, the nearest one that is known, and records are written for the program
itself and for all that belongs to it in the end.  A dot right before another dot that was
looked at is passed over.
-/

namespace LanguageSession

namespace Log

def programName : Text := "lsplink"

/-- The component that a part of the program logs under. -/
def components : List (Text × Text) :=
  [("lsplink.lsp.process", "PROCESS"), ("lsplink.lsp.framing", "FRAMER"),
    ("lsplink.lsp.registry", "RPC"), ("lsplink.lsp.dispatcher", "RPC"),
    ("lsplink.lsp.client", "CLIENT"), ("lsplink.lsp.events", "EVENTS")]

/-- What stands before the last dot, unless the name starts with it. -/
def beforeDot? (name : Text) : Option Text :=
  match name.reverse.dropWhile fun c => c ≠ CodePoint.ofChar '.' with
  | [] => none
  | _ :: before => if before.isEmpty then none else some before.reverse

theorem beforeDot?_shorter {name before : Text} (found : beforeDot? name = some before) :
    before.length < name.length := by
  unfold beforeDot? at found
  split at found
  · cases found
  · next dot rest dropped =>
    have bound : (dot :: rest).length ≤ name.reverse.length := by
      rw [← dropped]
      exact (List.dropWhile_sublist _).length_le
    split at found
    · cases found
    · cases found
      simp only [List.length_cons, List.length_reverse] at bound ⊢
      omega

/-- Does a name, other than that of the program, belong to the program? -/
def belongs (known : List Text) (name : Text) : Bool :=
  match h : beforeDot? name with
  | none => false
  | some before =>
    have := beforeDot?_shorter h
    if before = programName then true
    else if known.contains before then belongs known before
    else belongs known before.dropLast
termination_by name.length
decreasing_by
  · assumption
  · simp only [List.length_dropLast]
    omega

/-- The record of a part, seen which names are known; only what belongs to the program has one. -/
def ofPart? (known : List Text) (part : Text) (level : Level) (message : Text) : Option Record :=
  if part = programName || belongs (known ++ components.map Prod.fst) part then
    some (note level ((components.lookup part).getD "SYSTEM") message)
  else none

end Log

end LanguageSession
