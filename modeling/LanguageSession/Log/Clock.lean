import LanguageSession.Log.Files

/-!
Times of log records, counted in seconds from the start of 1970.
-/

namespace LanguageSession

namespace Log

/-- A day of the calendar. -/
structure Day where
  year : Nat
  month : Nat
  day : Nat
  deriving DecidableEq, Repr

/--
The day with a number, counted from the first of March of the year zero.  Years that
begin in March have their leap day at the end, and four hundred of them have 146097
days.
-/
def Day.ofNumber (number : Nat) : Day :=
  let era := number / 146097
  let inEra := number % 146097
  let year := (inEra - inEra / 1460 + inEra / 36524 - inEra / 146096) / 365
  let inYear := inEra - (365 * year + year / 4 - year / 100)
  let month := (5 * inYear + 2) / 153
  let day := inYear - (153 * month + 2) / 5 + 1
  let beforeJanuary := month < 10
  ⟨era * 400 + year + (if beforeJanuary then 0 else 1),
    if beforeJanuary then month + 3 else month - 9, day⟩

def epoch : Nat := 719468

example : Day.ofNumber epoch = ⟨1970, 1, 1⟩ := by decide

example : Day.ofNumber (epoch + 19724) = ⟨2024, 1, 2⟩ := by decide

def twoDigits (n : Nat) : Text := Text.padZeros 2 (Text.ofNat n)

def Day.toText (day : Day) : Text :=
  Text.join "-" [Text.padZeros 4 (Text.ofNat day.year), twoDigits day.month, twoDigits day.day]

def Stamp.ofSeconds (seconds : Nat) : Stamp :=
  let day := (Day.ofNumber (epoch + seconds / 86400)).toText
  let time := Text.join ":" ([seconds / 3600 % 24, seconds / 60 % 60, seconds % 60].map twoDigits)
  ⟨day, time, day ++ "T" ++ time ++ "+00:00"⟩

end Log

end LanguageSession
