/-! Points in time to the millisecond, and their calendar text. -/
namespace ClusterHealth

/-- Milliseconds since the beginning of 1970, negative before it. -/
structure Instant where
  millis : Int
  deriving DecidableEq, Inhabited

namespace Instant

/-- Whole seconds since the beginning of 1970, rounded down. -/
def seconds (t : Instant) : Int := t.millis.fdiv 1000

def addSeconds (t : Instant) (seconds : Int) : Instant := ⟨t.millis + seconds * 1000⟩

/-- The first millisecond of the year -262143. -/
def earliest : Instant := ⟨-8334601228800000⟩

/-- The last millisecond of the year 262142. -/
def latest : Instant := ⟨8210266876799999⟩

/-- Whether the calendar reaches `t`. -/
def InRange (t : Instant) : Prop := earliest.millis ≤ t.millis ∧ t.millis ≤ latest.millis

instance (t : Instant) : Decidable t.InRange := inferInstanceAs (Decidable (_ ∧ _))

/-- Year, month and day of a count of days since the beginning of 1970. Years begin in March, so
that the leap day comes last, and are counted in eras of 400. -/
def civil (days : Int) : Int × Nat × Nat :=
  let z := days + 719468
  let era := z.fdiv 146097
  let dayOfEra := (z - era * 146097).toNat
  let yearOfEra :=
    (dayOfEra - dayOfEra / 1460 + dayOfEra / 36524 - dayOfEra / 146096) / 365
  let dayOfYear := dayOfEra - (365 * yearOfEra + yearOfEra / 4 - yearOfEra / 100)
  let shifted := (5 * dayOfYear + 2) / 153
  let day := dayOfYear - (153 * shifted + 2) / 5 + 1
  let month := if shifted < 10 then shifted + 3 else shifted - 9
  let year := yearOfEra + era * 400
  (if month ≤ 2 then year + 1 else year, month, day)

/-- `n` in at least `width` digits. -/
def padded (width n : Nat) : String :=
  let digits := Nat.toDigits 10 n
  .ofList (List.replicate (width - digits.length) '0' ++ digits)

/-- Years outside of 0 to 9999 carry a sign. -/
def yearText (year : Int) : String :=
  if year < 0 then "-" ++ padded 4 year.natAbs
  else if 9999 < year then "+" ++ padded 4 year.natAbs
  else padded 4 year.natAbs

/-- Whole days since the beginning of 1970, rounded down. -/
def days (t : Instant) : Int := t.millis.fdiv 86400000

/-- Milliseconds since midnight. -/
def sinceMidnight (t : Instant) : Nat := (t.millis - t.days * 86400000).toNat

def dateText (t : Instant) : String :=
  let (year, month, day) := civil t.days
  s!"{yearText year}-{padded 2 month}-{padded 2 day}"

def hourText (t : Instant) : String := padded 2 (t.sinceMidnight / 3600000)

/-- Date and time of day in UTC; milliseconds are written if there are any. -/
def text (t : Instant) : String :=
  let rest := t.sinceMidnight
  let clock := s!"{t.hourText}:{padded 2 (rest / 60000 % 60)}:" ++ padded 2 (rest / 1000 % 60)
  let fraction := if rest % 1000 = 0 then "" else "." ++ padded 3 (rest % 1000)
  s!"{t.dateText}T{clock}{fraction}Z"

end Instant
end ClusterHealth
