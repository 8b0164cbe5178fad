import DruidQuery.Time.Civil

namespace DruidQuery.Time

def nanosPerSecond : Int := 1000000000

/-- An instant and the offset, in seconds east of UTC, of the clock that shows it. The instant is
a count of seconds and the nanoseconds, less than a second, past them. -/
structure Moment where
  seconds : Int
  nanos : Fin 1000000000
  offset : Int
deriving DecidableEq, Repr, Inhabited

structure Civil where
  year : Int
  month : Nat
  day : Nat
  hour : Nat
  minute : Nat
  second : Nat
deriving DecidableEq, Repr

def Civil.toSeconds (c : Civil) : Int :=
  daysFromCivil c.year c.month c.day * 86400 + (c.hour * 3600 + c.minute * 60 + c.second : Nat)

namespace Moment

def ofCivil (c : Civil) (nanos : Fin 1000000000) (offset : Int) : Moment :=
  { seconds := c.toSeconds - offset, nanos, offset }

def civil (m : Moment) : Civil :=
  let shown := m.seconds + m.offset
  let days := Int.fdiv shown 86400
  let secs := (Int.fmod shown 86400).toNat
  let (year, month, day) := civilFromDays days
  { year, month, day, hour := secs / 3600, minute := secs % 3600 / 60, second := secs % 60 }

def totalNanos (m : Moment) : Int := m.seconds * nanosPerSecond + (m.nanos.val : Int)

theorem fmod_nanosPerSecond_lt (total : Int) : (Int.fmod total nanosPerSecond).toNat < 1000000000 := by
  have hlt := Int.fmod_lt_of_pos total (show (0 : Int) < nanosPerSecond by decide)
  have hnonneg := Int.fmod_nonneg_of_pos total (show (0 : Int) < nanosPerSecond by decide)
  unfold nanosPerSecond at hlt hnonneg ⊢
  omega

def ofNanos (total : Int) (offset : Int) : Moment :=
  { seconds := Int.fdiv total nanosPerSecond,
    nanos := ⟨(Int.fmod total nanosPerSecond).toNat, fmod_nanosPerSecond_lt total⟩, offset }

def add (m : Moment) (nanos : Int) : Moment := ofNanos (m.totalNanos + nanos) m.offset

def toUtc (m : Moment) : Moment := { m with offset := 0 }

def epochFromYearOne : Int := 62135596800

def truncate (m : Moment) (duration : Int) : Moment :=
  if duration ≤ 0 then m
  else
    let sinceYearOne := m.totalNanos + epochFromYearOne * nanosPerSecond
    m.add (-(Int.fmod sinceYearOne duration))

def align (m : Moment) (duration : Int) (roundUp : Bool) : Moment :=
  let t := m.truncate duration
  if roundUp && t.totalNanos ≠ m.totalNanos then t.add duration else t

def startOfDay (m : Moment) : Moment := (m.toUtc).align (86400 * nanosPerSecond) false

end Moment

end DruidQuery.Time
