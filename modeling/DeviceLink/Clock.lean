import DeviceLink.Duration

namespace DeviceLink

/-!
The moments that a clock can name.  Time is counted in nanoseconds from the start of the
program, but the clock behind it counts seconds in a signed word and has been running
for a while by then, so a deadline may lie beyond its last moment.  For how long it has
been running differs from machine to machine, and is a parameter of everything that
works out deadlines.  `after?` is the only way to a deadline.  It has no result where
the addition would leave the range of the clock, and whoever works out a deadline has to
say what follows from that.
-/

structure Clock where
  /-- How long the clock has been running when the program starts. -/
  lead : Duration
  deriving DecidableEq, Repr

namespace Clock

/--
How many seconds a clock can count.  They are held in a signed word of 64 bits, while a span
of time may have twice as many.
-/
def secondsLimit : Nat := 0x7FFFFFFFFFFFFFFF

/--
The clock of a machine that was started an hour before the program.  Nothing that is proved
depends on the hour; it only makes the deadlines of a program that runs definite.
-/
def standard : Clock := ⟨.ofSeconds 3600⟩

/--
The last moment that can be named, counted from the start of the program.  The later the
program starts, the earlier this moment comes.
-/
def lastMoment (clock : Clock) : Nat :=
  (Duration.ofSeconds secondsLimit).nanoseconds - clock.lead.nanoseconds

/--
The moment after a span of time, if the clock can name it.  Otherwise there is no deadline,
and what happens then is up to whoever asked for one.
-/
def after? (clock : Clock) (now : Nat) (span : Duration) : Option Nat :=
  if now + span.nanoseconds ≤ clock.lastMoment then some (now + span.nanoseconds) else none

theorem after?_eq_some {clock : Clock} {now due : Nat} {span : Duration}
    (named : clock.after? now span = some due) : due = now + span.nanoseconds := by
  unfold after? at named
  split at named
  · exact (Option.some.inj named).symm
  · cases named

/-- However long the clock has been running, what it can name is no longer than a span of time. -/
theorem lastMoment_lt (clock : Clock) :
    clock.lastMoment < Duration.secondsLimit * Duration.nanosecondsPerSecond :=
  Nat.lt_of_le_of_lt (Nat.sub_le _ _) (by decide)

end Clock
end DeviceLink
