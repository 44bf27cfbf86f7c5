import FleetDeploy.Text.Decimal

/-!
# How long a wait can be

Waits are configured in numbers of 64 bits, which reach further than a clock and a timer do:

* `Clock.sleepTime` – how long a sleep takes: the timer ends every sleep after thirty years;
* `Clock.limitTime` – the time after which a limit given in seconds strikes: it has to be a time
  that the clock can show, which counts seconds in 63 bits.

These are two rules and not one, since the clock could show the end of any sleep that can be
configured, and a limit of more than thirty years strikes when it is due if the clock can show that.
Up to thirty years both are what was asked for, so that only a configuration that waits for ever in
all but name sees a difference.
-/

namespace FleetDeploy.Clock

/-- Thirty years of 365 days, in milliseconds. -/
def thirtyYears : Nat := 30 * 365 * 24 * 60 * 60 * 1000

/-- How long a sleep takes that is meant to take `ms` milliseconds. The cap is what the timer is
seen to do, not what the clock compels it to: a unit that sleeps for `10 ^ 12` milliseconds, which
is less than thirty-two years, reports after 946080000000, and a monitor with this interval asks
again at that time and at twice that time. -/
def sleepTime (ms : Nat) : Nat := min ms thirtyYears

/-- The time in milliseconds after which a limit of some seconds strikes. A limit that the clock
cannot show, which has been running for a while already, strikes after thirty years. -/
def limitTime (seconds : Nat) : Nat :=
  if seconds + 1 < Text.signedLimit then seconds * 1000 else thirtyYears

theorem sleepTime_of_le {ms : Nat} (h : ms ≤ thirtyYears) : sleepTime ms = ms :=
  Nat.min_eq_left h

example : sleepTime (10 ^ 12) = 946080000000 ∧ limitTime (10 ^ 10) = 10 ^ 13 := by decide

end FleetDeploy.Clock
