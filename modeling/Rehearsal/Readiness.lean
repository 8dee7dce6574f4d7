import Rehearsal.Failure
import Rehearsal.Http.Client

/-!
# Readiness

Waiting until the application answers: a URL is fetched again and again until it answers well or
the time is up. The clock is a list of readings, one before each attempt; when it ends, the time is
up as well.
-/

namespace Rehearsal

namespace Readiness

/-- Fetches a URL until it answers well; `made` attempts were made before. -/
def poll (url : String) (timeout made : Nat) :
    List Nat → Http.Client → Except Failure Unit × Http.Client
  | [], c => (.error (.targetNotReady made), c)
  | reading :: readings, c =>
    if reading < timeout then
      match c.get url with
      | (.ok a, c) => if a.isSuccess then (.ok (), c) else poll url timeout (made + 1) readings c
      | (.error _, c) => poll url timeout (made + 1) readings c
    else (.error (.targetNotReady made), c)

/-- How many milliseconds are between two attempts. -/
def pause : Nat := 100

/-- The readings of a clock for which only the pauses take time. -/
def readings (timeout : Nat) : List Nat :=
  (List.range ((timeout + pause - 1) / pause)).map (pause * ·)

/-- Waits until a URL answers well; no cookies are kept. -/
def await (url : String) (timeout : Nat) (readings : List Nat) (network : Http.Network)
    (now : Instant) : Except Failure Unit × Http.Network :=
  let (r, c) := poll url timeout 0 readings ⟨none, network, now⟩
  (r, c.network)

end Readiness
end Rehearsal
