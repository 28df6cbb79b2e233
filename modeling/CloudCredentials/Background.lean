import CloudCredentials.Provider.Source

/-!
# Background renewal

The task that renews keys ahead of time (`_refresh_loop`). It waits, asks its provider, and starts
again until it is told to stop. A failure of the provider is recorded and does not end the task.
-/

namespace CloudCredentials

namespace Background

variable {σ : Type}

/-- Ask once; a failure of the provider becomes a record. -/
def tick (ask : σ → World → Except Failure Credentials × σ × World) (p : σ) (w : World) :
    Except Failure Unit × σ × World :=
  match ask p w with
  | (.ok _, p, w) => (.ok (), p, w)
  | (.error failure, p, w) =>
    if failure.isCredentials then
      (.ok (), p, w.record .warning .providers
        ("Background refresh of STS credentials failed: " ++ failure.message))
    else (.error failure, p, w)

/-- Run the task for a number of rounds; each wait takes `pause` microseconds. The answer is the
number of waits, of which the last one ends the task. -/
def run (ask : σ → World → Except Failure Credentials × σ × World) (pause : Int) :
    Nat → σ → World → Except Failure Nat × σ × World
  | 0, p, w => (.ok 1, p, w.advance pause)
  | rounds + 1, p, w =>
    match tick ask p (w.advance pause) with
    | (.error failure, p, w) => (.error failure, p, w)
    | (.ok (), p, w) =>
      let (waits, p, w) := run ask pause rounds p w
      (waits.map (· + 1), p, w)

end Background

end CloudCredentials
