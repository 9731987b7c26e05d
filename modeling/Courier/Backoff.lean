import Courier.Double.Basic
import Courier.Duration

/-!
The delay before a submission is repeated: the whole milliseconds of a base, plus a random number
of milliseconds below a part of it. Where their sum leaves its word, a build that checks its sums
stops, and one that does not goes on from zero. `delay?` tells the first kind and `delay` the
second, which is the kind whose runs are told here.
-/
namespace Courier.Backoff

/-- The random addition stays below this many milliseconds. -/
def jitterRange (base : Duration) (ratio : Double) : UInt64 :=
  (Double.ofNat base.wireMilliseconds.toNat * ratio.clampUnit).toWord

/-- The random addition that a random word stands for. -/
def jitter (base : Duration) (ratio : Double) (word : UInt64) : UInt64 :=
  let range := jitterRange base ratio
  if range = 0 then 0 else word % range

def lastJitter (base : Duration) (ratio : Double) : UInt64 :=
  let range := jitterRange base ratio
  if range = 0 then 0 else range - 1

/-- The delay for a random addition where sums are checked. Without one, the program stops. -/
def delay? (base : Duration) (jitter : UInt64) : Option Duration :=
  if base.wireMilliseconds.toNat + jitter.toNat < UInt64.size then
    some (.ofMilliseconds (base.wireMilliseconds + jitter))
  else none

/-- The delay for a random addition where sums are not checked and start over at zero. -/
def delay (base : Duration) (jitter : UInt64) : Duration :=
  .ofMilliseconds (base.wireMilliseconds + jitter)

/-- The shortest and the longest delay where sums are checked. There are none if some addition
stops the program. -/
def bounds? (base : Duration) (ratio : Double) : Option (Duration × Duration) :=
  (delay? base (lastJitter base ratio)).map (delay base 0, ·)

end Courier.Backoff
