/-
The state that the pages of one build share: the platform that starts active, and the number of
container ids drawn so far.
-/
import DocTabs.Tabs.Vocabulary

namespace DocTabs.Page

open Tabs

/-- State of one build. -/
structure Session where
  preferred : String := defaultPlatform
  /-- How many ids were drawn. A counter of 64 bits has this value as long as fewer than `2 ^ 64` ids are
  drawn, and no build holds that many containers. -/
  drawn : Nat := 0
  deriving DecidableEq, Repr

namespace Session

/-- The next id of a kind. All kinds share one counter, which starts at 1. -/
def draw (kind : Kind) (s : Session) : String × Session :=
  (kind.idStem ++ "-" ++ toString (s.drawn + 1), { s with drawn := s.drawn + 1 })

/-- The session with its ids starting over. -/
def reset (s : Session) : Session :=
  { s with drawn := 0 }

end Session

end DocTabs.Page
