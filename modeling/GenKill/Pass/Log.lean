import GenKill.Log
import GenKill.Pass

/-!
# What passes log
-/

namespace GenKill

/-- The entry about a visit of a node. -/
def Event.entry : Event → Log.Entry
  | .met node neighbors meet =>
      { level := .debug
        fields := [("node", .text node), ("neighbors", .number neighbors),
          ("meet", .text meet.text)]
        message := "computed meet" }
  | .updated node old new =>
      { level := .debug
        fields :=
          [("node", .text node), ("old", .text old.text),
           ("new", .text new.text)]
        message := "updated out set" }

/-- The entry about a run that has settled. -/
def System.settledEntry (direction : Direction) (passes : Nat) : Log.Entry where
  level := .debug
  fields := [("direction", .text direction.text), ("passes", .number passes)]
  message := "reached fixed point"

/-- The entries about a run. -/
def System.Run.entries (direction : Direction) (run : System.Run) :
    List Log.Entry :=
  run.events.map Event.entry ++
    (if run.settled then [System.settledEntry direction run.passes] else [])

end GenKill
