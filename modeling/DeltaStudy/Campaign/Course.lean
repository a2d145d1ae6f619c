import DeltaStudy.Campaign.Sweep

/-!
# Courses of a sweep

What a sweep may do to its surroundings when a pool works through its runs, and
what may come of it. A course holds the acts in their order; the order in which
runs end is not an act, so it shows in the outcomes alone.

`Course` is a monad, so `sweepThrough` is the same definition here as on a
machine. Events are not taken notice of.
-/

namespace DeltaStudy.Campaign

/-- What a sweep does to its surroundings. -/
inductive Act where
  /-- The directory is asked for. -/
  | makeDirectory (directory : Path)
  /-- The launcher is called for a run. -/
  | launch (run : Run)
deriving DecidableEq

/-- Which acts may happen, in which order, and which result they may lead to. -/
def Course (α : Type) : Type :=
  List Act → α → Prop

namespace Course

/-- Nothing happens before a value is returned; one course after another is their
acts one after the other. -/
instance : Monad Course where
  pure value := fun acts result => acts = [] ∧ result = value
  bind course next := fun acts result => ∃ earlier value later,
    course earlier value ∧ next value later result ∧ acts = earlier ++ later

/-- Ask a store for a directory. -/
def makeDirectory (store : Path → Except Failure Unit) (directory : Path) :
    Course (Except Failure Unit) :=
  fun acts result => acts = [.makeDirectory directory] ∧ result = store directory

/-- Work through runs with a pool, in any order that it allows. -/
def dispatch (workers : Nat) (answer : Job → Reply) (runs : List Run) :
    Course (List Outcome) :=
  fun acts outcomes => ∃ moves final,
    Pool.Steps (Pool.capacity workers runs.length) answer (.initial runs) moves final
      ∧ final.finished
      ∧ acts = (Pool.started moves).map (fun job => .launch job.run)
      ∧ outcomes = final.sent

/-- Carry out a campaign with a pool of as many workers as it asks for. -/
def sweep (store : Path → Except Failure Unit) (answer : Job → Reply) (request : Request)
    (table : ProtocolTable) : Course (Except Failure Sweep) :=
  sweepThrough (makeDirectory store) (fun _ => pure ()) (dispatch request.workers answer)
    request table

end Course

end DeltaStudy.Campaign
