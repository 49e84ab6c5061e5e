import Tabletop.Log

/-!
# Sessions

A session takes the steps of a run one after the other. It logs every step if it is verbose, and
writes and counts what the robot says. Once all steps have been taken, a verbose session logs the
whole run.
-/

namespace Tabletop

/-- What a session has written so far, and how many reports it has written. -/
structure Session where
  output : Text := []
  logged : Text := []
  reports : Nat := 0
  deriving DecidableEq, Repr

namespace Session

/-- The session after one more step. -/
def take (verbose : Bool) (stamp : Text) (session : Session) (step : Step Text) : Session :=
  let logged := session.logged ++ Log.written verbose (Log.ofStep stamp step)
  match step.report with
  | some report => ⟨session.output ++ (report ++ ['\n']), logged, session.reports + 1⟩
  | none => { session with logged }

/-- The session after all steps of a run. -/
def close (verbose : Bool) (stamp : Text) (steps : List (Step Text)) (session : Session) :
    Session :=
  { session with
    logged := session.logged ++ Log.written verbose
      (Log.ofRun stamp steps.length (steps.countP (!·.accepted)) session.reports) }

/-- A whole session. -/
def ofSteps (verbose : Bool) (stamp : Text) (steps : List (Step Text)) : Session :=
  close verbose stamp steps (steps.foldl (take verbose stamp) {})

end Session

end Tabletop
