import Tabletop.Session

/-!
# What a session writes

A session writes every report as the step that gives it is taken. After all steps it has written
what the run says, and its count is the number of reports (`foldl_take`). Nothing is logged unless
the session is verbose, and then there is one line for every step and one for the run
(`ofSteps_eq`).
-/

namespace Tabletop

open Board

namespace Session

theorem take_eq (verbose : Bool) (stamp : Text) (session : Session) (step : Step Text) :
    take verbose stamp session step =
      { output := session.output ++ Text.unlines step.report.toList
        logged := session.logged ++ Log.written verbose (Log.ofStep stamp step)
        reports := session.reports + step.report.toList.length } := by
  unfold take
  cases step.report <;> simp

/-- A session that goes on writes the reports of the further steps behind what it has written. -/
theorem foldl_take (verbose : Bool) (stamp : Text) (session : Session) (steps : List (Step Text)) :
    steps.foldl (take verbose stamp) session =
      { output := session.output ++ Text.unlines (reportsOf steps)
        logged := session.logged ++
          steps.flatMap fun step => Log.written verbose (Log.ofStep stamp step)
        reports := session.reports + (reportsOf steps).length } := by
  induction steps generalizing session with
  | nil => simp
  | cons step steps ih =>
    rw [List.foldl_cons, ih, take_eq, reportsOf_cons]
    simp [Nat.add_assoc]

theorem ofSteps_eq (verbose : Bool) (stamp : Text) (steps : List (Step Text)) :
    ofSteps verbose stamp steps =
      { output := Text.unlines (reportsOf steps)
        logged := (steps.flatMap fun step => Log.written verbose (Log.ofStep stamp step)) ++
          Log.written verbose (Log.ofRun stamp steps.length (steps.countP (!·.accepted))
            (reportsOf steps).length)
        reports := (reportsOf steps).length } := by
  rw [ofSteps, foldl_take, close]
  simp

theorem output_ofSteps (verbose : Bool) (stamp : Text) (steps : List (Step Text)) :
    (ofSteps verbose stamp steps).output = Text.unlines (reportsOf steps) := by
  rw [ofSteps_eq]

/-- A verbose session logs one line for every step, and then one for all of them. -/
theorem logged_ofSteps_verbose (stamp : Text) (steps : List (Step Text)) :
    (ofSteps true stamp steps).logged = Text.unlines (steps.map (Log.ofStep stamp) ++
      [Log.ofRun stamp steps.length (steps.countP (!·.accepted)) (reportsOf steps).length]) := by
  rw [ofSteps_eq, Text.unlines_append, Text.unlines_cons, Text.unlines_nil]
  simp only [Log.written, if_true, Text.unlines, List.flatMap_map]

theorem logged_ofSteps_quiet (stamp : Text) (steps : List (Step Text)) :
    (ofSteps false stamp steps).logged = [] := by
  rw [ofSteps_eq]
  simp [Log.written]

end Session

end Tabletop
