import MakeAtlas.CommandLine.Run

/-!
# Showing answers

The lines in which the answer to a request is shown.
-/

namespace MakeAtlas.CommandLine

/-- What is said first of cycles that were found. -/
def detectedLine (found : List (List String)) : Option String :=
  if found.isEmpty then none
  else some ("Detected " ++ toString found.length ++ " cycle(s) in project graph")

/-- A cycle as a closed loop. -/
def cycleLine (number : Nat) (cycle : List String) : String :=
  "Cycle " ++ toString number ++ ": " ++ String.intercalate " -> " (cycle ++ cycle.take 1)

/-- A step of a cycle with the file that shows it. -/
def stepLine (step : CycleStep) : String :=
  "    - " ++ step.source ++ " -> " ++ step.target ++ " (evidence: " ++ step.evidence ++ ")"

/-- Cycles, each with its steps below it. -/
def cycleLines (number : Nat) : List (List CycleStep) → List String
  | [] => []
  | steps :: rest =>
    cycleLine number (steps.map CycleStep.source) :: steps.map stepLine ++
      cycleLines (number + 1) rest

/-- The lines of what is shown. -/
def Shown.lines : Shown → List String
  | .nothing => []
  | .document v => [Json.render v]
  | .table rows last => (tableHead :: rows).map (String.intercalate " | ") ++ [last]
  | .cycles found =>
    (detectedLine (found.map fun steps => steps.map CycleStep.source)).toList ++ cycleLines 1 found

end MakeAtlas.CommandLine
