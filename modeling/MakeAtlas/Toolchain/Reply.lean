import MakeAtlas.Text.Utf8
import MakeAtlas.Toolchain.Mode

/-!
# Running a compiler

A toolchain is what a machine answers when its compilers are run: a reply for every command in every
folder. Nothing else is known about compilers.
-/

namespace MakeAtlas

/-- How a run of a command ends. -/
inductive Reply where
  /-- The command took too long. -/
  | timeout
  /-- There is no such command. -/
  | missing
  | finished (exit : Int) (out err : Text.Utf8.Bytes)

/-- The compilers of a machine. -/
structure Toolchain where
  isInstalled : Compiler → Bool
  /-- The reply to a compiler's question for its version. -/
  version : Compiler → Reply
  /-- The reply to a command that lists headers, run in a folder. -/
  list : (folder : String) → (command : List String) → Reply

namespace Reply

/-- The names of the signals that end a run. -/
def signals : List (Nat × String) :=
  [(1, "HUP"), (2, "INT"), (3, "QUIT"), (4, "ILL"), (5, "TRAP"), (6, "ABRT"), (7, "BUS"),
    (8, "FPE"), (9, "KILL"), (10, "USR1"), (11, "SEGV"), (12, "USR2"), (13, "PIPE"), (14, "ALRM"),
    (15, "TERM"), (16, "STKFLT"), (17, "CHLD"), (18, "CONT"), (19, "STOP"), (20, "TSTP"),
    (21, "TTIN"), (22, "TTOU"), (23, "URG"), (24, "XCPU"), (25, "XFSZ"), (26, "VTALRM"),
    (27, "PROF"), (28, "WINCH"), (29, "IO"), (30, "PWR"), (31, "SYS"), (34, "RTMIN"),
    (64, "RTMAX")]

/-- How a run with a given exit status, which is not zero, has ended. A negative status is the
number of a signal. -/
def ending (exit : Int) : String :=
  if exit < 0 then
    match signals.lookup exit.natAbs with
    | some name => "died with <Signals.SIG" ++ name ++ ": " ++ toString exit.natAbs ++ ">."
    | none => "died with unknown signal " ++ toString exit.natAbs ++ "."
  else "returned non-zero exit status " ++ toString exit ++ "."

/-- The text that a successful run has printed. -/
def output? : Reply → Option (List Char)
  | .finished 0 out _ => some (Text.unifyNewlines (Text.Utf8.decodeLossy out))
  | _ => none

end Reply

end MakeAtlas
