import CanDriver.Cli.Spec
import CanDriver.Config.Application
import CanDriver.Failure

namespace CanDriver.Cli

/-!
# Reports of failed commands

* `Report` — what failed, and what is behind it, outermost first;
* `Report.text` — how it is printed: causes are numbered when there are several.
-/

/-- A failure as it is shown: the outermost message, and the causes behind it. -/
structure Report where
  message : String
  causes  : List String
  deriving DecidableEq, Repr

namespace Report

/-- A failure of the library, with the error of the system as its cause if there is one. -/
def ofFailure (f : Failure) : Report := ⟨f.message, f.cause?.toList⟩

/-- A frame or a filter that cannot be read, with the fault of a number inside as its cause. -/
def ofSpecFault (f : SpecFault) : Report := ⟨f.message, f.cause?.toList⟩

/-- A configuration file that cannot be read. -/
def ofLoadFault (f : LoadFault) : Report := ⟨f.message, f.cause?.toList⟩

/-- Puts `context` in front; the message of `r` becomes its first cause. -/
def within (context : String) (r : Report) : Report := ⟨context, r.message :: r.causes⟩

/-- One of several causes, its number right-aligned in five columns. -/
def numbered (n : Nat) (cause : String) : String :=
  let digits := Numeral.decimal n
  String.ofList (List.replicate (5 - digits.length) ' ' ++ digits) ++ ": " ++ cause ++ "\n"

/-- Nothing without causes; a single cause has no number. -/
def causesText : List String → String
  | []      => ""
  | [cause] => "\nCaused by:\n    " ++ cause ++ "\n"
  | causes  => "\nCaused by:\n" ++ String.join (causes.zipIdx.map fun (c, n) => numbered n c)

/-- The message and `causesText`, as they go to standard error. -/
def text (r : Report) : String := "Error: " ++ r.message ++ "\n" ++ causesText r.causes

end Report

end CanDriver.Cli
