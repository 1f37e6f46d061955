import Promptline.Proofs.Console.Templates
import Promptline.Proofs.Shell.Reports
import Promptline.Proofs.Text.Lowering
import Promptline.Proofs.Text.Words

/-! What ends the loop.  A line ends it if it is `.quit`, or if an error comes out of what it asks for.
The end of the input does so too, and a read that fails.  Nothing else does: an answer and a report
can be printed, whatever they repeat. -/

namespace Promptline.Console

open Promptline.Text

end Promptline.Console

namespace Promptline.Shell

open Promptline.Console Promptline.Markup Promptline.Store

variable {s : Shell} {text line : String} {d : Deed}

/-- Why a deed cannot be shown, if so. -/
def Deed.fault? (width : Nat) (d : Deed) : Option Markup.Fault :=
  match d.output width with
  | .ok _ => none
  | .error f => some f

namespace Phased

variable {p : Phased} {i : Incident}

end Phased

end Promptline.Shell
