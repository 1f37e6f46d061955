import Promptline.Console.Command
import Promptline.Proofs.Console.Printing
import Promptline.Proofs.History.Opening

/-! A dot-command is broken off in two cases only.  The help repeats an unknown topic as marked-up
text, and a tag in the topic may be in the way.  A database that has come to the end of its numbers
refuses to be read, and this is no error of the store. -/

namespace Promptline.Console

open Promptline.History Promptline.Markup Promptline.Store

variable {topic line : String} {b : Bench} {fault : CommandFault}

end Promptline.Console
