import Promptline.Markup.Render
import Promptline.Proofs.Markup.Legible

/-! What is shown of a text that nobody has escaped.  It is shown as it is if it is literal: no
bracket starts a tag, and no backslash stands directly before a bracket.  Otherwise a part of it is
lost, or a tag in it may keep the whole from being shown. -/

namespace Promptline.Markup

variable {c : Char} {r s : List Char} {offset : Nat} {inside : Option (Nat × List Char)}

end Promptline.Markup
