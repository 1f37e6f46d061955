import Promptline.Console.Highlight
import Promptline.Markup.Render
import Promptline.Text.Wrap

/-! Printing on the console: marked-up text is rendered and laid out on lines of the console's
width. The styles of its spans must be readable. -/

namespace Promptline.Console

open Promptline Promptline.Text

/-- The width of the console for help and for messages of the command line. -/
def helpWidth : Nat := 80

/-- Reads the styles of the spans in lines. -/
def checkStyles (ls : List SpannedText) : Except Markup.Fault Unit :=
  (ls.flatMap SpannedText.spans).forM fun s =>
    (Markup.StyleName.read s.style.toList).map fun _ => ()

/-- Rendered text as it appears at `width`. -/
def layOut (width : Nat) (t : SpannedText) : Except Markup.Fault String :=
  let ls := wrapText width t
  (checkStyles ls).map fun _ => String.ofList (unlines (ls.map (drawLine width)))

/-- What printing `markup` writes without highlighting anything. -/
def printPlain (width : Nat) (markup : String) : Except Markup.Fault String :=
  (Markup.render markup.toList).bind (layOut width)

/-- What printing `markup` writes. -/
def print (width : Nat) (markup : String) : Except Markup.Fault String :=
  (Markup.render markup.toList).bind fun t => layOut width (highlighted t)

end Promptline.Console
