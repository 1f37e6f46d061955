/-! The names of the colours that a console style may have. -/

namespace Promptline.Markup

/-- The names of colours, each with the numbers of its shades; an empty number is the name alone. -/
def shades : List (String × List String) :=
  [("aquamarine", ["1", "3"]), ("black", [""]), ("blue", ["", "1", "3"]), ("blue_violet", [""]),
   ("bright_black", [""]), ("bright_blue", [""]), ("bright_cyan", [""]), ("bright_green", [""]),
   ("bright_magenta", [""]), ("bright_red", [""]), ("bright_white", [""]), ("bright_yellow", [""]),
   ("cadet_blue", [""]), ("chartreuse", ["1", "2", "3", "4"]), ("cornflower_blue", [""]),
   ("cornsilk", ["1"]), ("cyan", ["", "1", "2", "3"]), ("dark_blue", [""]), ("dark_cyan", [""]),
   ("dark_goldenrod", [""]), ("dark_green", [""]), ("dark_khaki", [""]), ("dark_magenta", [""]),
   ("dark_olive_green", ["1", "2", "3"]), ("dark_orange", ["", "3"]), ("dark_red", [""]),
   ("dark_sea_green", ["", "1", "2", "3", "4"]), ("dark_slate_gray", ["1", "2", "3"]),
   ("dark_turquoise", [""]), ("dark_violet", [""]), ("deep_pink", ["1", "2", "3", "4"]),
   ("deep_sky_blue", ["1", "2", "3", "4"]), ("default", [""]), ("dodger_blue", ["1", "2", "3"]),
   ("gold", ["1", "3"]),
   ("gray", ["0", "3", "7", "11", "15", "19", "23", "27", "30", "35", "37", "39", "42", "46", "50",
     "53", "54", "58", "62", "63", "66", "69", "70", "74", "78", "82", "84", "85", "89", "93",
     "100"]), ("green", ["", "1", "3", "4"]), ("green_yellow", [""]),
   ("grey", ["0", "3", "7", "11", "15", "19", "23", "27", "30", "35", "37", "39", "42", "46", "50",
     "53", "54", "58", "62", "63", "66", "69", "70", "74", "78", "82", "84", "85", "89", "93",
     "100"]), ("honeydew", ["2"]), ("hot_pink", ["", "2", "3"]), ("indian_red", ["", "1"]),
   ("khaki", ["1", "3"]), ("light_coral", [""]), ("light_cyan", ["1", "3"]),
   ("light_goldenrod", ["1", "2", "3"]), ("light_green", [""]), ("light_pink", ["1", "3", "4"]),
   ("light_salmon", ["1", "3"]), ("light_sea_green", [""]), ("light_sky_blue", ["1", "3"]),
   ("light_slate_blue", [""]), ("light_slate_gray", [""]), ("light_slate_grey", [""]),
   ("light_steel_blue", ["", "1", "3"]), ("light_yellow", ["3"]), ("magenta", ["", "1", "2", "3"]),
   ("medium_orchid", ["", "1", "3"]), ("medium_purple", ["", "1", "2", "3", "4"]),
   ("medium_spring_green", [""]), ("medium_turquoise", [""]), ("medium_violet_red", [""]),
   ("misty_rose", ["1", "3"]), ("navajo_white", ["1", "3"]), ("navy_blue", [""]),
   ("orange", ["1", "3", "4"]), ("orange_red", ["1"]), ("orchid", ["", "1", "2"]),
   ("pale_green", ["1", "3"]), ("pale_turquoise", ["1", "4"]), ("pale_violet_red", ["1"]),
   ("pink", ["1", "3"]), ("plum", ["1", "2", "3", "4"]), ("purple", ["", "3", "4"]),
   ("red", ["", "1", "3"]), ("rosy_brown", [""]), ("royal_blue", ["1"]), ("salmon", ["1"]),
   ("sandy_brown", [""]), ("sea_green", ["1", "2", "3"]), ("sky_blue", ["1", "2", "3"]),
   ("slate_blue", ["1", "3"]), ("spring_green", ["1", "2", "3", "4"]),
   ("steel_blue", ["", "1", "3"]), ("tan", [""]), ("thistle", ["1", "3"]),
   ("turquoise", ["2", "4"]), ("violet", [""]), ("wheat", ["1", "4"]), ("white", [""]),
   ("yellow", ["", "1", "2", "3", "4"])]

/-- `word` names a colour. -/
def isColourName (word : String) : Bool :=
  shades.any fun (name, numbers) => numbers.any fun number => word = name ++ number

end Promptline.Markup
