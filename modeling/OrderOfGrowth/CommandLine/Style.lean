import OrderOfGrowth.Text.Basic

/-! # Styles — colours and other marks for a terminal -/

namespace OrderOfGrowth.CommandLine

/-- How a text is to stand out. -/
inductive Style where
  | title
  | faint
  | italic
  | green
  | yellow
  | red
  | alarm
deriving DecidableEq

/-- The parameters that turn a style on. -/
def Style.code : Style → String
  | .title => "1;35"
  | .faint => "2"
  | .italic => "3"
  | .green => "32"
  | .yellow => "33"
  | .red => "31"
  | .alarm => "1;31"

/-- The sequence that turns a style on. -/
def Style.start (s : Style) : Text := "\x1b[".toList ++ s.code.toList ++ ['m']

/-- The sequence that turns all styles off. -/
def reset : Text := "\x1b[0m".toList

/-- The text with `start` behind every sequence in it that turns all styles off. -/
def restart (start : Text) : Text → Text
  | '\x1b' :: '[' :: '0' :: 'm' :: rest => reset ++ start ++ restart start rest
  | c :: rest => c :: restart start rest
  | [] => []

/-- The text in a style, to its end even if it turns styles off itself; without colour it stays as it
    is. -/
def Style.paint (s : Style) (color : Bool) (t : Text) : Text :=
  if color then s.start ++ restart s.start t ++ reset else t

end OrderOfGrowth.CommandLine
