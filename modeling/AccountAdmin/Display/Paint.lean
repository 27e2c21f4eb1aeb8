/-!
# Coloured text

On a terminal a text is put between two escape sequences, of which the first sets its colour and
weight and the second resets both.  A reset inside of the text is followed by the first sequence
once more, so that the rest of the text keeps its looks.
-/

namespace AccountAdmin

/-- The looks of a text. -/
inductive Paint where
  | bold
  | dimmed
  | red
  | green
  | blue
  | cyan
  | boldRed
  | boldYellow
  deriving DecidableEq, Repr

namespace Paint

/-- The parameters of the escape sequence. -/
def parameters : Paint → String
  | bold => "1"
  | dimmed => "2"
  | red => "31"
  | green => "32"
  | blue => "34"
  | cyan => "36"
  | boldRed => "1;31"
  | boldYellow => "1;33"

/-- The escape sequence with given parameters. -/
def sequence (parameters : String) : List Char := '\x1b' :: '[' :: (parameters.toList ++ ['m'])

/-- A text with a sequence put behind every reset in it. -/
def renew (start : List Char) : List Char → List Char
  | '\x1b' :: '[' :: '0' :: 'm' :: rest => sequence "0" ++ start ++ renew start rest
  | c :: rest => c :: renew start rest
  | [] => []

/-- A text as it is printed, with or without colours. -/
def apply (paint : Paint) (colours : Bool) (s : String) : String :=
  if colours then
    let start := sequence paint.parameters
    String.ofList (start ++ renew start s.toList ++ sequence "0")
  else s

@[simp] theorem apply_false (paint : Paint) (s : String) : paint.apply false s = s := rfl

end Paint

end AccountAdmin
