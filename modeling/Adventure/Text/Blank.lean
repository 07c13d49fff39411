/-!
# Blank characters

The characters with the Unicode property `White_Space`, and trimming and splitting
of text around them.
-/

set_option autoImplicit false

namespace Adventure.Text

/-- The characters with the property `White_Space`. -/
def isBlank (c : Char) : Bool :=
  let n := c.toNat
  (0x09 ≤ n && n ≤ 0x0D) || n == 0x20 || n == 0x85 || n == 0xA0 || n == 0x1680 ||
    (0x2000 ≤ n && n ≤ 0x200A) || n == 0x2028 || n == 0x2029 || n == 0x202F || n == 0x205F ||
    n == 0x3000

/-- Removes blanks from both ends. -/
def trim (text : List Char) : List Char :=
  ((text.dropWhile isBlank).reverse.dropWhile isBlank).reverse

/-- Splits a text at every character that satisfies a test.  The characters of the current
piece and the pieces before it are kept last first. -/
def splitAt (test : Char → Bool) :
    List Char → List Char → List (List Char) → List (List Char)
  | [], piece, before => (piece.reverse :: before).reverse
  | c :: rest, piece, before =>
    if test c then splitAt test rest [] (piece.reverse :: before)
    else splitAt test rest (c :: piece) before

/-- The pieces of a text between the characters that satisfy a test; they may be empty. -/
def pieces (test : Char → Bool) (text : List Char) : List (List Char) := splitAt test text [] []

/-- Removes one carriage return from the end. -/
def dropReturn (line : List Char) : List Char :=
  match line.reverse with
  | '\r' :: front => front.reverse
  | _ => line

/-- The lines of a text.  A line ends at a line feed, which may follow a carriage return;
a text that ends in a line feed has no empty line after it. -/
def lines (text : List Char) : List (List Char) :=
  let all := pieces (· == '\n') text
  let closed := all.dropLast.map dropReturn
  match all.getLast? with
  | some [] => closed
  | some last => closed ++ [last]
  | none => closed

end Adventure.Text
