import TokenSeal.Text.Blank
import TokenSeal.Text.Width

/-!
# Text on a terminal of fixed width

Messages are set in lines of at most 80 columns. A line breaks before the first word that does not
fit; a word that is wider than a whole line starts a line of its own and is cut where the line is
full. A table has a title over it, a heavy frame around its head and a light frame around its rows.
-/

namespace TokenSeal.Screen

/-- The columns of the terminal. -/
def columns : Nat := 80

/-- The columns that a character takes. -/
def width (c : Char) : Nat := (CodePoint.ofChar c).width

/-- The columns that a line takes. -/
def lineWidth (s : List Char) : Nat := s.foldl (fun n c => n + width c) 0

/-- Whether a character is white space. -/
def isBlank (c : Char) : Bool := (CodePoint.ofChar c).isBlank

/-- A text without the blanks at its end. -/
def trimEnd (s : List Char) : List Char := (s.reverse.dropWhile isBlank).reverse

/-! ### Breaking lines -/

/-- The words of a text, each with the blanks after it; the first has the blanks before it too. -/
def words : List Char → List (List Char)
  | [] => []
  | c :: r =>
    match words r with
    | [] => [[c]]
    | w :: ws =>
      match isBlank c, w.takeWhile isBlank, w.dropWhile isBlank with
      | false, b :: blanks, d :: rest => (c :: b :: blanks) :: (d :: rest) :: ws
      | _, _, _ => (c :: w) :: ws

/-- A word in pieces that fill a line each, the last one as far as it goes. `line` is the piece so
far. -/
def cut (line : List Char) : List Char → List (List Char)
  | [] => [line]
  | c :: r =>
    if lineWidth line + width c ≤ columns then cut (line ++ [c]) r
    else line :: cut [c] r

/-- The lines that words fill, where `line` is the line so far. -/
def fill (line : List Char) : List (List Char) → List (List Char)
  | [] => [line]
  | w :: ws =>
    if lineWidth line + lineWidth (trimEnd w) ≤ columns then fill (line ++ w) ws
    else if lineWidth (trimEnd w) ≤ columns then line :: fill w ws
    else
      let pieces := cut [] w
      (if line.isEmpty then [] else [line]) ++ pieces.dropLast ++ fill (pieces.getLastD []) ws

/-- A line from its end, without the blanks at its end that lie beyond the last column. -/
def dropExcess : List Char → List Char
  | [] => []
  | c :: r => if isBlank c && columns < lineWidth (c :: r) then dropExcess r else c :: r

/-- A text of one paragraph in lines, each with its newline. -/
def paragraph (s : String) : String :=
  String.join ((fill [] (words s.toList)).map fun line =>
    String.ofList ((dropExcess line.reverse).reverse ++ ['\n']))

/-! ### Tables -/

/-- A string `n` times. -/
def times (n : Nat) (s : String) : String := String.join (List.replicate n s)

/-- A string on the left of `n` columns. -/
def leftIn (n : Nat) (s : String) : String := s ++ times (n - s.length) " "

/-- A string in the middle of `n` columns. -/
def centeredIn (n : Nat) (s : String) : String :=
  let before := (n - s.length) / 2
  times before " " ++ s ++ times (n - s.length - before) " "

/-- A line of a frame: its left end, what fills each column, what stands between columns, its right
end. -/
def frameLine (widths : List Nat) (left fill between right : String) : String :=
  left ++ between.intercalate (widths.map fun w => times (w + 2) fill) ++ right ++ "\n"

/-- A line of cells between bars. -/
def cellLine (widths : List Nat) (bar : String) (cells : List String) : String :=
  bar ++ bar.intercalate ((widths.zip cells).map fun c => " " ++ leftIn c.1 c.2 ++ " ") ++ bar ++
    "\n"

/-- The greatest length in each column. -/
def columnWidths (rows : List (List String)) : List Nat → List Nat :=
  rows.foldl fun widths row => (widths.zip row).map fun c => max c.1 c.2.length

/-- A table of ASCII cells under a title. -/
def table (title : String) (head : List String) (rows : List (List String)) : String :=
  let widths := columnWidths (head :: rows) (head.map fun _ => 0)
  let total := widths.foldl (fun n w => n + (w + 3)) 1
  centeredIn total title ++ "\n" ++
    frameLine widths "┏" "━" "┳" "┓" ++ cellLine widths "┃" head ++
    frameLine widths "┡" "━" "╇" "┩" ++ String.join (rows.map (cellLine widths "│")) ++
    frameLine widths "└" "─" "┴" "┘"

end TokenSeal.Screen
