import Homelab.Console.CellWidth
import Homelab.Double
import Homelab.Text.Lines

/-!
# Text and tables on a console

Text that comes from elsewhere is shown as it is, but for what a console cannot show:
control characters that move the cursor are left out, and a tab fills up to the next
of the tab stops.  The console reads names in brackets as styles; a text is written so
that they are not taken for that, at the price of a backslash in front of a bracket
that begins no style, and of a second one behind a single one at the end.

A table has a title in its middle, a row of headings and rows of cells.  Each column is
as wide as the widest line of its cells; if they do not fit side by side the widest
columns become narrower.  A line that does not fit goes on in the next one after one of
its words, and a word that does not fit ends with a sign for what is missing.
-/

namespace Homelab
namespace Console

/-- The control characters that are left out. -/
def isDropped (c : Char) : Bool := [0x07, 0x08, 0x0b, 0x0c, 0x0d].contains c.toNat

/-- A character that the name of a style may begin with. -/
def beginsStyle (c : Char) : Bool :=
  ('a' ≤ c && c ≤ 'z') || c = '#' || c = '/' || c = '@'

/-- The text after an opening bracket reads as a style. -/
def isStyle (cs : List Char) : Bool :=
  match cs with
  | c :: rest => beginsStyle c && (rest.dropWhile fun d => d ≠ '[' && d ≠ ']').head? = some ']'
  | [] => false

/-- A text without the backslashes in front of brackets that begin no style. -/
def bracketed : List Char → List Char
  | '\\' :: '[' :: rest =>
      if isStyle rest then '\\' :: '[' :: bracketed rest else '[' :: bracketed rest
  | c :: rest => c :: bracketed rest
  | [] => []

/-- The backslash that is added to a text that ends with a single one. -/
def tail (cs : List Char) : List Char :=
  match cs.reverse with
  | '\\' :: '\\' :: _ => []
  | '\\' :: _ => ['\\']
  | _ => []

/-- A text as it is shown, with its tabs. -/
def visible (cs : List Char) : List Char :=
  (bracketed (cs ++ tail cs)).filter fun c => !isDropped c

/-- The distance of the tab stops. -/
def tabWidth : Nat := 8

/-- The parts of a line between its tabs, filled up from a column on; a tab is one blank
at least. -/
def fillParts (column : Nat) : List (List Char) → List Char
  | [] => []
  | [part] => part
  | part :: rest =>
      let after := column + width (part ++ [' '])
      let more := (tabWidth - after % tabWidth) % tabWidth
      part ++ ' ' :: List.replicate more ' ' ++ fillParts (after + more) rest

/-- The lines of a text with their tabs filled up. -/
def shownLines (cs : List Char) : List (List Char) :=
  (Text.fields '\n' cs).map fun line => fillParts 0 (Text.fields '\t' line)

/-- A message with a text from elsewhere at its end, as it is shown. -/
def message (lead text : String) : String :=
  String.ofList (['\n'].intercalate (shownLines (lead.toList ++ visible text.toList)) ++ ['\n'])

/-! ### Tables -/

/-- The words of a line, each with the blanks after it, and the first with those before
it; `word` is what has been read of one, backwards, and `begun` that it is not blank. -/
def wordsFrom (word : List Char) (begun : Bool) : List Char → List (List Char)
  | [] => [word.reverse]
  | c :: rest =>
      if Text.isBlank c then wordsFrom (c :: word) begun rest
      else if begun && word.head?.any Text.isBlank then
        word.reverse :: wordsFrom [c] true rest
      else wordsFrom (c :: word) true rest

/-- A text without the blanks at its end. -/
def unended (cs : List Char) : List Char := (cs.reverse.dropWhile Text.isBlank).reverse

/-- Words in lines of no more than so many columns, if they fit, behind the line begun
and the columns of its words. -/
def wrapWords (columns : Nat) (line : List Char) (taken : Nat) :
    List (List Char) → List (List Char)
  | [] => [line]
  | word :: rest =>
      if line.isEmpty || taken + width (unended word) ≤ columns then
        wrapWords columns (line ++ word) (taken + width word) rest
      else line :: wrapWords columns word (width word) rest

/-- A line without those of its blanks at the end that are too many. -/
def trimmed (columns : Nat) (cs : List Char) : List Char :=
  let blanks := (cs.reverse.takeWhile Text.isBlank).length
  cs.take (cs.length - min blanks (cs.length - columns))

/-- A line filled up to a number of columns. -/
def filled (columns : Nat) (cs : List Char) : List Char :=
  cs ++ List.replicate (columns - width cs) ' '

/-- A line filled up to a number of columns, or cut off to it; what is filled up is
measured again, since a blank may have been joined to the text. -/
def fit (columns : Nat) (cs : List Char) : List Char :=
  filled columns
    (if width cs ≤ columns then filled columns cs else cut (columns - 1) (glyphs cs) ++ ['…'])

/-- The lines of a cell that has so many columns. -/
def cellLines (columns : Nat) (cs : List Char) : List (List Char) :=
  (shownLines cs).flatMap fun line =>
    (wrapWords columns [] 0 (wordsFrom [] false line)).map fun part => fit columns (trimmed columns part)

/-- A text in the middle of a number of columns. -/
def centered (columns : Nat) (cs : List Char) : List Char :=
  let free := columns - width cs
  List.replicate (free / 2) ' ' ++ cs ++ List.replicate (free - free / 2) ' '

/-- The greatest of some numbers. -/
def greatest (ns : List Nat) : Nat := ns.foldl max 0

/-- The sum of some numbers. -/
def total (ns : List Nat) : Nat := ns.foldl (· + ·) 0

/-- Some columns give up a number of columns of the console in equal parts, each no more
than a limit. -/
def shareOut (limit wide : Nat) : (excess sharers : Nat) → List Nat → List Nat
  | _, _, [] => []
  | excess, sharers, w :: rest =>
      if w = wide && 0 < sharers then
        let part := min limit (Double.roundDiv excess sharers)
        (w - part) :: shareOut limit wide (excess - part) (sharers - 1) rest
      else w :: shareOut limit wide excess sharers rest

/-- Widths of columns that fit into a width together: the widest ones become narrower
first. -/
def narrow (room : Nat) : (fuel : Nat) → List Nat → List Nat
  | 0, widths => widths
  | fuel + 1, widths =>
      let excess := total widths - room
      if excess = 0 then widths
      else
        let wide := greatest widths
        let second := greatest (widths.filter (· ≠ wide))
        narrow room fuel
          (shareOut (min excess (wide - second)) wide excess (widths.count wide) widths)

/-- The columns that the widest line of a text takes. -/
def widest (cs : List Char) : Nat := greatest ((Text.lines cs).map width)

/-- The widths of the columns of a table, blanks at the sides of cells included. -/
def columnWidths (columns : Nat) (lines : List (List (List Char))) (count : Nat) : List Nat :=
  let room := columns - (count + 1)
  let natural := (List.range count).map fun i =>
    min room (greatest (lines.map fun cells => widest (cells[i]?.getD [])) + 2)
  narrow room columns natural

/-- A line of a table: its parts between signs. -/
def tableLine (first between last : Char) (parts : List (List Char)) : List Char :=
  first :: [between].intercalate parts ++ [last, '\n']

/-- A row of cells, in as many lines as its highest cell has. -/
def cellRow (side : Char) (widths : List Nat) (cells : List (List Char)) : List Char :=
  let blocks := (widths.zip cells).map fun p => (p.1 - 2, cellLines (p.1 - 2) p.2)
  (List.range (greatest (blocks.map fun b => b.2.length))).flatMap fun i =>
    tableLine side side side
      (blocks.map fun b => ' ' :: (b.2[i]?).getD (filled b.1 []) ++ [' '])

/-- A line between lines of cells. -/
def rule (first fill between last : Char) (widths : List Nat) : List Char :=
  tableLine first between last (widths.map fun w => List.replicate w fill)

/-- A table on a console of some columns. -/
def table (columns : Nat) (title : String) (headings : List String)
    (rows : List (List String)) : String :=
  let shown (cells : List String) : List (List Char) :=
    cells.map fun s => visible s.toList
  let lines := (shown headings) :: rows.map shown
  let widths := columnWidths columns lines headings.length
  let whole := total widths + widths.length + 1
  String.ofList
    (centered whole title.toList ++ ['\n'] ++ rule '┏' '━' '┳' '┓' widths ++
      cellRow '┃' widths (shown headings) ++ rule '┡' '━' '╇' '┩' widths ++
      (rows.map shown).flatMap (cellRow '│' widths) ++ rule '└' '─' '┴' '┘' widths)

end Console
end Homelab
