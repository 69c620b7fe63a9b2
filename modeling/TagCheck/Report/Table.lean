import TagCheck.Report.Style

/-!
# Tables

Rows of cells in a frame. A column is as wide as its longest cell, but a table is at most 160 characters
wide: the widest column gives way until it is. A cell that is longer than its column is cut and ends in a
plus sign.
-/

namespace TagCheck

namespace Table

def maxWidth : Nat := 160

/-- The width of a table with columns of the given widths. -/
def totalWidth (widths : List Nat) : Nat :=
  widths.foldl (· + ·) 0 + 3 * (widths.length - 1) + 4

/-- The widths with the largest one less by one, the last of several. -/
def shrinkOnce (widths : List Nat) : List Nat :=
  let largest := widths.foldl max 0
  let fromEnd := widths.reverse
  (fromEnd.takeWhile (· != largest) ++
    match fromEnd.dropWhile (· != largest) with
    | [] => []
    | w :: ws => (w - 1) :: ws).reverse

/-- The widths after a number of such steps. -/
def shrink : Nat → List Nat → List Nat
  | 0, widths => widths
  | n + 1, widths => shrink n (shrinkOnce widths)

/-- The widths that the columns get, given the longest cell of each. -/
def fit (widths : List Nat) : List Nat :=
  shrink (totalWidth widths - maxWidth) widths

/-- A cell in a column of the given width. -/
def cell (width : Nat) (text : String) : String :=
  if width < text.length then
    if width == 0 then "" else String.ofList (text.toList.take (width - 1) ++ ['+'])
  else padRight width text

def row (widths : List Nat) (cells : List String) : String :=
  "│ " ++ " │ ".intercalate (List.zipWith cell widths cells) ++ " │\n"

/-- A line across the table with the given corner and crossing characters. -/
def rule (left middle right : String) (widths : List Nat) : String :=
  left ++ middle.intercalate (widths.map fun w => String.ofList (List.replicate (w + 2) '─')) ++ right ++
    "\n"

/-- The table with the given headers and rows. Without rows it is an empty frame. -/
def render (headers : List String) (rows : List (List String)) : String :=
  if rows.isEmpty then "┌──┐\n│  │\n└──┘\n"
  else
    let widths := fit <| rows.foldl (fun ws cells => List.zipWith (fun w c => max w c.length) ws cells)
      (headers.map String.length)
    rule "┌" "┬" "┐" widths ++ row widths headers ++ rule "├" "┼" "┤" widths ++
      String.join (rows.map (row widths)) ++ rule "└" "┴" "┘" widths

end Table

end TagCheck
