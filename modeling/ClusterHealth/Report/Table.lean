/-! Tables in frames of lines. -/
namespace ClusterHealth

structure Table where
  header : List String
  rows : List (List String)

namespace Table

/-- How a frame is drawn between two rows: at its left end, along cells, between columns and at
its right end. -/
structure Rule where
  left : Char
  along : Char
  between : Char
  right : Char

def top : Rule := ⟨'┌', '─', '┬', '┐'⟩
def underHeader : Rule := ⟨'╞', '═', '╪', '╡'⟩
def underRow : Rule := ⟨'├', '╌', '┼', '┤'⟩
def bottom : Rule := ⟨'└', '─', '┴', '┘'⟩

def Rule.draw (r : Rule) (widths : List Nat) : String :=
  let cells := widths.map fun width => List.replicate (width + 2) r.along
  .ofList (r.left :: [r.between].intercalate cells ++ [r.right])

/-- Every column is as wide as its widest cell. -/
def widths (t : Table) : List Nat :=
  t.rows.foldl (fun widths row => widths.zipWith max (row.map String.length))
    (t.header.map String.length)

def cell (width : Nat) (text : String) : List Char :=
  ' ' :: text.toList ++ List.replicate (width - text.length) ' ' ++ [' ']

def drawRow (widths : List Nat) (row : List String) : String :=
  .ofList ('│' :: ['┆'].intercalate (widths.zipWith cell row) ++ ['│'])

/-- Lines of the table, with a line between rows. -/
def lines (t : Table) : List String :=
  let widths := t.widths
  let rows := (t.rows.map (drawRow widths)).intersperse (underRow.draw widths)
  [top.draw widths, drawRow widths t.header, underHeader.draw widths] ++ rows ++
    [bottom.draw widths]

def text (t : Table) : String := "\n".intercalate t.lines

end Table
end ClusterHealth
