import FramedRpc.Text.Width

namespace FramedRpc.Cli

structure Table where
  header : List String
  rows : List (List String)
  deriving Repr

structure Rule where
  left : String
  fill : Char
  cross : String
  right : String

namespace Table

def topRule : Rule := ⟨"┌", '─', "┬", "┐"⟩
def headerRule : Rule := ⟨"╞", '═', "╪", "╡"⟩
def rowRule : Rule := ⟨"├", '╌', "┼", "┤"⟩
def bottomRule : Rule := ⟨"└", '─', "┴", "┘"⟩

def repeated (n : Nat) (c : Char) : String := String.ofList (List.replicate n c)

def widths (t : Table) : List Nat :=
  t.rows.foldl (fun widths row => List.zipWith max widths (row.map Text.width)) (t.header.map Text.width)

def rule (widths : List Nat) (r : Rule) : String :=
  r.left ++ r.cross.intercalate (widths.map fun width => repeated (width + 2) r.fill) ++ r.right

def cells (widths : List Nat) (row : List String) : String :=
  let padded := List.zipWith (fun width cell => " " ++ cell ++ repeated (width - Text.width cell + 1) ' ')
    widths row
  "│" ++ "┆".intercalate padded ++ "│"

def lines (t : Table) : List String :=
  let widths := t.widths
  let rows := (t.rows.map fun row => [cells widths row]).intersperse [rule widths rowRule]
  [rule widths topRule, cells widths t.header, rule widths headerRule] ++ rows.flatten ++
    [rule widths bottomRule]

def render (t : Table) : String := "\n".intercalate t.lines

end Table
end FramedRpc.Cli
