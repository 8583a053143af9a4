import FramedRpc.Value
import FramedRpc.Decimal.Style
import FramedRpc.Text.Quoted

namespace FramedRpc

def Scalar.display : Scalar → String
  | null => "null"
  | bool b => if b then "true" else "false"
  | short n => toString n.toInt
  | int n => toString n.toInt
  | long n => toString n.toInt
  | float bits => Decimal.Style.display.number Binary.single bits.toNat
  | double bits => Decimal.Style.display.number Binary.double bits.toNat
  | timestamp n => "@" ++ toString n.toInt
  | string s => Text.quoted s
  | binary bytes => s!"<binary {bytes.length} bytes>"

namespace Value

mutual

def display : Value → String
  | scalar s => s.display
  | list items => "[" ++ ", ".intercalate (displayItems items) ++ "]"
  | map entries => "\x7b" ++ ", ".intercalate (displayEntries entries) ++ "\x7d"

def displayItems : List Value → List String
  | [] => []
  | v :: rest => display v :: displayItems rest

def displayEntries : List (Value × Value) → List String
  | [] => []
  | (k, v) :: rest => (display k ++ ": " ++ display v) :: displayEntries rest

end

end Value
end FramedRpc
