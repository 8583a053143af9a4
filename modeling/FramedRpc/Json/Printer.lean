import FramedRpc.Decimal.Style
import FramedRpc.Json.Quoted
import FramedRpc.Json.Basic

namespace FramedRpc.Json

def Number.text : Number → String
  | integer n => toString n.toInt
  | large n => toString n.toNat
  | real bits => (Decimal.Style.json.finite? Binary.double bits.toNat).getD "null"

structure Layout where
  -- In front of an element at some depth.
  newline : Nat → String
  afterColon : String

def Layout.compact : Layout := ⟨fun _ => "", ""⟩

def Layout.indented : Layout :=
  ⟨fun depth => String.ofList ('\n' :: List.replicate (2 * depth) ' '), " "⟩

-- Parts between brackets. Nothing is put between the brackets of an empty container.
def enclosed (layout : Layout) (depth : Nat) (opening closing : String) (parts : List String) : String :=
  match parts with
  | [] => opening ++ closing
  | parts =>
    let inside := ",".intercalate (parts.map fun part => layout.newline (depth + 1) ++ part)
    opening ++ inside ++ layout.newline depth ++ closing

def member (layout : Layout) (name text : String) : String := quoted name ++ ":" ++ layout.afterColon ++ text

namespace Tree

mutual

def render (layout : Layout) (depth : Nat) : Tree → String
  | null => "null"
  | bool b => if b then "true" else "false"
  | number n => n.text
  | string s => quoted s
  | list items => enclosed layout depth "[" "]" (renderItems layout (depth + 1) items)
  | object members => enclosed layout depth "\x7b" "\x7d" (renderMembers layout (depth + 1) members)

def renderItems (layout : Layout) (depth : Nat) : List Tree → List String
  | [] => []
  | item :: rest => render layout depth item :: renderItems layout depth rest

def renderMembers (layout : Layout) (depth : Nat) : List (String × Tree) → List String
  | [] => []
  | (name, item) :: rest =>
    member layout name (render layout depth item) :: renderMembers layout depth rest

end

def compact (t : Tree) : String := t.render .compact 0

def indented (t : Tree) : String := t.render .indented 0

end Tree

def record (members : List (String × Tree)) : String :=
  enclosed .compact 0 "\x7b" "\x7d" (Tree.renderMembers .compact 1 members)

end FramedRpc.Json
