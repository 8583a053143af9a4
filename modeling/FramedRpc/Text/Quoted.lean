import FramedRpc.Text.Hex
import FramedRpc.Text.Hidden

namespace FramedRpc.Text

-- The five common escapes, and the code point of what would not show.
def quotedChar (c : Char) : List Char :=
  match c with
  | '\x00' => ['\\', '0']
  | '\t' => ['\\', 't']
  | '\r' => ['\\', 'r']
  | '\n' => ['\\', 'n']
  | '"' => ['\\', '"']
  | '\\' => ['\\', '\\']
  | c =>
    if isHidden c then '\\' :: 'u' :: '\x7b' :: ((hexNumber c.toNat).toList ++ ['\x7d'])
    else [c]

def quotedAlone (c : Char) : String :=
  let shown :=
    match c with
    | '\'' => ['\\', '\'']
    | '"' => ['"']
    | c => quotedChar c
  String.ofList ('\'' :: (shown ++ ['\'']))

def quoted (s : String) : String :=
  String.ofList ('"' :: (s.toList.flatMap quotedChar ++ ['"']))

end FramedRpc.Text
