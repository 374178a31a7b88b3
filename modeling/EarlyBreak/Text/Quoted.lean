import EarlyBreak.Text.Hex
import EarlyBreak.Text.Hidden

/-! Texts in double quotes, on one line and with every character visible. -/

namespace EarlyBreak.Text

/-- A character inside the quotes: named escapes for the common ones, the code point for those
without a shape of their own.
-/
def quotedChar (c : Char) : List Char :=
  match c with
  | '\t' => ['\\', 't']
  | '\r' => ['\\', 'r']
  | '\n' => ['\\', 'n']
  | '\x00' => ['\\', '0']
  | '"' => ['\\', '"']
  | '\\' => ['\\', '\\']
  | c =>
      if isHidden c then ['\\', 'u', '\x7b'] ++ (lowerHex c.toNat).toList ++ ['\x7d']
      else [c]

/-- A text in quotes. -/
def quoted (s : String) : String :=
  String.ofList ('"' :: s.toList.flatMap quotedChar ++ ['"'])

end EarlyBreak.Text
