import SurfaceGate.Text.Hex
import SurfaceGate.Text.Hidden

/-!
Quoted texts for messages.

A text stands between double quotes. A double quote and a backslash get a backslash before them;
tab, line feed, carriage return and the null character have their letters; any other hidden
character is written by its code in braces. Single quotes stay.
-/

namespace SurfaceGate.Text

def codeEscape (c : Char) : List Char :=
  ['\\', 'u', '\x7b'] ++ hexDigits c.toNat ++ ['\x7d']

def escaped (c : Char) : List Char :=
  match c with
  | '\x00' => ['\\', '0']
  | '\t' => ['\\', 't']
  | '\n' => ['\\', 'n']
  | '\x0d' => ['\\', 'r']
  | '"' => ['\\', '"']
  | '\\' => ['\\', '\\']
  | c => if isHidden c then codeEscape c else [c]

def quoted (s : String) : String :=
  String.ofList ('"' :: s.toList.flatMap escaped ++ ['"'])

end SurfaceGate.Text
