import InvocationBridge.Text.Hex
import InvocationBridge.Text.Unseen

/-!
Text in double quotes, as log lines and error messages show it.
-/

namespace InvocationBridge.Text

/-- One character between quotes: quotes, backslashes and the usual controls after a backslash,
others that cannot be seen by their number. -/
def quotedChar (c : Char) : List Char :=
  if c = '"' then ['\\', '"']
  else if c = '\\' then ['\\', '\\']
  else if c = '\n' then ['\\', 'n']
  else if c = '\r' then ['\\', 'r']
  else if c = '\t' then ['\\', 't']
  else if c = '\x00' then ['\\', '0']
  else if isUnseen c then ['\\', 'u', '\x7b'] ++ Hex.ofNat c.toNat ++ ['\x7d']
  else [c]

def quoted (s : String) : String :=
  String.ofList ('"' :: s.toList.flatMap quotedChar ++ ['"'])

end InvocationBridge.Text
