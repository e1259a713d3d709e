import DefUse.Text.Shape

/-!
# Quoted text

A quoted text stands between double quotes. The quote, the backslash, line breaks and tabs are
escaped by a letter, and what has no shape of its own by its code point in braces.
-/

namespace DefUse.Text

/-- The digits of a number in base sixteen, lower case and without padding. -/
def hexDigits (n : Nat) : List Char := Nat.toDigits 16 n

def quotedChar (c : Char) : List Char :=
  if c = '\x00' then ['\\', '0']
  else if c = '\t' then ['\\', 't']
  else if c = '\r' then ['\\', 'r']
  else if c = '\n' then ['\\', 'n']
  else if c = '"' then ['\\', '"']
  else if c = '\\' then ['\\', '\\']
  else if isExtender c || isShapeless c then '\\' :: 'u' :: '\x7b' :: hexDigits c.toNat ++ ['\x7d']
  else [c]

def quoted (text : String) : String :=
  String.ofList ('"' :: text.toList.flatMap quotedChar ++ ['"'])

end DefUse.Text
