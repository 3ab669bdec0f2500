import JsonReference.Text.Basic
import JsonReference.Text.Glyph

namespace JsonReference.Text

def codePoint (c : Char) : Text :=
  ['\\', 'u', '\x7b'] ++ hexLower c.toNat ++ ['\x7d']

def quotedChar (quote c : Char) : Text :=
  if c = '\x00' then ['\\', '0']
  else if c = '\t' then ['\\', 't']
  else if c = '\n' then ['\\', 'n']
  else if c = '\r' then ['\\', 'r']
  else if c = '\\' || c = quote then ['\\', c]
  else if hasGlyph c then [c]
  else codePoint c

def quoted (t : Text) : Text := '"' :: t.flatMap (quotedChar '"') ++ ['"']

def quotedOne (c : Char) : Text := '\'' :: quotedChar '\'' c ++ ['\'']

end JsonReference.Text
