import ContextHub.Text.Hex
import ContextHub.Text.Unprintable
/-!
# Quoted text

A string between double quotes in which the quote, the backslash, the characters that do not
print and those that extend the character before them are escaped. Tab, carriage return,
newline and the null character have short escapes; all other escaped characters are written as
their code point in braces.
-/

namespace ContextHub.Quoted

def codePoint (c : Char) : String := "\\u\x7b" ++ Hex.digits c.toNat ++ "\x7d"

def encodeChar (c : Char) : String :=
  if c = '"' then "\\\""
  else if c = '\\' then "\\\\"
  else if c = '\t' then "\\t"
  else if c = '\r' then "\\r"
  else if c = '\n' then "\\n"
  else if c.toNat = 0 then "\\0"
  else if Unprintable.isUnprintable c then codePoint c
  else String.singleton c

/-- The text without the surrounding quotes. -/
def encode (s : String) : String := String.join (s.toList.map encodeChar)

def text (s : String) : String := "\"" ++ encode s ++ "\""

end ContextHub.Quoted
