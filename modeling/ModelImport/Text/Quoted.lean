import ModelImport.Text.Combining
import ModelImport.Text.Silent
/-!
# Quoted text

Text and single characters as they are shown in messages and in printed functions: between quotes, with the quote, the
backslash and the common control characters escaped by a backslash, and every other character that would not be seen
(silent characters and combining marks) written as its code point in braces.
-/

namespace ModelImport.Text

/-- Whether a character is shown as itself. -/
def isShown (c : Char) : Bool :=
  if c.toNat < 0x7f then 0x20 ≤ c.toNat else !isSilent c && !isCombining c

/-- A code point in braces, in hexadecimal. -/
def codePoint (c : Char) : List Char := '\\' :: 'u' :: '\x7b' :: Nat.toDigits 16 c.toNat ++ ['\x7d']

/-- A character between quotes of the given kind. -/
def escape (quote : Char) (c : Char) : List Char :=
  if c = '\x00' then ['\\', '0']
  else if c = '\t' then ['\\', 't']
  else if c = '\r' then ['\\', 'r']
  else if c = '\n' then ['\\', 'n']
  else if c = '\\' || c = quote then ['\\', c]
  else if isShown c then [c]
  else codePoint c

def doubleQuote : Char := '\x22'

def singleQuote : Char := '\x27'

/-- Text in double quotes. -/
def quoted (s : String) : String :=
  String.ofList (doubleQuote :: s.toList.flatMap (escape doubleQuote) ++ [doubleQuote])

/-- A character in single quotes. -/
def quotedChar (c : Char) : String :=
  String.ofList (singleQuote :: escape singleQuote c ++ [singleQuote])

end ModelImport.Text
