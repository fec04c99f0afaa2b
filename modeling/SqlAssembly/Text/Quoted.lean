import SqlAssembly.Text.Basic
import SqlAssembly.Text.Printable

/-! # Texts shown to a reader

Messages show a text between double quotation marks, with an escape for every
character that would end the text, start an escape or stay invisible.  A log shows a
text without marks, with an escape only for what a terminal would obey; this is the rule
of the library that writes the log.
-/

namespace SqlAssembly.Text

def codePointEscape (c : Char) : String :=
  "\\u\x7b" ++ String.ofList (Nat.toDigits 16 c.toNat) ++ "\x7d"

def showChar (c : Char) : String :=
  if c == '\x00' then "\\0"
  else if c == '\t' then "\\t"
  else if c == '\r' then "\\r"
  else if c == '\n' then "\\n"
  else if c == '"' then "\\\""
  else if c == '\\' then "\\\\"
  else if isShowable c then String.singleton c
  else codePointEscape c

/-- A text between double quotation marks, each of its characters shown. -/
def quoted (s : String) : String :=
  "\"" ++ String.join (s.toList.map showChar) ++ "\""

/-- The control characters below U+0080 that can be part of a command to a terminal. -/
def terminalControls : List Char :=
  ['\x07', '\x08', '\x0c', '\x1b', '\x7f']

def logChar (c : Char) : String :=
  if terminalControls.contains c then "\\x" ++ String.ofList (hexByte c.toNat.toUInt8)
  else if 0x80 ≤ c.toNat && c.toNat ≤ 0x9F then codePointEscape c
  else String.singleton c

/-- A text in a log.  Tabs and line breaks stay as they are. -/
def logged (s : String) : String :=
  String.join (s.toList.map logChar)

end SqlAssembly.Text
