import EventFeed.Text.Invisible

/-! Quoted text: quotes, backslashes and characters that cannot be seen are escaped. -/

namespace EventFeed

/-- A code point in lower-case hexadecimal between braces. -/
def codePointEscape (c : Char) : List Char :=
  ['\\', 'u', '\x7b'] ++ Nat.toDigits 16 c.toNat ++ ['\x7d']

/-- A character as it stands between quotes. -/
def escapeChar (c : Char) : List Char :=
  if c = '"' then ['\\', '"']
  else if c = '\\' then ['\\', '\\']
  else if c = '\n' then ['\\', 'n']
  else if c = '\t' then ['\\', 't']
  else if c = '\r' then ['\\', 'r']
  else if c.toNat = 0 then ['\\', '0']
  else if c.toNat < 32 ∨ c.toNat = 127 then codePointEscape c
  else if c.toNat < 128 then [c]
  else if isInvisible c then codePointEscape c
  else [c]

/-- Text between double quotes, each character escaped on its own. -/
def quoted (text : String) : String :=
  String.ofList ('"' :: text.toList.flatMap escapeChar ++ ['"'])

/-- A value that may be absent, written as `None` or `Some(..)`. -/
def optionText {α : Type} (write : α → String) : Option α → String
  | none => "None"
  | some value => "Some(" ++ write value ++ ")"

/-- Named parts between braces after the name of what they make up. -/
def recordText (name : String) (parts : List (String × String)) : String :=
  name ++ " \x7b " ++ ", ".intercalate (parts.map fun (label, text) => label ++ ": " ++ text) ++ " \x7d"

/-- Texts between brackets, separated by commas. -/
def listText (items : List String) : String := "[" ++ ", ".intercalate items ++ "]"

end EventFeed
