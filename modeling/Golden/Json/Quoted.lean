/-
  Golden.Json.Quoted
  ────────────────────────────────
  **TEXTS IN THE INTERCHANGE FORMAT.**

  A text stands between double quotes.  The quote, the backslash and the
  control characters below the space are escaped, the latter by a letter
  where the format has one and else by four hexadecimal digits; every other
  character, ASCII or not, stands for itself.
-/
import Golden.Text.Quoted

namespace Golden.Json

/-- What stands for one character of a text. -/
def escape (c : Char) : List Char :=
  if c = '"' then ['\\', '"']
  else if c = '\\' then ['\\', '\\']
  else if c = '\n' then ['\\', 'n']
  else if c = '\r' then ['\\', 'r']
  else if c = '\t' then ['\\', 't']
  else if c = '\x0c' then ['\\', 'f']
  else if c = '\x08' then ['\\', 'b']
  else if c.toNat < 32 then '\\' :: 'u' :: Text.hex 4 c.toNat
  else [c]

/-- The quoted characters of a text. -/
def quoteChars (s : List Char) : List Char :=
  '"' :: (s.flatMap escape ++ ['"'])

/-- The quoted form of a text. -/
def quote (s : String) : String := String.ofList (quoteChars s.toList)

end Golden.Json
