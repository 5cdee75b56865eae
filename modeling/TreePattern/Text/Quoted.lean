import TreePattern.Unicode.Property

/-!
# Quoted texts

A quoted text stands between double quotes. A double quote and a backslash inside it are written
behind a backslash; so are the tab, the line feed, the carriage return and the null character, by a
letter or a digit. A character that cannot be seen by itself, because it is not printable or joins
the character before it, is written by its code point. All others stand for themselves.

* `quote`: the quoted form of a text.
-/

namespace TreePattern

/-- Whether a character can be printed: it is assigned, is neither control, format character nor
for private use, is not one to be passed over in display, and of the separators it can only be the
space. -/
def isPrintable (c : Char) : Bool := c == ' ' || printableSet.has c
where
  /-- The printable characters but for the space. -/
  printableSet : CodeSet :=
    (Unicode.assigned.diff (Unicode.gather ["cc", "cf", "co", "zl", "zp", "zs"])).diff
      (Unicode.listed "defaultignorablecodepoint")

/-- Whether a character is seen by itself wherever it stands. -/
def isPlain (c : Char) : Bool := isPrintable c && !Unicode.graphemeExtend.has c

/-- Whether a character is a printable character of ASCII. -/
def isPlainAscii (c : Char) : Bool := ' ' ≤ c && c ≤ '~'

/-- How a character is written between quotes. -/
def quoteChar (c : Char) : List Char :=
  if c = '"' then ['\\', '"']
  else if c = '\\' then ['\\', '\\']
  else if c = '\t' then ['\\', 't']
  else if c = '\n' then ['\\', 'n']
  else if c = '\r' then ['\\', 'r']
  else if c = '\x00' then ['\\', '0']
  else if isPlainAscii c || isPlain c then [c]
  else '\\' :: 'u' :: '\x7b' :: Nat.toDigits 16 c.toNat ++ ['\x7d']

/-- The quoted form of a text. -/
def quote (text : String) : String :=
  String.ofList ('"' :: text.toList.flatMap quoteChar ++ ['"'])

end TreePattern
