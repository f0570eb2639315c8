/-!
# Quoted text

Log lines and displays show a text between quotation marks, with the characters that would
end the quotation or break the line written as escapes.

`Text.quoted` is the written form, `Text.quoteMark` the mark it uses.
-/

namespace PasswordChange.Text

/-- An apostrophe encloses the text, unless the text holds one and no double quote. -/
def quoteMark (cs : List Char) : Char :=
  if cs.contains '\x27' && !cs.contains '\x22' then '\x22' else '\x27'

/-- The digit of a value below sixteen, in lower case. -/
def hexDigit (n : Nat) : Char :=
  if n < 10 then Char.ofNat (48 + n) else Char.ofNat (87 + n)

/-- Control characters, the no-break space and the soft hyphen are written by their code. -/
def isHidden (c : Char) : Bool :=
  c.toNat < 0x20 || (0x7f ≤ c.toNat && c.toNat ≤ 0xa0) || c.toNat == 0xad

/-- One character inside a quotation enclosed by `mark`. -/
def quotedChar (mark c : Char) : List Char :=
  if c == '\\' || c == mark then ['\\', c]
  else if c == '\n' then ['\\', 'n']
  else if c == '\r' then ['\\', 'r']
  else if c == '\t' then ['\\', 't']
  else if isHidden c then ['\\', 'x', hexDigit (c.toNat / 16), hexDigit (c.toNat % 16)]
  else [c]

/-- The text between quotation marks. -/
def quoted (s : String) : String :=
  let mark := quoteMark s.toList
  String.ofList (mark :: s.toList.flatMap (quotedChar mark) ++ [mark])

/-- Without an apostrophe in the text, apostrophes enclose it. -/
example : quoted "a\\b\n" = "'a\\\\b\\n'" := by decide +kernel

/-- An apostrophe in the text brings in the double quote, unless there is one as well. -/
example : quoted "it's" = "\"it's\"" ∧ quoted "it's \"so\"" = "'it\\'s \"so\"'" := by
  decide +kernel

/-- Hidden characters are written by their codes, all others stand for themselves. -/
example : quoted "\x7fä" = "'\\x7fä'" := by decide +kernel

end PasswordChange.Text
