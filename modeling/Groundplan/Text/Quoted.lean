/-!
# Quoted literals

String literals of the configuration language. A backslash, a quote, a line feed, a carriage return
and a tab are written with a backslash; the opening of an interpolation gets a second dollar sign.
A literal therefore stays on one line and interpolates nothing.
-/

namespace Groundplan.Text

/-- The body of the literal for the given characters. -/
def escapeChars : List Char → List Char
  | [] => []
  | '\\' :: cs => '\\' :: '\\' :: escapeChars cs
  | '"' :: cs => '\\' :: '"' :: escapeChars cs
  | '\n' :: cs => '\\' :: 'n' :: escapeChars cs
  | '\r' :: cs => '\\' :: 'r' :: escapeChars cs
  | '\t' :: cs => '\\' :: 't' :: escapeChars cs
  | '$' :: '{' :: cs => '$' :: '$' :: '{' :: escapeChars cs
  | c :: cs => c :: escapeChars cs

/-- The body of a literal: a lone dollar sign or brace is left alone. -/
def escape (s : String) : String := String.ofList (escapeChars s.toList)

def quote (s : String) : String := "\"" ++ escape s ++ "\""

theorem toList_escape (s : String) : (escape s).toList = escapeChars s.toList := by
  simp [escape]

theorem toList_quote (s : String) : (quote s).toList = '"' :: (escapeChars s.toList ++ ['"']) := by
  simp [quote, toList_escape]

theorem newline_notMem_escapeChars (cs : List Char) : '\n' ∉ escapeChars cs := by
  fun_induction escapeChars cs <;> simp_all [eq_comm]

end Groundplan.Text
