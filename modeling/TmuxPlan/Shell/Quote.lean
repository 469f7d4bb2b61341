/-!
Quoting a text as one word of a POSIX shell line. Plain words stay as they are; all else stands in
single quotes, where only the single quote itself needs an escape.
-/

set_option autoImplicit false

namespace TmuxPlan.Shell

/-- Characters that no shell treats specially inside a word. -/
def isPlain (c : Char) : Bool :=
  c.isAlphanum || "_-.,:/=@%+".toList.contains c

/-- A single quote closes the quotation, stands escaped, and opens the next one. -/
def escapeQuotes : List Char → List Char
  | [] => []
  | '\'' :: cs => '\'' :: '\\' :: '\'' :: '\'' :: escapeQuotes cs
  | c :: cs => c :: escapeQuotes cs

def quoteChars (cs : List Char) : List Char :=
  if !cs.isEmpty && cs.all isPlain then cs
  else '\'' :: (escapeQuotes cs ++ ['\''])

def quote (s : String) : String :=
  String.ofList (quoteChars s.toList)

/-- A command line: the program and its arguments, each quoted, with a space between them. -/
def line (program : String) (args : List String) : String :=
  args.foldl (fun text arg => text ++ " " ++ quote arg) program

end TmuxPlan.Shell
