/-!
The words of a shell script. Blanks separate words, and line feeds, semicolons and the marks for
"and" and "or" separate commands; single quotes, double quotes and backslashes take characters as
they stand. Parameters of one character are put in for their values. A script with any other kind of
expansion, or with redirections or groups, is not read. Some characters are special in some places
only: a comment and the name of a home directory stand at the beginning of a word, and a set of
characters is closed by a bracket. Lists in braces and the history of a session are not expanded, as
POSIX does not know them.
-/

set_option autoImplicit false

namespace TmuxPlan.Shell

inductive Mark where
  | sequel
  | onSuccess
  | onFailure
  deriving DecidableEq, Repr

inductive Token where
  | word (text : String)
  | mark (mark : Mark)
  deriving DecidableEq, Repr

/-- The values of the parameters, by the character after the dollar sign. -/
abbrev Parameters := Char → Option String

/-- No parameter has a known value. -/
def noParameters : Parameters := fun _ => none

/-- How the next character is taken. -/
inductive Quoting where
  | none
  | single
  | double
  | comment
  | escape
  | escapeInDouble
  | parameter
  | parameterInDouble
  /-- After the first of two equal characters that make a mark. -/
  | half (mark : Mark)
  deriving DecidableEq, Repr

structure TokenReader where
  quoting : Quoting := .none
  /-- The characters of the word that has been begun, if one has. -/
  word : Option (List Char) := none
  /-- What has been read before that word. -/
  tokens : List Token := []
  deriving DecidableEq, Repr

/-- Characters that outside of quotes would call for more than reading words. -/
def isUnread (c : Char) : Bool :=
  "\x60<>()*?".toList.contains c

/-- Characters that call for more than reading words after the given part of a word. -/
def isUnreadAfter (word : Option (List Char)) (c : Char) : Bool :=
  (c = '~' && word.isNone) || (c = ']' && (word.getD []).contains '[')

/-- Characters that a backslash takes as they stand between double quotes. -/
def isEscapedInDouble (c : Char) : Bool :=
  "$\x60\"\\".toList.contains c

/-- Characters at which the value of a parameter would fall into several words or be a pattern. -/
def isDivisive (c : Char) : Bool :=
  " \t\n*?[".toList.contains c

/-- How the next character is taken, where a character outside of quotes changes that. -/
def quotingAfter? : Char → Option Quoting
  | '\'' => some .single
  | '"' => some .double
  | '\\' => some .escape
  | '$' => some .parameter
  | '&' => some (.half .onSuccess)
  | '|' => some (.half .onFailure)
  | _ => none

namespace TokenReader

/-- Adds characters to the word and goes on in the given way. -/
def add (reader : TokenReader) (cs : List Char) (quoting : Quoting) : TokenReader :=
  { reader with quoting, word := some (reader.word.getD [] ++ cs) }

def close (reader : TokenReader) : TokenReader :=
  match reader.word with
  | none => { reader with quoting := .none }
  | some cs =>
    { quoting := .none, word := none, tokens := reader.tokens ++ [.word (String.ofList cs)] }

def mark (reader : TokenReader) (mark : Mark) : TokenReader :=
  let closed := reader.close
  { closed with tokens := closed.tokens ++ [.mark mark] }

def stepUnquoted (reader : TokenReader) (c : Char) : Option TokenReader :=
  if c = ' ' || c = '\t' then some reader.close
  else if c = '\n' || c = ';' then some (reader.mark .sequel)
  else if c = '#' && reader.word.isNone then some { reader with quoting := .comment }
  else if isUnread c || isUnreadAfter reader.word c then none
  else
    match quotingAfter? c with
    | none => some (reader.add [c] .none)
    -- a quotation is part of a word even if nothing stands in it
    | some .single => some (reader.add [] .single)
    | some .double => some (reader.add [] .double)
    | some quoting => some { reader with quoting }

def step (parameters : Parameters) (reader : TokenReader) (c : Char) : Option TokenReader :=
  match reader.quoting with
  | .none => reader.stepUnquoted c
  | .single => some (if c = '\'' then { reader with quoting := .none } else reader.add [c] .single)
  | .double =>
    if c = '"' then some { reader with quoting := .none }
    else if c = '\\' then some { reader with quoting := .escapeInDouble }
    else if c = '$' then some { reader with quoting := .parameterInDouble }
    else if c = '\x60' then none
    else some (reader.add [c] .double)
  | .comment => some (if c = '\n' then reader.mark .sequel else reader)
  | .escape =>
    some (if c = '\n' then { reader with quoting := .none } else reader.add [c] .none)
  | .escapeInDouble =>
    some (
      if isEscapedInDouble c then reader.add [c] .double
      else if c = '\n' then { reader with quoting := .double }
      else reader.add ['\\', c] .double)
  | .parameter => do
    let value ← parameters c
    if value.isEmpty then return { reader with quoting := .none }
    else if value.toList.any isDivisive then none
    else return reader.add value.toList .none
  | .parameterInDouble => do
    let value ← parameters c
    return reader.add value.toList .double
  | .half .onSuccess => if c = '&' then some (reader.mark .onSuccess) else none
  | .half .onFailure => if c = '|' then some (reader.mark .onFailure) else none
  | .half .sequel => none

def finish (reader : TokenReader) : Option (List Token) :=
  if reader.quoting = .none || reader.quoting = .comment then some reader.close.tokens else none

end TokenReader

def tokens? (parameters : Parameters) (script : String) : Option (List Token) := do
  (← script.toList.foldlM (TokenReader.step parameters) {}).finish

/-- Tokens as commands, each with the mark in front of it. -/
def commandsOf (mark : Mark) (words : List String) : List Token → List (Mark × List String)
  | [] => [(mark, words)]
  | .word word :: tokens => commandsOf mark (words ++ [word]) tokens
  | .mark next :: tokens => (mark, words) :: commandsOf next [] tokens

end TmuxPlan.Shell
