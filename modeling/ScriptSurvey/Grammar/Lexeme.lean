import ScriptSurvey.Grammar.Form

/-!
# Lexemes of scripts

Each scan takes the longest lexeme of its kind. Marks are taken as a whole as well, so that `=` does
not begin `==` or `=>`.
-/
namespace ScriptSurvey.Grammar

/-- Words with a meaning of their own, which cannot name anything. -/
def reservedWords : List String :=
  ["break", "case", "catch", "class", "const", "continue", "debugger", "default", "delete", "do",
    "else", "export", "extends", "false", "finally", "for", "function", "if", "import", "in",
    "instanceof", "new", "null", "return", "super", "switch", "this", "throw", "true", "try",
    "typeof", "undefined", "var", "void", "while", "with"]

def marks : List String :=
  [">>>=", "...", "===", "!==", "**=", "<<=", ">>=", ">>>", "&&=", "||=", "??=", "=>", "==", "!=",
    "<=", ">=", "&&", "||", "??", "?.", "++", "--", "+=", "-=", "*=", "/=", "%=", "&=", "|=", "^=",
    "<<", ">>", "**", "\x7b", "\x7d", "(", ")", "[", "]", ";", ",", "<", ">", "+", "-", "*", "/",
    "%", "&", "|", "^", "!", "~", "?", ":", "=", ".", "#", "@"]

/-- The longest mark that the text begins with. A question mark in front of a decimal point stands
alone. -/
def markAt? (text : List Char) : Option String :=
  match text with
  | '?' :: '.' :: c :: _ => if c.isDigit then some "?" else some "?."
  | _ => marks.find? fun m => m.toList.isPrefixOf text

/-- A character that a name may hold. -/
def Scan.isWordChar (c : Char) : Bool := Text.isWordChar c || c == '$'

/-- The length of a run of such characters, which may be escaped by their code. -/
def runLength : List Char → Nat
  | '\\' :: 'u' :: _ :: _ :: _ :: _ :: rest => runLength rest + 6
  | c :: rest => if Scan.isWordChar c then runLength rest + 1 else 0
  | [] => 0

/-- The length of a word, which does not begin with a digit. -/
def wordLength (text : List Char) : Nat :=
  if (text.head?.map Char.isDigit).getD false then 0 else runLength text

namespace Scan

/-- Takes exactly one word or mark. -/
def exactly (lexeme : String) : Scan := fun text =>
  let length := lexeme.length
  if wordLength lexeme.toList == 0 then if markAt? text == some lexeme then length else 0
  else if wordLength text == length && lexeme.toList.isPrefixOf text then length else 0

/-- Takes the characters of a text as they stand. -/
def literally (lexeme : String) : Scan := fun text =>
  if lexeme.toList.isPrefixOf text then lexeme.length else 0

def propertyName : Scan := wordLength

def identifier : Scan := fun text =>
  let length := wordLength text
  if reservedWords.contains (String.ofList (text.take length)) then 0 else length

def privateName : Scan := fun text =>
  match text with
  | '#' :: rest => match wordLength rest with
    | 0 => 0
    | length => length + 1
  | _ => 0

def isHexDigit (c : Char) : Bool := c.isDigit || ('a' ≤ c && c ≤ 'f') || ('A' ≤ c && c ≤ 'F')

def digits (text : List Char) : Nat := (text.takeWhile fun c => c.isDigit || c == '_').length

/-- A decimal point with the digits after it. -/
def fraction : Scan
  | '.' :: rest => 1 + digits rest
  | _ => 0

/-- The part of a number that scales it. -/
def exponent : Scan
  | e :: rest =>
    if e != 'e' && e != 'E' then 0
    else
      let sign := match rest with
        | '+' :: _ | '-' :: _ => 1
        | _ => 0
      match digits (rest.drop sign) with
      | 0 => 0
      | length => 1 + sign + length
  | [] => 0

/-- The mark of a whole number without bound. -/
def wholeMark : Scan
  | 'n' :: _ => 1
  | _ => 0

/-- Takes what each of the scans takes, one after the other. -/
def inTurn (scans : List Scan) : Scan := fun text =>
  scans.foldl (fun taken scan => taken + scan (text.drop taken)) 0

/-- A number without the letters that follow it; a number that runs into a word is none. -/
def number : Scan := fun text =>
  let length := match text with
    | '0' :: b :: rest =>
      if "xXoObB".toList.contains b then
        inTurn [fun t => (t.takeWhile fun c => isHexDigit c || c == '_').length, wholeMark] rest + 2
      else inTurn [digits, fraction, exponent, wholeMark] text
    | '.' :: c :: _ => if c.isDigit then inTurn [fraction, exponent] text else 0
    | c :: _ => if c.isDigit then inTurn [digits, fraction, exponent, wholeMark] text else 0
    | [] => 0
  if wordLength (text.drop length) == 0 then length else 0

/-- The plain characters of a string up to its quote, an escape or the end of the line. -/
def stringFragment (quote : Char) : Scan := fun text =>
  (text.takeWhile fun c => c != quote && c != '\\' && c != '\n').length

/-- The plain characters of a template; a dollar sign is plain unless a brace follows. -/
def templateFragment : Scan
  | '$' :: '\x7b' :: _ => 0
  | c :: rest => if c == '\x60' || c == '\\' then 0 else templateFragment rest + 1
  | [] => 0

def escapeSequence : Scan
  | '\\' :: 'u' :: '\x7b' :: rest => (rest.takeWhile isHexDigit).length + 4
  | '\\' :: 'u' :: _ => 6
  | '\\' :: 'x' :: _ => 4
  | '\\' :: _ :: _ => 2
  | _ => 0

/-- The body of a regular expression; a slash inside a bracket does not end it. -/
def regexBody (inBracket : Bool) : Scan
  | '\\' :: c :: rest => if c == '\n' then 0 else regexBody inBracket rest + 2
  | c :: rest =>
    if c == '\n' then 0
    else if c == '/' && !inBracket then 0
    else regexBody ((inBracket || c == '[') && c != ']') rest + 1
  | [] => 0

def regexFlags : Scan := fun text => (text.takeWhile Char.isLower).length

/-- The first line of a text that names the program to run it. -/
def interpreterLine : Scan
  | '#' :: '!' :: rest => 2 + (rest.takeWhile (· != '\n')).length
  | _ => 0

end Scan

end ScriptSurvey.Grammar
