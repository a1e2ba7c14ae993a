import ScriptSurvey.Grammar.JavaScript.Phrase

/-!
# Literals

Texts, templates and regular expressions hold no blanks or comments of their own.
-/
namespace ScriptSurvey.Grammar.JavaScript

open Grammar.Form (maybe field node many)

def string : Form :=
  let quoted (quote : Char) :=
    let q := quote.toString
    opening q ++ many (tightLeaf "string_fragment" (Scan.stringFragment quote)
      <|> tightLeaf "escape_sequence" Scan.escapeSequence) ++ tight q
  node "string" (quoted '"' <|> quoted '\'')
where
  opening (q : String) : Form := .lexeme q false true (Scan.literally q)

def template : Form :=
  let quote := "\x60"
  node "template_string" (.lexeme quote false true (Scan.literally quote)
    ++ many (tightLeaf "string_fragment" Scan.templateFragment
      <|> tightLeaf "escape_sequence" Scan.escapeSequence
      <|> node "template_substitution" (tight "$\x7b" ++ sequence ++ mark "\x7d"))
    ++ tight quote)

def regex : Form :=
  node "regex" (.lexeme "/" false true (Scan.literally "/")
    ++ field "pattern" (tightLeaf "regex_pattern" (Scan.regexBody false)) ++ tight "/"
    ++ maybe (field "flags" (tightLeaf "regex_flags" Scan.regexFlags)))


end ScriptSurvey.Grammar.JavaScript
