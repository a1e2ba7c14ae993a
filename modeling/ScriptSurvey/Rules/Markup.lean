import ScriptSurvey.Text.WordTable

/-!
# Depth of markup tags

The depth of a tag in a text is the number of times it opens less the number of times it closes.
-/
namespace ScriptSurvey.Markup

/-- A tag name ends before a closing bracket, a slash, a blank or the end of the text. -/
def endsName (text : List Char) : Bool :=
  match text with
  | [] => true
  | c :: _ => c == '>' || c == '/' || Text.isBlank c

/-- What a text that follows an opening bracket does to the depth of a tag, and how many of its
characters belong to the tag. -/
def tagChange (tag text : List Char) : Int × Nat :=
  if ('/' :: tag).isPrefixOf text && endsName (text.drop (tag.length + 1)) then (-1, tag.length + 1)
  else if tag.isPrefixOf text && endsName (text.drop tag.length) then (1, tag.length)
  else (0, 0)

/-- Sums up the changes; `skip` counts the characters that belong to the tag read last. -/
def depthFrom (tag : List Char) : Nat → List Char → Int
  | _, [] => 0
  | skip + 1, _ :: rest => depthFrom tag skip rest
  | 0, c :: rest =>
    if c == '<' then
      let (change, length) := tagChange tag rest
      change + depthFrom tag length rest
    else depthFrom tag 0 rest

def tagDepth (text : List Char) (tag : String) : Int := depthFrom tag.toList 0 text

end ScriptSurvey.Markup
