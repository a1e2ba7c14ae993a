import ScriptSurvey.Path
import ScriptSurvey.Text.Search

/-!
# Languages and roles of files

The extension of a file decides its language. Names of directories and files tell test files and
generated files apart from the rest.
-/
namespace ScriptSurvey

inductive Language where
  | typeScript
  | tsx
  | javaScript
  | markup
  deriving DecidableEq, Repr, Inhabited

namespace Language

def ofExtension? (extension : String) : Option Language :=
  match extension with
  | "ts" | "mts" | "cts" => some typeScript
  | "tsx" => some tsx
  | "js" | "jsx" | "mjs" | "cjs" => some javaScript
  | "vue" | "svelte" | "html" => some markup
  | _ => none

def ofPath? (p : Path) : Option Language := ofExtension? (p.extension?.getD "")

/-- Markup is searched by rules but has no syntax tree. -/
def isScript : Language → Bool
  | markup => false
  | _ => true

def displayName : Language → String
  | typeScript => "typescript"
  | tsx => "tsx"
  | javaScript => "javascript"
  | markup => "markup"

end Language

namespace Path

/-- The path has the extension of a script language. -/
def isScript (p : Path) : Bool := ((Language.ofPath? p).map Language.isScript).getD false

end Path

namespace FileRole

/-- The text of a path with a single separator in front, so that a directory name can be searched
for together with the separators around it. -/
def anchoredText (text : String) : String :=
  "/" ++ String.ofList ((Text.replaceChar text '\\' '/').toList.dropWhile (· = '/'))

def fileName (text : String) : String := ((Path.ofString text).fileName?).getD ""

/-- The path text lies in a directory for tests or mocks, or has a test or story file name. -/
def isTest (text : String) : Bool :=
  ["/__tests__/", "/tests/", "/test/", "/__mocks__/"].any (Text.contains (anchoredText text))
    || [".test.", ".spec.", ".stories."].any (Text.contains (fileName text))

/-- The path text lies in a directory for build results, or has the name of a generated file. -/
def isGenerated (text : String) : Bool :=
  ["/dist/", "/build/", "/coverage/", "/.next/"].any (Text.contains (anchoredText text))
    || (fileName text).endsWith ".d.ts"
    || [".min.", ".generated.", ".bundle."].any (Text.contains (fileName text))

end FileRole

end ScriptSurvey
