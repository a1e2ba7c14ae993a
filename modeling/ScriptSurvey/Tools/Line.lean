import ScriptSurvey.Json.Reader
import ScriptSurvey.Json.Writer
import ScriptSurvey.Tools.Request
import ScriptSurvey.Tools.Server

/-!
# Calls as lines

A call is a line with a JSON object that names a tool and holds its arguments. The reply is a line
with an object as well.
-/
namespace ScriptSurvey.Tools

open Json (Value)

namespace Request

/-- The request of a line; none when the line is no call of a tool. -/
def ofLine? (line : String) : Option Request := do
  let call ← Json.parse? line
  let name ← required? text? call "tool"
  ofJson? name ((call.member? "args").getD (.object []))

end Request

namespace Reply

def refused : Reply := ⟨true, "no tool takes this call"⟩

def toLine (reply : Reply) : String :=
  Json.compact (Value.record [("is_error", .bool reply.isError), ("text", Value.text reply.text)])

end Reply

end ScriptSurvey.Tools
