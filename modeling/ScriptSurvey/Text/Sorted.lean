/-!
# Sorted lists of texts

Texts are ordered by code points, which is also the order of their UTF-8 bytes.
-/
namespace ScriptSurvey.Text

def sorted (texts : List String) : List String := texts.mergeSort fun a b => decide (a ≤ b)

/-- The distinct texts in order. -/
def sortedDistinct (texts : List String) : List String := sorted texts.eraseDups

end ScriptSurvey.Text
