/-!
# Searching and cutting text

Plain searches over lists of characters, and the text functions built from them.
-/
namespace ScriptSurvey.Text

/-- `needle` occurs somewhere in the text. -/
def occursIn {α : Type} [BEq α] (needle : List α) : List α → Bool
  | [] => needle.isEmpty
  | c :: rest => needle.isPrefixOf (c :: rest) || occursIn needle rest

def contains (text needle : String) : Bool := occursIn needle.toList text.toList

/-- The parts before and after the first occurrence of `c`. -/
def cutAt {α : Type} [BEq α] (c : α) : List α → Option (List α × List α)
  | [] => none
  | d :: rest => if d == c then some ([], rest) else (cutAt c rest).map fun (a, b) => (d :: a, b)

def splitOnce (text : String) (c : Char) : Option (String × String) :=
  (cutAt c text.toList).map fun (a, b) => (String.ofList a, String.ofList b)

/-- The characters without those at both ends that satisfy `drop`. -/
def strip (drop : Char → Bool) (text : List Char) : List Char :=
  ((text.dropWhile drop).reverse.dropWhile drop).reverse

/-- Pieces between occurrences of `c`, at least one. -/
def pieces {α : Type} [BEq α] (c : α) : List α → List (List α)
  | [] => [[]]
  | d :: rest =>
    if d == c then [] :: pieces c rest
    else match pieces c rest with
      | first :: others => (d :: first) :: others
      | [] => [[d]]

/-- The parts of a text between occurrences of `c`, at least one. -/
def split (text : String) (c : Char) : List String := (pieces c text.toList).map String.ofList

/-- The byte offsets of the occurrences of a text that do not overlap, from left to right. `skip`
counts the characters that belong to the occurrence found last. -/
def occurrencesFrom (needle : List Char) : Nat → Nat → List Char → List Nat
  | _, _, [] => []
  | offset, skip + 1, c :: rest => occurrencesFrom needle (offset + c.utf8Size) skip rest
  | offset, 0, c :: rest =>
    if needle.isPrefixOf (c :: rest) then
      offset :: occurrencesFrom needle (offset + c.utf8Size) (needle.length - 1) rest
    else occurrencesFrom needle (offset + c.utf8Size) 0 rest

def occurrences (needle text : List Char) : List Nat := occurrencesFrom needle 0 0 text

/-- The characters between two byte offsets. -/
def bytesBetween (start stop : Nat) : Nat → List Char → List Char
  | _, [] => []
  | offset, c :: rest =>
    if stop ≤ offset then []
    else if start ≤ offset then c :: bytesBetween start stop (offset + c.utf8Size) rest
    else bytesBetween start stop (offset + c.utf8Size) rest

/-- Every occurrence of `c` replaced by `d`. -/
def replaceChar (text : String) (c d : Char) : String :=
  String.ofList (text.toList.map fun x => if x = c then d else x)

end ScriptSurvey.Text
