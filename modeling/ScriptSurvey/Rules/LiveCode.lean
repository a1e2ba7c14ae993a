/-!
# Live code on a line

A line is scanned byte by byte from its start. Quotes open and close strings, a backslash in a string
takes the next byte with it, and two slashes outside of strings begin a comment. Everything outside
of strings and comments is live.
-/
namespace ScriptSurvey.LiveCode

def slash : UInt8 := 47

def backslash : UInt8 := 92

/-- The double quote, the single quote and the back quote. -/
def quotes : List UInt8 := [34, 39, 96]

/-- Scans `count` bytes, with the quote of the string that is open. A comment that begins among them
makes the rest dead. A backslash in a string is passed over together with the next byte, so the bytes
may end between the two. -/
def isLiveFrom (quote? : Option UInt8) (count : Nat) (line : List UInt8) : Bool :=
  match count, line with
  | 0, _ | _, [] => quote?.isNone
  | count + 1, byte :: rest =>
    match quote? with
    | none =>
      if quotes.contains byte then isLiveFrom (some byte) count rest
      else if byte == slash && rest.head? == some slash then false
      else isLiveFrom none count rest
    | some quote =>
      if byte == backslash then
        match count, rest with
        | count + 1, _ :: rest => isLiveFrom (some quote) count rest
        | _, _ => false
      else isLiveFrom (if byte == quote then none else some quote) count rest

/-- The place in front of the byte at `offset` is live. -/
def isLive (line : List UInt8) (offset : Nat) : Bool := isLiveFrom none offset line

end ScriptSurvey.LiveCode
