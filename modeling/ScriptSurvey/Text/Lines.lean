import ScriptSurvey.Text.Search

/-!
# Lines

A line ends with a line feed; a last line may end with the text. A carriage return right before
the line feed belongs to the line ending. The places where lines end are found by adding up bytes,
and every sum is the offset of a place between two characters of the text.
-/
namespace ScriptSurvey.Text

/-- Number of lines, counting a last line without line feed. -/
def countLines (bytes : List UInt8) : Nat :=
  let feeds := bytes.count 10
  match bytes.getLast? with
  | none => 0
  | some b => if b = 10 then feeds else feeds + 1

/-- The text cut behind each line feed. -/
def endedLines : List Char → List (List Char)
  | [] => []
  | c :: rest =>
    if c = '\n' then [c] :: endedLines rest
    else match endedLines rest with
      | [] => [[c]]
      | line :: others => (c :: line) :: others

def dropReturn (line : List Char) : List Char :=
  if line.getLast? = some '\r' then line.dropLast else line

/-- A carriage return stays when no line feed follows it. -/
def dropEnding (line : List Char) : List Char :=
  if line.getLast? = some '\n' then dropReturn line.dropLast else line

/-- The lines without their endings. A carriage return that ends the text is kept. -/
def lines (text : List Char) : List (List Char) := (endedLines text).map dropEnding

/-- A line with its number from one, and the place in the text where its content ends. -/
structure Line (text : String) where
  number : Nat
  content : List Char
  stop : text.Pos

/-- The text from its start through the content of the line. -/
def Line.through {text : String} (line : Line text) : List Char :=
  (text.sliceTo line.stop).copy.toList

/-- Bytes of the line ending that a text starts with. -/
def endingSize (text : String.Slice) : Nat :=
  if text.startsWith "\r\n" then 2 else if text.startsWith "\n" then 1 else 0

/-- Numbers lines, given the bytes in front of the first one. The ending of a line is read off the text
behind its content. None when a content would end outside of the text or inside of a character. -/
def placeLines? (text : String) (number start : Nat) : List (List Char) → Option (List (Line text))
  | [] => some []
  | content :: rest =>
    let size := (String.ofList content).utf8ByteSize
    (text.pos? ⟨start + size⟩).bind fun stop =>
      (placeLines? text (number + 1) (start + size + endingSize (text.sliceFrom stop)) rest).map
        (⟨number, content, stop⟩ :: ·)

def placedLines? (text : String) : Option (List (Line text)) :=
  placeLines? text 1 0 (lines text.toList)

/-! ## Every line has a place -/

/-- What may follow the content of a line that is followed by `rest`. -/
inductive IsEnding (content rest : List Char) : List Char → Prop
  | returnFeed : IsEnding content rest ['\r', '\n']
  | feed (h : content.getLast? ≠ some '\r') : IsEnding content rest ['\n']
  | textEnd (h : rest = []) : IsEnding content rest []

theorem endedLines_cons_of_ne {c : Char} (h : c ≠ '\n') (rest : List Char) :
    endedLines (c :: rest) = (c :: (endedLines rest).headD []) :: (endedLines rest).tail := by
  rw [endedLines, if_neg h]
  cases endedLines rest <;> rfl

/-- The first line of a text, its ending and what follows them. -/
theorem exists_first_line {text : List Char} (h : text ≠ []) :
    ∃ content ending rest, text = content ++ (ending ++ rest) ∧ '\n' ∉ content ∧
      IsEnding content rest ending ∧ endedLines text = (content ++ ending) :: endedLines rest := by
  induction text with
  | nil => exact absurd rfl h
  | cons c tail ih =>
    by_cases hc : c = '\n'
    · exact ⟨[], ['\n'], tail, by simp [hc], by simp, .feed (by simp), by simp [endedLines, hc]⟩
    · rw [endedLines_cons_of_ne hc]
      by_cases htail : tail = []
      · subst htail
        exact ⟨[c], [], [], rfl, by simpa using Ne.symm hc, .textEnd rfl, rfl⟩
      · obtain ⟨content, ending, rest, rfl, hnot, hending, hlines⟩ := ih htail
        rw [hlines]
        cases hending with
        | returnFeed =>
          exact ⟨c :: content, _, rest, rfl, by simp [hnot, Ne.symm hc], .returnFeed, rfl⟩
        | textEnd hrest =>
          exact ⟨c :: content, _, rest, rfl, by simp [hnot, Ne.symm hc], .textEnd hrest, rfl⟩
        | feed hlast =>
          by_cases hreturn : content = [] ∧ c = '\r'
          · -- the character is the carriage return of the ending
            obtain ⟨rfl, rfl⟩ := hreturn
            exact ⟨[], ['\r', '\n'], rest, rfl, by simp, .returnFeed, rfl⟩
          · refine ⟨c :: content, _, rest, rfl, by simp [hnot, Ne.symm hc], .feed ?_, rfl⟩
            cases content with
            | nil => simpa using fun e => hreturn ⟨rfl, e⟩
            | cons d more => simpa using hlast

theorem IsEnding.length_lt {content rest ending : List Char} (h : IsEnding content rest ending)
    (htext : content ++ (ending ++ rest) ≠ []) :
    rest.length < (content ++ (ending ++ rest)).length := by
  cases h with
  | returnFeed => simp only [List.length_append, List.length_cons]; omega
  | feed => simp only [List.length_append, List.length_cons]; omega
  | textEnd hrest =>
    subst hrest
    exact List.length_pos_iff.2 htext

theorem dropEnding_append {content rest ending : List Char} (hnot : '\n' ∉ content)
    (h : IsEnding content rest ending) : dropEnding (content ++ ending) = content := by
  cases h with
  | returnFeed => simp [dropEnding, dropReturn]
  | feed hlast => simp [dropEnding, dropReturn, hlast]
  | textEnd =>
    have hlast : content.getLast? ≠ some '\n' := fun e => hnot (List.mem_of_getLast? e)
    simp [dropEnding, hlast]

theorem endingSize_of_copy {slice : String.Slice} {content rest ending : List Char}
    (hslice : slice.copy = String.ofList (ending ++ rest)) (h : IsEnding content rest ending) :
    endingSize slice = (String.ofList ending).utf8ByteSize := by
  rw [endingSize]
  simp only [String.Slice.startsWith_string_iff, hslice, String.toList_ofList]
  cases h with
  | returnFeed => simp; decide
  | feed => simp; decide
  | textEnd hrest => simp [hrest]

/-- The bytes of a first part are the offset of a place, which cuts the text behind this part. -/
theorem exists_pos?_eq_some {text before after : String} (h : text = before ++ after) :
    ∃ stop, text.pos? before.rawEndPos = some stop ∧ stop.Splits before after := by
  subst h
  have hvalid : String.Pos.Raw.IsValid (before ++ after) before.rawEndPos :=
    String.Pos.Raw.isValid_iff_exists_append.2 ⟨before, after, rfl, rfl⟩
  refine ⟨(before ++ after).pos before.rawEndPos hvalid, ?_, rfl, rfl⟩
  rw [String.pos?, String.Slice.pos?,
    dif_pos (String.Pos.Raw.isValidForSlice_eq_true_iff.2 hvalid.toSlice)]
  rfl

/-- Placing the lines of a rest of the text succeeds. Each gets its number and its content, and its
place cuts the text behind this content. -/
theorem exists_placeLines? {text : String} (before tail : List Char)
    (htext : text.toList = before ++ tail) (number : Nat) :
    ∃ placed, placeLines? text number (String.ofList before).utf8ByteSize (lines tail) = some placed ∧
      placed.length = (endedLines tail).length ∧ ∀ i line, placed[i]? = some line →
        line.number = number + i ∧ (lines tail)[i]? = some line.content ∧
        line.through = before ++ ((endedLines tail).take i).flatten ++ line.content := by
  by_cases htail : tail = []
  · subst htail
    exact ⟨[], rfl, rfl, by simp⟩
  obtain ⟨content, ending, rest, rfl, hnot, hending, hlines⟩ := exists_first_line htail
  have hcut : text = String.ofList (before ++ content) ++ String.ofList (ending ++ rest) := by
    rw [← String.ofList_append, List.append_assoc, ← htext, String.ofList_toList]
  obtain ⟨stop, hstop, hsplits⟩ := exists_pos?_eq_some hcut
  obtain ⟨placed, hplaced, hlength, hspec⟩ := exists_placeLines? (before ++ (content ++ ending)) rest
    (by rw [htext, List.append_assoc, List.append_assoc]) (number + 1)
  have hbytes : (String.ofList before).utf8ByteSize + (String.ofList content).utf8ByteSize
      = (String.ofList (before ++ content)).utf8ByteSize := by
    rw [String.ofList_append, String.utf8ByteSize_append]
  have hnext : (String.ofList (before ++ content)).utf8ByteSize + (String.ofList ending).utf8ByteSize
      = (String.ofList (before ++ (content ++ ending))).utf8ByteSize := by
    rw [← String.utf8ByteSize_append, ← String.ofList_append, List.append_assoc]
  refine ⟨⟨number, content, stop⟩ :: placed, ?_, by simp [hlength, hlines], ?_⟩
  · have hpos : text.pos? ⟨(String.ofList (before ++ content)).utf8ByteSize⟩ = some stop := hstop
    rw [lines, hlines, List.map_cons, dropEnding_append hnot hending, placeLines?]
    simp only [hbytes, hpos, Option.bind_some,
      endingSize_of_copy hsplits.copy_sliceFrom_eq hending, hnext]
    rw [← lines, hplaced, Option.map_some]
  · rintro (_ | i) line hline
    · obtain rfl : Line.mk number content stop = line := by simpa using hline
      refine ⟨rfl, by simp [lines, hlines, dropEnding_append hnot hending], ?_⟩
      simp [Line.through, hsplits.copy_sliceTo_eq]
    · obtain ⟨hnumber, hcontent, hthrough⟩ := hspec i line (by simpa using hline)
      refine ⟨by omega, ?_, ?_⟩
      · rw [lines, hlines, List.map_cons, List.getElem?_cons_succ]
        exact hcontent
      · rw [hthrough, hlines]
        simp [List.append_assoc]
termination_by tail.length
decreasing_by
  subst_vars
  exact hending.length_lt htail

theorem isSome_placedLines? (text : String) : (placedLines? text).isSome := by
  obtain ⟨placed, hplaced, -⟩ := exists_placeLines? [] text.toList rfl 1
  exact Option.isSome_iff_exists.2 ⟨placed, hplaced⟩

/-- The lines of a text with their places. -/
def placedLines (text : String) : List (Line text) := (placedLines? text).get (isSome_placedLines? text)

end ScriptSurvey.Text
