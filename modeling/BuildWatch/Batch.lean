import BuildWatch.Source
import BuildWatch.Text.Blank

/-!
# Batches of changes as lines

A line that starts with a minus sign names a path that was deleted, any other
line a source that changed, with or without a plus sign in front.  A blank
line ends a batch, unless the batch is empty, and so does the end of the
lines.
-/

namespace BuildWatch

/-- The changes of a batch that is not ended. -/
structure BatchReader where
  current : Changes
deriving DecidableEq

namespace BatchReader

/-- A reader that has read nothing. -/
def empty : BatchReader := ⟨KeyMap.empty⟩

/-- The path that a trimmed line names, and what is known of it. -/
def change : List Char → String × Option SourceInfo
  | '-' :: path => (String.ofList (Blank.trimList path), none)
  | '+' :: path =>
      (String.ofList (Blank.trimList path), some SourceInfo.source)
  | path => (String.ofList (Blank.trimList path), some SourceInfo.source)

/-- Ends the batch; there is none without changes. -/
def finish (reader : BatchReader) : Option Changes :=
  if reader.current.isEmpty then none else some reader.current

/-- Reads a line; gives the batch that it ends. -/
def push (reader : BatchReader) (line : String) :
    Option Changes × BatchReader :=
  match Blank.trimList line.toList with
  | [] => (reader.finish, empty)
  | trimmed =>
      let (path, info) := change trimmed
      (none, ⟨reader.current.insert path info⟩)

/-- Reads lines; gives what each of them ends. -/
def pushAll (reader : BatchReader) :
    List String → List (Option Changes) × BatchReader
  | [] => ([], reader)
  | line :: rest =>
      let (batch, next) := reader.push line
      let (batches, last) := pushAll next rest
      (batch :: batches, last)

/-- The batches of some lines, of which the last may lack its end. -/
def batches (lines : List String) : List Changes :=
  let (ended, last) := empty.pushAll lines
  ended.filterMap id ++ last.finish.toList

end BatchReader

end BuildWatch
