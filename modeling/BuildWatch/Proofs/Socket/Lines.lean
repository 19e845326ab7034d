import BuildWatch.Proofs.Json.Printable
import BuildWatch.Socket.LineChannel

/-!
# Lines of bytes and what they say

Bytes are some lines, each ended by a line feed, and a rest that is not ended
yet.  Appending bytes goes on with the rest and leaves the lines before it
alone, so nothing that a line says depends on another.  A message is one line,
which says the message as it is read back from its text.
-/

namespace BuildWatch

namespace LineChannel

/-! ## Splitting -/

/-- The lines of some bytes that are ended. -/
def lines (bytes : List UInt8) : List (List UInt8) :=
  (bytes.splitOn lineFeed).dropLast

/-- What stands behind the last line that is ended. -/
def rest (bytes : List UInt8) : List UInt8 :=
  (bytes.splitOn lineFeed).getLast (List.splitOn_ne_nil _ _)

theorem lines_of_not_mem {bytes : List UInt8} (open_ : lineFeed ∉ bytes) :
    lines bytes = [] := by
  simp [lines, List.splitOn_eq_singleton open_]

theorem rest_of_not_mem {bytes : List UInt8} (open_ : lineFeed ∉ bytes) :
    rest bytes = bytes := by
  simp [rest, List.splitOn_eq_singleton open_]

theorem lines_append_lineFeed
    {line : List UInt8} (whole : lineFeed ∉ line) (after : List UInt8) :
    lines (line ++ lineFeed :: after) = line :: lines after := by
  rw [lines, List.splitOn_append_cons_self_of_not_mem whole,
    List.dropLast_cons_of_ne_nil (List.splitOn_ne_nil _ _), lines]

theorem rest_append_lineFeed
    {line : List UInt8} (whole : lineFeed ∉ line) (after : List UInt8) :
    rest (line ++ lineFeed :: after) = rest after := by
  simp only [rest, List.splitOn_append_cons_self_of_not_mem whole,
    List.getLast_cons (List.splitOn_ne_nil _ _)]

/-- Bytes without a line feed have no first line. -/
theorem splitLine_eq_none_iff {bytes : List UInt8} :
    splitLine bytes = none ↔ lineFeed ∉ bytes := by
  induction bytes with
  | nil => simp [splitLine]
  | cons byte more ih =>
      by_cases ends : byte = lineFeed
      · simp [splitLine, ends]
      · simp [splitLine, ends, ih, Ne.symm ends]

theorem of_splitLine_eq_some
    {bytes line after : List UInt8}
    (split : splitLine bytes = some (line, after)) :
    lineFeed ∉ line ∧ bytes = line ++ lineFeed :: after := by
  induction bytes generalizing line with
  | nil => simp [splitLine] at split
  | cons byte more ih =>
      by_cases ends : byte = lineFeed
      · obtain ⟨rfl, rfl⟩ : [] = line ∧ more = after := by
          simpa [splitLine, ends] using split
        simp [ends]
      · rw [splitLine, if_neg ends] at split
        obtain ⟨⟨front, behind⟩, first, equal⟩ :=
          Option.map_eq_some_iff.mp split
        obtain ⟨rfl, rfl⟩ := Prod.mk.inj equal
        obtain ⟨whole, rfl⟩ := ih first
        exact ⟨by simp [Ne.symm ends, whole], rfl⟩

/-- Bytes have no line feed, or they start with a line. -/
theorem line_cases (bytes : List UInt8) :
    lineFeed ∉ bytes ∨
      ∃ line after,
        lineFeed ∉ line ∧ bytes = line ++ lineFeed :: after := by
  cases split : splitLine bytes with
  | none => exact .inl (splitLine_eq_none_iff.mp split)
  | some parts => exact .inr ⟨_, _, of_splitLine_eq_some split⟩

theorem lines_append_and_rest_append (bytes more : List UInt8) :
    lines (bytes ++ more) = lines bytes ++ lines (rest bytes ++ more) ∧
      rest (bytes ++ more) = rest (rest bytes ++ more) := by
  induction size : bytes.length using Nat.strongRecOn generalizing bytes with
  | ind count ih =>
      rcases line_cases bytes with open_ | ⟨line, after, whole, rfl⟩
      · simp [lines_of_not_mem open_, rest_of_not_mem open_]
      · have shorter : after.length < count := by
          rw [← size, List.length_append, List.length_cons]
          omega
        obtain ⟨linesAfter, restAfter⟩ := ih _ shorter after rfl
        rw [List.append_assoc, List.cons_append, lines_append_lineFeed whole,
          rest_append_lineFeed whole, lines_append_lineFeed whole,
          rest_append_lineFeed whole, linesAfter, restAfter]
        exact ⟨rfl, rfl⟩

/-- What is appended goes on with the rest. -/
theorem lines_append (bytes more : List UInt8) :
    lines (bytes ++ more) = lines bytes ++ lines (rest bytes ++ more) :=
  (lines_append_and_rest_append bytes more).1

theorem rest_append (bytes more : List UInt8) :
    rest (bytes ++ more) = rest (rest bytes ++ more) :=
  (lines_append_and_rest_append bytes more).2

/-! ## What is received for bytes -/

/-- What the lines of some bytes are received as. -/
def results (bytes : List UInt8) : List (Except TransportError Message) :=
  (lines bytes).filterMap lineResult

/-- What their rest is received as, if nothing more comes. -/
def lastResult (bytes : List UInt8) : List (Except TransportError Message) :=
  (lineResult (rest bytes)).toList

theorem results_append (bytes more : List UInt8) :
    results (bytes ++ more) =
      results bytes ++ results (rest bytes ++ more) := by
  rw [results, lines_append, List.filterMap_append, results, results]

/-! ## Messages -/

/-- The text of an object stands between braces. -/
theorem printMoreFields_eq_append (fields : List (String × Json.Value)) :
    ∃ front, Json.Value.printMoreFields fields = front ++ ['}'] := by
  induction fields with
  | nil => exact ⟨[], rfl⟩
  | cons field more ih =>
      obtain ⟨front, behind⟩ := ih
      refine ⟨',' :: Json.quote field.1 ++ ':' :: field.2.print ++ front, ?_⟩
      rw [Json.Value.printMoreFields, behind, ← List.append_assoc]

theorem print_object_eq (fields : List (String × Json.Value)) :
    ∃ inner, (Json.Value.object fields).print = '{' :: inner ++ ['}'] := by
  cases fields with
  | nil => exact ⟨[], rfl⟩
  | cons field more =>
      obtain ⟨front, behind⟩ := printMoreFields_eq_append more
      refine ⟨Json.quote field.1 ++ ':' :: field.2.print ++ front, ?_⟩
      rw [Json.Value.print, Json.Value.printFields, behind,
        ← List.append_assoc]
      rfl

theorem encode_eq_braces (message : Message) :
    ∃ inner, message.encode = String.ofList ('{' :: inner ++ ['}']) := by
  obtain ⟨fields, shape⟩ :
      ∃ fields, message.toJson.value = Json.Value.object fields :=
    ⟨_, rfl⟩
  obtain ⟨inner, text⟩ := print_object_eq fields
  exact ⟨inner, by rw [Message.encode, Json.text, shape, text]⟩

/-- Nothing is trimmed from the text of a message. -/
theorem trim_encode (message : Message) :
    Blank.trim message.encode = message.encode := by
  obtain ⟨inner, encoded⟩ := encode_eq_braces message
  have starts : Blank.isBlank '{' = false := by decide
  have ends : Blank.isBlank '}' = false := by decide
  rw [encoded, Blank.trim, String.toList_ofList, Blank.trimList,
    List.cons_append, List.dropWhile_cons_of_neg (by simp [starts]),
    Blank.trimEnd, ← List.cons_append, List.reverse_append,
    List.reverse_singleton, List.singleton_append,
    List.dropWhile_cons_of_neg (by simp [ends]), ← List.singleton_append,
    List.reverse_append, List.reverse_reverse, List.reverse_singleton]

theorem encode_ne_empty (message : Message) : message.encode ≠ "" := by
  obtain ⟨inner, encoded⟩ := encode_eq_braces message
  rw [encoded]
  intro empty
  have none := congrArg String.toList empty
  simp at none

/-! ## Bytes of a text -/

theorem toList_loop (bytes : ByteArray) (index : Nat) (read : List UInt8) :
    ByteArray.toList.loop bytes index read =
      read.reverse ++ bytes.data.toList.drop index := by
  induction left : bytes.size - index generalizing index read with
  | zero =>
      have past : bytes.data.toList.length ≤ index := by
        simp only [Array.length_toList]
        exact Nat.sub_eq_zero_iff_le.mp left
      have stop : ¬ index < bytes.size := by omega
      rw [ByteArray.toList.loop, if_neg stop, List.drop_eq_nil_of_le past,
        List.append_nil]
  | succ left ih =>
      have inside : index < bytes.size := by omega
      have inList : index < bytes.data.toList.length := inside
      have here : bytes.get! index = bytes.data.toList[index] := by
        simp [ByteArray.get!, inside]
      rw [ByteArray.toList.loop, if_pos inside, ih _ _ (by omega),
        List.drop_eq_getElem_cons inList, List.reverse_cons,
        List.append_assoc, List.singleton_append, here]

/-- The bytes of an array, in the order of their places. -/
theorem toList_eq_data (bytes : ByteArray) :
    bytes.toList = bytes.data.toList := by
  rw [ByteArray.toList, toList_loop]
  rfl

theorem fromUTF8?_toUTF8 (text : String) :
    String.fromUTF8? ⟨text.toUTF8.toList.toArray⟩ = some text := by
  have same : (⟨text.toUTF8.toList.toArray⟩ : ByteArray) = text.toByteArray := by
    rw [toList_eq_data]
    rfl
  rw [same, String.fromUTF8?, dif_pos text.isValidUTF8]
  rfl

theorem lineFeed_ne_ofNat
    {number : Nat} (large : 10 < number) (small : number < 256) :
    lineFeed ≠ UInt8.ofNat number := by
  intro equal
  have same := congrArg UInt8.toNat equal
  rw [UInt8.toNat_ofNat_of_lt' small] at same
  have ten : lineFeed.toNat = 10 := rfl
  omega

/-- No other character is written with the byte of a line feed. -/
theorem lineFeed_not_mem_utf8EncodeChar
    {character : Char} (printable : Printable character) :
    lineFeed ∉ String.utf8EncodeChar character := by
  have control : 0x20 ≤ character.val.toNat := printable
  have largest : character.val.toNat < 0x110000 := by
    have valid := character.valid
    simp only [UInt32.isValidChar, Nat.isValidChar] at valid
    omega
  unfold String.utf8EncodeChar
  dsimp only
  repeat' split
  all_goals
    simp only [List.mem_cons, List.not_mem_nil, or_false, not_or]
    repeat' apply And.intro
    all_goals
      refine lineFeed_ne_ofNat ?_ ?_
      all_goals omega

theorem lineFeed_not_mem_toUTF8
    {text : List Char} (printable : ∀ character ∈ text, Printable character) :
    lineFeed ∉ (String.ofList text).toUTF8.toList := by
  have bytes :
      (String.ofList text).toUTF8.toList =
        text.flatMap String.utf8EncodeChar := by
    rw [toList_eq_data, String.toUTF8_eq_toByteArray,
      String.toByteArray_ofList, List.utf8Encode,
      List.toList_data_toByteArray]
  rw [bytes, List.mem_flatMap]
  rintro ⟨character, member, feed⟩
  exact lineFeed_not_mem_utf8EncodeChar (printable character member) feed

/-! ## Lines of messages -/

theorem lineFeed_not_mem_encode (message : Message) :
    lineFeed ∉ message.encode.toUTF8.toList :=
  lineFeed_not_mem_toUTF8 (Json.Value.printable_print message.toJson.value)

/-- A message is received as it is read back from its text. -/
theorem lineResult_encode (message : Message) :
    lineResult message.encode.toUTF8.toList =
      some ((Message.decode message.encode).mapError
        TransportError.decode) := by
  rw [lineResult, fromUTF8?_toUTF8]
  simp [trim_encode, encode_ne_empty]

/-- Messages that are read back as they were are received as they are. -/
theorem results_messages
    {messages : List Message}
    (kept : ∀ message ∈ messages,
      Message.decode message.encode = .ok message) :
    results (messages.flatMap messageLine) = messages.map .ok ∧
      lastResult (messages.flatMap messageLine) = [] := by
  induction messages with
  | nil => decide
  | cons message more ih =>
      obtain ⟨first, others⟩ := List.forall_mem_cons.mp kept
      obtain ⟨resultsOthers, lastOthers⟩ := ih others
      have feed := lineFeed_not_mem_encode message
      constructor
      · rw [List.flatMap_cons, messageLine, List.append_assoc,
          List.singleton_append, results, lines_append_lineFeed feed,
          List.filterMap_cons, lineResult_encode, first, List.map_cons,
          ← resultsOthers]
        rfl
      · rw [List.flatMap_cons, messageLine, List.append_assoc,
          List.singleton_append, lastResult, rest_append_lineFeed feed]
        exact lastOthers

end LineChannel

end BuildWatch
