/-
Module: VoltStream.Text.EventStream
Purpose: Event streams as a browser reads them, character by character, and the blocks of
  lines that a server writes for it.
Trusted boundary: human-reviewed spec of how an `EventSource` interprets a decoded stream
Main exports: Message, Reader, Reader.read, Reader.readAll, Line, Block, Block.text,
  Block.message, Reader.readAll_blocks, Reader.readAll_prefix
-/
import Mathlib

namespace VoltStream.Text.EventStream

/-! ### Reading -/

/-- An event that is dispatched. -/
structure Message where
  type : List Char
  data : List Char
  lastEventId : List Char
deriving Repr, DecidableEq

/-- The name of the field for the type of an event. -/
def eventName : List Char := ['e', 'v', 'e', 'n', 't']

/-- The name of the field for its data. -/
def dataName : List Char := ['d', 'a', 't', 'a']

/-- What the reader of a stream keeps: the line it is in, whether the character before
was a carriage return, and the buffers. -/
structure Reader where
  line : List Char
  afterReturn : Bool
  eventType : List Char
  data : List Char
  lastEventId : List Char
deriving Repr, DecidableEq

namespace Reader

/-- At the start of a stream. -/
def start : Reader where
  line := []
  afterReturn := false
  eventType := []
  data := []
  lastEventId := []

variable (reader : Reader)

/-- An empty line dispatches the event, if it has data, and clears the buffers. -/
def dispatch : Reader × List Message :=
  let cleared := { reader with eventType := [], data := [] }
  if reader.data = [] then (cleared, [])
  else
    (cleared,
      [{ type := if reader.eventType = [] then "message".toList else reader.eventType
         data :=
          if reader.data.getLast? = some '\n' then reader.data.dropLast else reader.data
         lastEventId := reader.lastEventId }])

/-- A field changes a buffer.  Of the others `retry` sets a delay, on which no message
depends. -/
def field (name value : List Char) : Reader :=
  if name = eventName then { reader with eventType := value }
  else if name = dataName then { reader with data := reader.data ++ value ++ ['\n'] }
  else if name = ['i', 'd'] then
    if '\x00' ∈ value then reader else { reader with lastEventId := value }
  else reader

/-- The value of a field starts after the colon, and after one space. -/
def fieldValue (line : List Char) : List Char :=
  match (line.dropWhile fun character => character ≠ ':').tail with
  | ' ' :: value => value
  | value => value

/-- The end of a line.  A line without a colon is a field with no value; a line that
starts with one is a comment, and the empty name is the name of no field. -/
def endLine : Reader × List Message :=
  let next := { reader with line := [] }
  if reader.line = [] then next.dispatch
  else
    (next.field (reader.line.takeWhile fun character => character ≠ ':')
      (fieldValue reader.line), [])

/-- One more character.  A line ends with a line feed, a carriage return, or both. -/
def read (character : Char) : Reader × List Message :=
  if character = '\n' then
    if reader.afterReturn then ({ reader with afterReturn := false }, [])
    else reader.endLine
  else if character = '\r' then { reader with afterReturn := true }.endLine
  else ({ reader with line := reader.line ++ [character], afterReturn := false }, [])

/-- The characters of a text, one after the other. -/
def readAll : List Char → Reader → Reader × List Message
  | [], reader => (reader, [])
  | character :: rest, reader =>
      let one := reader.read character
      let others := readAll rest one.1
      (others.1, one.2 ++ others.2)

/-- It does not matter in which pieces a text arrives. -/
theorem readAll_append (first second : List Char) (reader : Reader) :
    readAll (first ++ second) reader =
      ((readAll second (readAll first reader).1).1,
        (readAll first reader).2 ++ (readAll second (readAll first reader).1).2) := by
  induction first generalizing reader with
  | nil => rfl
  | cons character rest ih => simp only [List.cons_append, readAll, ih, List.append_assoc]

/-- Of a prefix of a text come the first of its messages. -/
theorem messages_prefix {part whole : List Char} (isPrefix : part <+: whole) (reader : Reader) :
    (readAll part reader).2 <+: (readAll whole reader).2 := by
  obtain ⟨rest, rfl⟩ := isPrefix
  rw [readAll_append]
  exact List.prefix_append ..

end Reader

/-! ### Writing -/

/-- The character does not end a line. -/
def IsInline (character : Char) : Prop := character ≠ '\n' ∧ character ≠ '\r'

instance : DecidablePred IsInline := fun _ => inferInstanceAs (Decidable (_ ∧ _))

/-- A text without line ends. -/
structure Line where
  text : List Char
  inline : ∀ character ∈ text, IsInline character

/-- What a server writes: an event with its type and its data in one line each, or a
comment; and then an empty line. -/
inductive Block where
  | event (type data : Line)
  | comment (text : Line)

namespace Block

/-- The text of a block. -/
def text : Block → List Char
  | .event type data =>
      eventName ++ ':' :: ' ' :: type.text ++ ['\n'] ++
        (dataName ++ ':' :: ' ' :: data.text ++ ['\n']) ++ ['\n']
  | .comment text => ':' :: text.text ++ ['\n'] ++ ['\n']

/-- What a block dispatches. -/
def message : Block → Option Message
  | .event type data =>
      some
        { type := if type.text = [] then "message".toList else type.text
          data := data.text
          lastEventId := [] }
  | .comment _ => none

end Block

namespace Reader

/-- Characters that end no line are added to it. -/
theorem readAll_inline {text : List Char} (inline : ∀ character ∈ text, IsInline character)
    (reader : Reader) (settled : reader.afterReturn = false) :
    readAll text reader = ({ reader with line := reader.line ++ text }, []) := by
  induction text generalizing reader with
  | nil => rw [readAll, List.append_nil]
  | cons character rest ih =>
      obtain ⟨⟨notFeed, notReturn⟩, restInline⟩ := List.forall_mem_cons.mp inline
      simp only [readAll, read, if_neg notFeed, if_neg notReturn]
      rw [ih restInline _ rfl, settled, List.append_assoc, List.singleton_append]
      rfl

/-- A line that starts a line, up to its line feed. -/
theorem readAll_line {text : List Char} (inline : ∀ character ∈ text, IsInline character)
    (reader : Reader) (settled : reader.afterReturn = false) (atStart : reader.line = []) :
    readAll (text ++ ['\n']) reader = { reader with line := text }.endLine := by
  rw [readAll_append, readAll_inline inline reader settled, atStart, List.nil_append]
  simp only [readAll, read, if_true, settled, Bool.false_eq_true, if_false, List.nil_append,
    List.append_nil]

/-- The name and the value of a line with a colon and a space after the name. -/
theorem field_of_line {name : List Char} (noColon : ∀ character ∈ name, character ≠ ':')
    (value : List Char) :
    ((name ++ ':' :: ' ' :: value).takeWhile fun character => character ≠ ':') = name ∧
      fieldValue (name ++ ':' :: ' ' :: value) = value := by
  have isName : ∀ character ∈ name, decide (character ≠ ':') = true :=
    fun character inName => decide_eq_true (noColon character inName)
  constructor
  · rw [List.takeWhile_append_of_pos isName, List.takeWhile_cons_of_neg (by simp),
      List.append_nil]
  · rw [fieldValue, List.dropWhile_append_of_pos isName, List.dropWhile_cons_of_neg (by simp)]
    rfl

/-- A line with a field, from the start of a line to its line feed. -/
theorem readAll_field {name value : List Char} (noColon : ∀ character ∈ name, character ≠ ':')
    (inlineName : ∀ character ∈ name, IsInline character)
    (inlineValue : ∀ character ∈ value, IsInline character)
    (reader : Reader) (settled : reader.afterReturn = false) (atStart : reader.line = []) :
    readAll (name ++ ':' :: ' ' :: value ++ ['\n']) reader = (reader.field name value, []) := by
  have inline : ∀ character ∈ name ++ ':' :: ' ' :: value, IsInline character := by
    intro character inLine
    rcases List.mem_append.mp inLine with inName | inRest
    · exact inlineName character inName
    · rcases List.mem_cons.mp inRest with rfl | inRest
      · decide
      · rcases List.mem_cons.mp inRest with rfl | inValue
        · decide
        · exact inlineValue character inValue
  obtain ⟨isName, isValue⟩ := field_of_line noColon value
  have same : { reader with line := [] } = reader := by rw [← atStart]
  rw [readAll_line inline reader settled atStart, endLine, if_neg (by simp)]
  dsimp only
  rw [isName, isValue, same]

/-- A comment line changes nothing. -/
theorem readAll_comment {text : List Char} (inline : ∀ character ∈ text, IsInline character)
    (reader : Reader) (settled : reader.afterReturn = false) (atStart : reader.line = []) :
    readAll (':' :: text ++ ['\n']) reader = (reader, []) := by
  have inlineAll : ∀ character ∈ ':' :: text, IsInline character :=
    List.forall_mem_cons.mpr ⟨by decide, inline⟩
  have same : { reader with line := [] } = reader := by rw [← atStart]
  rw [readAll_line inlineAll reader settled atStart, endLine, if_neg (by simp)]
  dsimp only
  rw [List.takeWhile_cons_of_neg (by simp), same]
  rfl

theorem eventName_noColon : ∀ character ∈ eventName, character ≠ ':' := by simp [eventName]

theorem eventName_inline : ∀ character ∈ eventName, IsInline character := by
  simp [eventName, IsInline]

theorem dataName_noColon : ∀ character ∈ dataName, character ≠ ':' := by simp [dataName]

theorem dataName_inline : ∀ character ∈ dataName, IsInline character := by
  simp [dataName, IsInline]

/-- All of a block but its last character dispatches nothing; the last one dispatches its
message and leaves the reader as it was. -/
theorem readAll_block_parts (block : Block) :
    ∃ body, block.text = body ++ ['\n'] ∧ (readAll body start).2 = [] ∧
      (readAll body start).1.read '\n' = (start, block.message.toList) := by
  cases block with
  | event type data =>
      have typeLine := readAll_field eventName_noColon eventName_inline type.inline start rfl rfl
      have dataLine := readAll_field dataName_noColon dataName_inline data.inline
        (start.field eventName type.text) rfl rfl
      refine ⟨_, rfl, ?_, ?_⟩
      · rw [readAll_append, typeLine, dataLine]
        rfl
      · rw [readAll_append, typeLine, dataLine]
        simp [read, endLine, dispatch, field, start, Block.message, eventName, dataName]
  | comment text =>
      have commentLine := readAll_comment text.inline start rfl rfl
      exact ⟨_, rfl, by rw [commentLine], by rw [commentLine]; rfl⟩

theorem readAll_block (block : Block) :
    readAll block.text start = (start, block.message.toList) := by
  obtain ⟨body, isText, silent, last⟩ := readAll_block_parts block
  rw [isText, readAll_append, silent]
  simp only [readAll, last, List.nil_append, List.append_nil]

/-- A stream of blocks dispatches the messages of the events among them, in order. -/
theorem readAll_blocks (blocks : List Block) :
    readAll (blocks.flatMap Block.text) start = (start, blocks.filterMap Block.message) := by
  induction blocks with
  | nil => rfl
  | cons block rest ih =>
      rw [List.flatMap_cons, readAll_append, readAll_block, ih, List.filterMap_cons]
      cases block.message <;> rfl

/-- However much of a stream arrives, it dispatches the messages of the blocks that have
arrived whole, and nothing of the one that has not. -/
theorem readAll_prefix {blocks : List Block} {received : List Char}
    (isPrefix : received <+: blocks.flatMap Block.text) :
    ∃ whole, whole <+: blocks ∧ whole.flatMap Block.text <+: received ∧
      (∀ next, whole ++ [next] <+: blocks → ¬ (whole ++ [next]).flatMap Block.text <+: received) ∧
      (readAll received start).2 = whole.filterMap Block.message := by
  induction blocks generalizing received with
  | nil =>
      obtain rfl := List.prefix_nil.mp isPrefix
      exact ⟨[], List.nil_prefix, List.nil_prefix, fun next more => by simp at more, rfl⟩
  | cons block rest ih =>
      rw [List.flatMap_cons] at isPrefix
      by_cases arrived : block.text <+: received
      · obtain ⟨later, rfl⟩ := arrived
        obtain ⟨whole, isWhole, inside, notNext, messages⟩ :=
          ih ((List.prefix_append_right_inj _).mp isPrefix)
        refine ⟨block :: whole, List.cons_prefix_cons.mpr ⟨rfl, isWhole⟩, ?_, ?_, ?_⟩
        · rw [List.flatMap_cons]
          exact (List.prefix_append_right_inj _).mpr inside
        · intro next more
          rw [List.cons_append, List.flatMap_cons, List.prefix_append_right_inj]
          exact notNext next (List.cons_prefix_cons.mp more).2
        · rw [readAll_append, readAll_block, messages, List.filterMap_cons]
          cases block.message <;> rfl
      · have within : received <+: block.text := by
          rcases List.prefix_or_prefix_of_prefix isPrefix (List.prefix_append block.text _) with
            shorter | longer
          · exact shorter
          · exact absurd longer arrived
        obtain ⟨body, isText, silent, -⟩ := readAll_block_parts block
        have inBody : received <+: body := by
          rw [isText] at within
          rcases List.prefix_concat_iff.mp within with whole | part
          · exact absurd (by rw [whole, isText]) arrived
          · exact part
        have nothing := messages_prefix inBody start
        rw [silent] at nothing
        refine ⟨[], List.nil_prefix, List.nil_prefix, ?_, List.prefix_nil.mp nothing⟩
        intro next more
        obtain ⟨rfl, -⟩ := List.cons_prefix_cons.mp more
        simpa using arrived

end Reader

end VoltStream.Text.EventStream
