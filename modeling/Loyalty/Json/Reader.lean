import Loyalty.Json.Token

/-!
# Loyalty.Json.Reader

JSON values read from text or bytes.

The reader is a push-down machine over tokens: a stack of the arrays and
objects that are open, and what may come next.  It takes one token at a time
(`step`), so nesting of any depth costs no more than a longer stack, and it
stops at the token that completes the outermost value.

`readPrefix?` leaves what follows the value unread; `read?` and `readBytes?`
allow nothing but blanks behind it.
-/

namespace Loyalty.Json

open Text.Utf8

/-- An array or object that is open, its parts so far newest first. -/
inductive Frame
  | array (items : List Json)
  | object (fields : List (Option String × Json)) (key : Option String)

/-- What may come next. -/
inductive Expected
  /-- A value. -/
  | value
  /-- The first item of an array, or its end. -/
  | itemOrEnd
  /-- The name of a field, in an object with these fields. -/
  | key (fields : List (Option String × Json))
  /-- The name of the first field of an object, or its end. -/
  | keyOrEnd
  /-- The colon behind the name of a field. -/
  | colon (fields : List (Option String × Json)) (key : Option String)
  /-- A comma or the end, behind a part of the innermost array or object. -/
  | separator

/-- The arrays and objects that are open, innermost first, and what may come next. -/
structure State where
  frames : List Frame
  expected : Expected

/-- The outermost value complete, or the machine still running. -/
inductive Progress
  | running (state : State)
  | complete (value : Json)

/-- A value put into the innermost array or object, or given as the result. -/
def deliver (value : Json) : List Frame → Progress
  | [] => .complete value
  | .array items :: frames => .running ⟨.array (value :: items) :: frames, .separator⟩
  | .object fields key :: frames =>
      .running ⟨.object ((key, value) :: fields) key :: frames, .separator⟩

/-- A token where a value may start. -/
def startValue (frames : List Frame) : Token → Option Progress
  | .null => some (deliver .null frames)
  | .bool b => some (deliver (.bool b) frames)
  | .number n => some (deliver (.number n) frames)
  | .string s => some (deliver (.string s) frames)
  | .openArray => some (.running ⟨.array [] :: frames, .itemOrEnd⟩)
  | .openObject => some (.running ⟨frames, .keyOrEnd⟩)
  | _ => none

/-- One token. -/
def step (s : State) (t : Token) : Option Progress :=
  match s.expected, t with
  | .value, t => startValue s.frames t
  | .itemOrEnd, .closeArray =>
    match s.frames with
    | .array items :: frames => some (deliver (.array items.reverse) frames)
    | _ => none
  | .itemOrEnd, t => startValue s.frames t
  | .keyOrEnd, .closeObject => some (deliver (.object []) s.frames)
  | .keyOrEnd, .string key => some (.running ⟨s.frames, .colon [] key⟩)
  | .key fields, .string key => some (.running ⟨s.frames, .colon fields key⟩)
  | .colon fields key, .colon => some (.running ⟨.object fields key :: s.frames, .value⟩)
  | .separator, .comma =>
    match s.frames with
    | .array items :: frames => some (.running ⟨.array items :: frames, .value⟩)
    | .object fields _ :: frames => some (.running ⟨frames, .key fields⟩)
    | [] => none
  | .separator, .closeArray =>
    match s.frames with
    | .array items :: frames => some (deliver (.array items.reverse) frames)
    | _ => none
  | .separator, .closeObject =>
    match s.frames with
    | .object fields _ :: frames => some (deliver (.object fields.reverse) frames)
    | _ => none
  | _, _ => none

/-- The machine run from a state: the outermost value and the input behind it. -/
def run (s : State) (input : List Symbol) : Option (Json × List Symbol) :=
  match Token.next? input with
  | none => none
  | some (t, rest) =>
    match step s t with
    | none => none
    | some (.complete value) => some (value, rest.val)
    | some (.running s) => run s rest.val
termination_by input.length
decreasing_by exact rest.property

/-- What is left behind a value is no longer than what was read. -/
theorem run_length {s : State} {input rest : List Symbol} {value : Json}
    (h : run s input = some (value, rest)) :
    rest.length ≤ input.length := by
  fun_induction run s input with
  | case1 => cases h
  | case2 => cases h
  | case3 s input t behind ht v hv =>
    cases h
    exact Nat.le_of_lt behind.property
  | case4 s input t behind ht s' hv ih => exact Nat.le_trans (ih h) (Nat.le_of_lt behind.property)

/-- The value in front of an input, and what follows it. -/
def readPrefix? (input : List Symbol) : Option (Json × List Symbol) := run ⟨[], .value⟩ input

/-- What is left behind a document is no longer than what was read. -/
theorem readPrefix?_length {input rest : List Symbol} {value : Json}
    (h : readPrefix? input = some (value, rest)) :
    rest.length ≤ input.length := run_length h

/-- The value that an input is, with blanks around it. -/
def readSymbols? (input : List Symbol) : Option Json :=
  match readPrefix? input with
  | some (value, rest) => if (skipBlanks rest).isEmpty then some value else none
  | none => none

/-- The value that a text is. -/
def read? (s : String) : Option Json := readSymbols? (ofText s)

/-- The value that bytes are. -/
def readBytes? (bytes : List UInt8) : Option Json := readSymbols? (symbols bytes)

end Loyalty.Json
