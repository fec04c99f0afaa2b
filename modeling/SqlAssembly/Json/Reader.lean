import SqlAssembly.Json.Token

/-! # Reading JSON

The tokens of a JSON text are taken one by one.  The reader holds the arrays and objects
that are still open, innermost first, and what must come next; a text is a JSON value
when after its last token one value is finished and nothing is open.  At most
`depthLimit` arrays and objects may be open at a time.
-/

namespace SqlAssembly.Json

/-- The number of arrays and objects that may be open at a time. -/
def depthLimit : Nat := 127

/-- An array or object that is still open, with what it holds so far, last first. -/
inductive Frame where
  | array (items : List Json)
  | object (members : List (String × Json)) (key : String)

inductive Expected where
  -- A value.
  | value
  -- The first element of an array, or its end.
  | itemOrEnd
  -- The first key of an object, or its end.
  | keyOrEnd
  -- A key.
  | key
  -- The colon after a key.
  | colon
  -- A comma, or the end of what is open.
  | commaOrEnd
  -- Nothing: the text holds this value.
  | nothing (value : Json)

abbrev ReaderState := List Frame × Expected

/-- The state after a value is finished: it goes into what is open around it. -/
def finish (value : Json) : List Frame → ReaderState
  | [] => ([], .nothing value)
  | .array items :: outer => (.array (value :: items) :: outer, .commaOrEnd)
  | .object members key :: outer => (.object ((key, value) :: members) key :: outer, .commaOrEnd)

def startValue (token : Token) (outer : List Frame) : Option ReaderState :=
  match token with
  | .atom value => some (finish value outer)
  | .text s => some (finish (.text s) outer)
  | .openArray =>
    if outer.length < depthLimit then some (.array [] :: outer, .itemOrEnd) else none
  | .openObject =>
    if outer.length < depthLimit then some (.object [] "" :: outer, .keyOrEnd) else none
  | _ => none

def advance : ReaderState → Token → Option ReaderState
  | (outer, .value), token => startValue token outer
  | (.array items :: outer, .itemOrEnd), .closeArray => some (finish (.array items.reverse) outer)
  | (outer, .itemOrEnd), token => startValue token outer
  | (.object members _ :: outer, .keyOrEnd), .closeObject =>
    some (finish (.object members.reverse) outer)
  | (.object members _ :: outer, .keyOrEnd), .text key =>
    some (.object members key :: outer, .colon)
  | (.object members _ :: outer, .key), .text key => some (.object members key :: outer, .colon)
  | (outer, .colon), .colon => some (outer, .value)
  | (.array items :: outer, .commaOrEnd), .comma => some (.array items :: outer, .value)
  | (.array items :: outer, .commaOrEnd), .closeArray => some (finish (.array items.reverse) outer)
  | (.object members key :: outer, .commaOrEnd), .comma =>
    some (.object members key :: outer, .key)
  | (.object members _ :: outer, .commaOrEnd), .closeObject =>
    some (finish (.object members.reverse) outer)
  | _, _ => none

def read? (s : String) : Option Json := do
  let tokens ← tokens? s
  let final ← tokens.foldlM advance (([], .value) : ReaderState)
  match final with
  | ([], .nothing value) => some value
  | _ => none

end SqlAssembly.Json
