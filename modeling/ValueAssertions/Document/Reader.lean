import ValueAssertions.Document.Token

/-!
# Reading documents

The tokens of a written document are put together into a tree, with the arrays
and objects that are still open on a stack.  `Document.parse?` keeps repeated
keys; `Document.read?` settles them.  A tree whose containers are nested too
deeply is refused.
-/

namespace ValueAssertions.Document

/-- A container that is still open around the value that comes next. -/
inductive Frame where
  /-- An array with the items so far, the last one first. -/
  | array (reversed : List Document)
  /-- An object with the members so far, the last one first, and the key whose
  value comes next. -/
  | object (reversed : List (String × Document)) (key : String)

/-- What the tokens so far ask for. -/
inductive Expected where
  /-- A value. -/
  | value
  /-- A value, or the end of an array that has just been opened. -/
  | valueOrClose
  /-- A key, or the end of an object that has just been opened. -/
  | keyOrClose
  /-- A key of an object with the members so far. -/
  | key (reversed : List (String × Document))
  /-- A colon after a key. -/
  | colon (reversed : List (String × Document)) (key : String)
  /-- What comes after a value that is complete. -/
  | after (document : Document)

/-- Containers can be nested this deep, less one. -/
def depthLimit : Nat := 128

/-- The document of a token that is a value by itself. -/
def ofToken? : Token → Option Document
  | .null => some .null
  | .bool value => some (.bool value)
  | .number numeral => some (.number numeral)
  | .string text => some (.string text)
  | _ => none

/-- The step from a place where a value may begin. -/
def beginValue? (frames : List Frame) (token : Token) : Option (List Frame × Expected) :=
  match token with
  | .openArray =>
    if frames.length + 1 < depthLimit then some (.array [] :: frames, .valueOrClose) else none
  | .openObject =>
    if frames.length + 1 < depthLimit then some (frames, .keyOrClose) else none
  | token => (ofToken? token).map fun document => (frames, .after document)

/-- The step that one token makes. -/
def advance? : List Frame → Expected → Token → Option (List Frame × Expected)
  | frames, .value, token => beginValue? frames token
  | .array [] :: frames, .valueOrClose, .closeArray => some (frames, .after (.array []))
  | frames, .valueOrClose, token => beginValue? frames token
  | frames, .keyOrClose, .closeObject => some (frames, .after (.object []))
  | frames, .keyOrClose, .string key => some (frames, .colon [] key)
  | frames, .key reversed, .string key => some (frames, .colon reversed key)
  | frames, .colon reversed key, .colon => some (.object reversed key :: frames, .value)
  | .array reversed :: frames, .after document, .comma =>
    some (.array (document :: reversed) :: frames, .value)
  | .array reversed :: frames, .after document, .closeArray =>
    some (frames, .after (.array (document :: reversed).reverse))
  | .object reversed key :: frames, .after document, .comma =>
    some (frames, .key ((key, document) :: reversed))
  | .object reversed key :: frames, .after document, .closeObject =>
    some (frames, .after (.object ((key, document) :: reversed).reverse))
  | _, _, _ => none

/-- Puts tokens together until they end after one whole document. -/
def assemble? : List Frame → Expected → List Token → Option Document
  | [], .after document, [] => some document
  | _, _, [] => none
  | frames, expected, token :: rest => do
    let (frames, expected) ← advance? frames expected token
    assemble? frames expected rest

/-- The tree of a written document, repeated keys included. -/
def parse? (text : String) : Option Document := do
  assemble? [] .value (← Token.scan? .nothing text.toList)

/-- The document that a text writes. -/
def read? (text : String) : Option Document :=
  (parse? text).map settle

end ValueAssertions.Document
