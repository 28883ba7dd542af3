import ValueAssertions.Value.Document

/-!
# Contexts

A context gives values to the names of tokens, which placeholders and block
expressions of a template refer to.
-/

namespace ValueAssertions

/-- Why a context cannot be built. -/
inductive ContextError where
  /-- The data for it is no object but has the type with this tag. -/
  | notObject (tag : String)
deriving DecidableEq

/-- The text of an error. -/
def ContextError.message : ContextError → String
  | .notObject tag => "Invalid context: expected an object, got " ++ tag

/-- The values of named tokens, each name once. -/
structure Context where
  /-- The tokens. -/
  tokens : List (String × Value)

namespace Context

/-- The context without tokens. -/
def empty : Context := ⟨[]⟩

/-- The context with a value for a name, in the place of one that it has. -/
def insert (context : Context) (name : String) (value : Value) : Context :=
  ⟨setKey name value context.tokens⟩

/-- The context with a value for a name, if there is a value. -/
def insert? (context : Context) (name : String) (value : Option Value) : Context :=
  match value with
  | some value => context.insert name value
  | none => context

/-- The value of a name. -/
def get? (context : Context) (name : String) : Option Value :=
  lookup? name context.tokens

/-- The value of a name, which is absent when the context has none. -/
def value (context : Context) (name : String) : Value :=
  (context.get? name).getD .undefined

/-- Whether the context has a value for a name. -/
def contains (context : Context) (name : String) : Bool :=
  (context.get? name).isSome

/-- How many tokens the context has. -/
def size (context : Context) : Nat :=
  context.tokens.length

/-- Whether the context has no tokens. -/
def isEmpty (context : Context) : Bool :=
  context.tokens.isEmpty

/-- The context of pairs; of two with one name the later counts. -/
def ofList (tokens : List (String × Value)) : Context :=
  tokens.foldl (fun context token => context.insert token.1 token.2) empty

/-- The context of the members of an object. -/
def ofDocument : Document → Except ContextError Context
  | .object members => .ok (ofList (Value.ofMembers members))
  | document => .error (.notObject (Value.ofDocument document).typeTag)

end Context

end ValueAssertions
