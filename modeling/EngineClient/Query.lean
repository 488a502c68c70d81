import EngineClient.Text.Blank

/-! Query expressions, and the ones that look up a single observable. -/

namespace EngineClient

/-- A query expression without blanks around it; the empty one matches every event. -/
structure Query where
  /-- The expression. -/
  expression : String
deriving DecidableEq, Repr

namespace Query

/-- The query of an expression, blanks around it dropped. -/
def ofText (text : String) : Query :=
  ⟨Text.trim text⟩

/-- The query that matches every event. -/
def all : Query := ⟨""⟩

/-- Whether the query matches every event. -/
def isMatchAll (query : Query) : Bool :=
  query.expression = ""

end Query

/-- The types of observables that can be looked up. -/
inductive ObservableType where
  /-- An address. -/
  | ip
  /-- A range of addresses. -/
  | subnet
  /-- A digest. -/
  | hash
  /-- A domain name. -/
  | domain
deriving DecidableEq, Repr

namespace ObservableType

/-- The name of the type. -/
def name : ObservableType → String
  | .ip => "ip"
  | .subnet => "subnet"
  | .hash => "hash"
  | .domain => "domain"

/-- The type that a hint names in any letter case, blanks around it dropped. -/
def ofHint? (hint : String) : Option ObservableType :=
  let word := Text.lowerAscii (Text.trim hint)
  [ip, subnet, hash, domain].find? fun type => type.name = word

end ObservableType

/-- A condition on events. -/
inductive Predicate where
  /-- Some address of the event equals the value. -/
  | ipEquals (value : String)
  /-- Some address of the event lies in the value. -/
  | ipIn (value : String)
  /-- The value occurs in the event. -/
  | literal (value : String)
  /-- Any event. -/
  | matchAll
deriving DecidableEq, Repr

namespace Predicate

/-- The condition that an observable of a type occurs, or none where its type is unknown. -/
def forObservable (type : Option ObservableType) (value : String) : Predicate :=
  let value := Text.trim value
  match type with
  | some .ip => .ipEquals value
  | some .subnet => .ipIn value
  | some .hash => .literal value
  | some .domain => .literal value
  | none => .matchAll

/-- Whether the condition holds of any event by its form. -/
def isMatchAll : Predicate → Bool
  | .matchAll => true
  | _ => false

/-- The condition as a query expression. -/
def expression : Predicate → String
  | .ipEquals value => ":ip == " ++ value
  | .ipIn value => ":ip in " ++ value
  | .literal value => value
  | .matchAll => ""

/-- The query that asks for the events with the condition. -/
def toQuery (predicate : Predicate) : Query :=
  Query.ofText predicate.expression

end Predicate

end EngineClient
