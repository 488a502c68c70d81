import EngineClient.Dialect

/-! The arguments of the control program's command lines, and which of them are options. -/

namespace EngineClient

/-- Whether an argument begins as an option does. -/
def Invocation.isOption (text : String) : Bool :=
  ['-', '-'].isPrefixOf text.toList

/-- The arguments that begin as an option does, in order. -/
def Invocation.options (invocation : Invocation) : List String :=
  invocation.args.filter isOption

namespace Dialect

open Invocation (isOption)

/-- The option that names the node. -/
def endpointOption (endpoint : Endpoint) : String :=
  "--endpoint=" ++ endpoint.display

/-- The option that names the mode, if it is named. -/
def modeOptions : ExportMode → List String
  | .historical => []
  | .continuous => ["--continuous"]
  | .unified => ["--unified"]

/-- The option that names the greatest number of events, if there is one. -/
def ceilingOptions : Option Nat → List String
  | some maxEvents => ["--max-events=" ++ toString maxEvents]
  | none => []

/-- The argument that is a query's expression, unless it is empty. -/
def expressionArgs (query : Query) : List String :=
  if query.isMatchAll then [] else [query.expression]

/-- A query appends its expression, unless it is empty. -/
theorem withQuery_eq (invocation : Invocation) (query : Query) :
    withQuery invocation query
      = { invocation with args := invocation.args ++ expressionArgs query } := by
  unfold withQuery expressionArgs
  split
  · rw [List.append_nil]
  · rfl

/-- A mode appends the option that names it, if it is named. -/
theorem withMode_eq (invocation : Invocation) (mode : ExportMode) :
    withMode invocation mode = { invocation with args := invocation.args ++ modeOptions mode } := by
  cases mode with
  | historical => rw [modeOptions, List.append_nil, withMode]
  | continuous => rfl
  | unified => rfl

/-- A greatest number of events appends the option that names it. -/
theorem withMaxEvents_eq (invocation : Invocation) (maxEvents : Option Nat) :
    withMaxEvents invocation maxEvents
      = { invocation with args := invocation.args ++ ceilingOptions maxEvents } := by
  cases maxEvents with
  | none => rw [ceilingOptions, List.append_nil, withMaxEvents]
  | some maxEvents => rfl

/-- A request with a query. -/
inductive Inquiry where
  /-- How many events match. -/
  | count (query : Query)
  /-- The events that match. -/
  | exportEvents (request : ExportRequest)

namespace Inquiry

/-- The query of the request. -/
def query : Inquiry → Query
  | .count query => query
  | .exportEvents request => request.query

/-- The command line that makes the request. -/
def invocation (program : String) (endpoint : Endpoint) : Inquiry → Invocation
  | .count query => (control program).count endpoint query
  | .exportEvents request => (control program).exportEvents endpoint request

/-- The options that the request has, whatever its query. -/
def ownOptions (endpoint : Endpoint) : Inquiry → List String
  | .count _ => [endpointOption endpoint]
  | .exportEvents request =>
    endpointOption endpoint :: (modeOptions request.mode ++ ceilingOptions request.maxEvents)

/-- The arguments before the expression. -/
def opening (endpoint : Endpoint) : Inquiry → List String
  | .count _ => [endpointOption endpoint, "count"]
  | .exportEvents request =>
    endpointOption endpoint :: "export"
      :: (modeOptions request.mode ++ ceilingOptions request.maxEvents ++ [request.encoding.name])

/-- A request is made by the arguments before the expression, and the expression. -/
theorem invocation_eq (program : String) (endpoint : Endpoint) (inquiry : Inquiry) :
    inquiry.invocation program endpoint
      = ⟨program, inquiry.opening endpoint ++ expressionArgs inquiry.query⟩ := by
  cases inquiry with
  | count query => exact withQuery_eq _ query
  | exportEvents request =>
    -- Each of the parts of a request appends its arguments to those before it.
    simp only [invocation, control, withQuery_eq, withMode_eq, withMaxEvents_eq, Invocation.arg,
      opening, Inquiry.query]
    rfl

end Inquiry

/-- The option that names the node is one. -/
theorem isOption_endpointOption (endpoint : Endpoint) :
    isOption (endpointOption endpoint) = true := by
  rw [isOption, endpointOption, String.toList_append]
  rfl

/-- The options that name the mode are options. -/
theorem filter_modeOptions (mode : ExportMode) :
    (modeOptions mode).filter isOption = modeOptions mode := by
  cases mode <;> rfl

/-- A greatest number of events is named by an option. -/
theorem isOption_maxEvents (maxEvents : Nat) :
    isOption ("--max-events=" ++ toString maxEvents) = true := by
  rw [isOption, String.toList_append]
  rfl

/-- The option that names the greatest number of events is one. -/
theorem filter_ceilingOptions (maxEvents : Option Nat) :
    (ceilingOptions maxEvents).filter isOption = ceilingOptions maxEvents := by
  cases maxEvents with
  | none => rfl
  | some maxEvents =>
    rw [ceilingOptions, List.filter_cons_of_pos (isOption_maxEvents maxEvents), List.filter_nil]

/-- An expression is an option among the arguments exactly if it begins as one. -/
theorem filter_expressionArgs (query : Query) :
    (expressionArgs query).filter isOption
      = if isOption query.expression then [query.expression] else [] := by
  rw [expressionArgs]
  split
  · -- An empty expression begins as nothing does.
    rename_i empty
    have none : query.expression = "" := of_decide_eq_true empty
    rw [none]
    rfl
  · rw [List.filter_cons, List.filter_nil]

/-- The options of a request are its own ones, and its expression if that begins as an option. -/
theorem options_invocation (program : String) (endpoint : Endpoint) (inquiry : Inquiry) :
    (inquiry.invocation program endpoint).options
      = inquiry.ownOptions endpoint
        ++ if isOption inquiry.query.expression then [inquiry.query.expression] else [] := by
  -- The expression comes last, so that the arguments before it can be looked at alone.
  rw [Inquiry.invocation_eq, Invocation.options, List.filter_append, filter_expressionArgs]
  congr 1
  -- The words between the options begin as no option does.
  cases inquiry with
  | count query =>
    rw [Inquiry.opening, List.filter_cons_of_pos (isOption_endpointOption endpoint)]
    rfl
  | exportEvents request =>
    have word : isOption request.encoding.name = false := by cases request.encoding <;> rfl
    have verb : ¬isOption "export" = true := by decide
    rw [Inquiry.opening, Inquiry.ownOptions,
      List.filter_cons_of_pos (isOption_endpointOption endpoint), List.filter_cons_of_neg verb,
      List.filter_append, List.filter_append, filter_modeOptions, filter_ceilingOptions,
      List.filter_cons_of_neg (Bool.not_eq_true _ ▸ word), List.filter_nil, List.append_nil]

/-- The options of a request are its own ones alone exactly if its expression does not begin as an
option. -/
theorem options_eq_own_iff (program : String) (endpoint : Endpoint) (inquiry : Inquiry) :
    (inquiry.invocation program endpoint).options = inquiry.ownOptions endpoint ↔
      isOption inquiry.query.expression = false := by
  rw [options_invocation]
  cases isOption inquiry.query.expression <;> simp

end Dialect

end EngineClient
