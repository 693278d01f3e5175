import TextTemplate.Template.Convert
import TextTemplate.Template.Reader

/-! A template is rendered by filling its placeholders from left to right. -/

namespace TextTemplate

/-- Follows a path from a value. -/
def Value.follow (value : Value) : List Segment → Except RenderFault Value
  | [] => .ok value
  | segment :: segments =>
    -- The first step that leads nowhere is the one that is told.
    match value.child? segment with
    | some child => child.follow segments
    | none => .error (.noProperty segment)

/-- The argument with a number, counted from one. -/
def argument (args : List Value) (number : Nat) : Except RenderFault Value :=
  match number with
  -- There is no argument with number zero, although a selector can name it.
  | 0 => .error (.noArgument 0 args.length)
  | index + 1 =>
    match args[index]? with
    | some value => .ok value
    | none => .error (.noArgument number args.length)

/-- The value that a selector picks when a number of an argument is next in line. -/
def Selector.pick (selector : Selector) (args : List Value) (next : Nat) :
    Except RenderFault Value :=
  match selector with
  | .next => argument args next
  | .number position => argument args position
  | .path segments => do (← argument args next).follow segments

/-- The number that is next in line behind a selector: only explicit numbers leave it. -/
def Selector.advance (next : Nat) : Selector → Nat
  | .number _ => next
  | .next | .path _ => next + 1

/-- Renders a value in the field of a placeholder. -/
def Placeholder.render (request : Placeholder) (value : Value) :
    Calls (Except RenderFault (List Char)) := do
  -- What a call yields is not called in turn.
  let value ← if request.conversion.callsDeferred then value.resolve else pure value
  return (← request.convert value).map request.compose

/-- Renders a value as `render` does, or ends the program where its decimals cannot be counted. -/
def Placeholder.render? (request : Placeholder) (value : Value) :
    Calls (Option (Except RenderFault (List Char))) := do
  let value ← if request.conversion.callsDeferred then value.resolve else pure value
  if request.isCountable value then return some ((← request.convert value).map request.compose)
  else return none

/-- The number that is next in line behind a piece. -/
def Piece.advance (next : Nat) : Piece → Nat
  | .literal _ | .percent => next
  | .placeholder request => request.selector.advance next

/-- Renders one piece when a number of an argument is next in line. -/
def Piece.render (args : List Value) (next : Nat) : Piece → Calls (Except RenderFault (List Char))
  | .literal text => return .ok text.toList
  | .percent => return .ok ['%']
  | .placeholder request =>
    match request.selector.pick args next with
    | .ok value => request.render value
    | .error fault => return .error fault

/-- Renders one piece as `render` does, or ends the program. -/
def Piece.render? (args : List Value) (next : Nat) :
    Piece → Calls (Option (Except RenderFault (List Char)))
  | .literal text => return some (.ok text.toList)
  | .percent => return some (.ok ['%'])
  | .placeholder request =>
    match request.selector.pick args next with
    | .ok value => request.render? value
    | .error fault => return some (.error fault)

/-- Renders nodes in order, up to the first that fails. -/
def renderNodes (args : List Value) (next : Nat) :
    List Node → Calls (Except RenderError (List Char))
  | [] => return .ok []
  | node :: nodes => do
    -- What comes behind a failing node is not rendered, and calls nothing.
    match ← node.piece.render args next with
    | .ok front => return (← renderNodes args (node.piece.advance next) nodes).map (front ++ ·)
    | .error fault => return .error ⟨node.span, fault⟩

/-- Renders a template with arguments. -/
def Template.render (template : Template) (args : List Value) :
    Calls (Except RenderError String) := do
  -- Every run begins with the first argument in line.
  return (← renderNodes args 1 template.nodes).map String.ofList

/-- Renders nodes in order, up to the first that fails or ends the program. -/
def renderNodes? (args : List Value) (next : Nat) :
    List Node → Calls (Option (Except RenderError (List Char)))
  | [] => return some (.ok [])
  | node :: nodes => do
    match ← node.piece.render? args next with
    | some (.ok front) =>
      let back ← renderNodes? args (node.piece.advance next) nodes
      return back.map fun result => result.map (front ++ ·)
    | some (.error fault) => return some (.error ⟨node.span, fault⟩)
    | none => return none

/-- Renders a template with arguments, or ends the program. -/
def Template.render? (template : Template) (args : List Value) :
    Calls (Option (Except RenderError String)) := do
  return (← renderNodes? args 1 template.nodes).map fun result => result.map String.ofList

/-- An error of either stage. -/
inductive FormatError where
  | parse (error : ParseError)
  | render (error : RenderError)
  deriving DecidableEq, Repr

/-- Reads a template and renders it with arguments. -/
def format (source : String) (args : List Value) : Calls (Except FormatError String) := do
  match Template.parse source with
  | .ok template => return (← template.render args).mapError .render
  | .error error => return .error (.parse error)

/-- Reads a template and renders it with arguments, or ends the program. -/
def format? (source : String) (args : List Value) :
    Calls (Option (Except FormatError String)) := do
  match Template.parse source with
  | .ok template => return (← template.render? args).map fun result => result.mapError .render
  | .error error => return some (.error (.parse error))

end TextTemplate
