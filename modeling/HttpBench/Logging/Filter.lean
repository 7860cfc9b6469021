import HttpBench.Logging.Event
import HttpBench.Text.Alphanumeric
import HttpBench.Text.Blank
import HttpBench.Text.Pattern
import HttpBench.Text.Split

/-!
# Log filters

A filter says which events are reported. It is a list of directives, written
between commas: a level for everything, or a level for the events of the parts
of the program whose names begin in some way, or for those with certain fields.
Of all directives that are about an event the one with the longest name
decides, then the one with the most fields, and of two with the same name and
fields the last; an event that no directive is about is not reported.

A directive may also be about spans of time, or about the values of fields in
them. No event is inside a span, so such a directive decides nothing.
-/

namespace HttpBench

open Text

/-- **A field** that a directive asks for, perhaps with a value. -/
structure FieldPattern where
  name : String
  value : Option String := none
deriving DecidableEq, Repr, Inhabited

/-- **What is reported** of some events. -/
structure LogDirective where
  /-- how the names of the parts begin; all parts if absent -/
  target : Option String := none
  /-- the name of a span -/
  span : Option String := none
  fields : List FieldPattern := []
  /-- the level with the most detail that is reported, nothing if absent -/
  level : Option LogLevel := some .trace
deriving DecidableEq, Repr, Inhabited

/-- **What is wrong with a directive.** -/
inductive DirectiveError where
  | malformed
  | level
  | field
deriving DecidableEq, Repr

/-- The text for a reader. -/
def DirectiveError.message : DirectiveError → String
  | .malformed => "invalid filter directive"
  | .level => "error parsing level filter: expected one of \"off\", \"error\", \"warn\", \"info\", \"debug\", \"trace\", "
      ++ "or a number 0-5"
  | .field => "invalid field filter: error building NFA"

/-- **A filter.** -/
abbrev LogFilter := List LogDirective

/-! ## Reading -/

namespace FieldPattern

/-- Decimal digits with a point among them or around them, and perhaps an exponent. -/
def isDecimal (cs : List Char) : Bool :=
  let mantissa := cs.takeWhile fun c => c != 'e' && c != 'E'
  let parts := splitAt '.' mantissa
  let isNumber := parts.length ≤ 2 && mantissa.any Char.isDigit && parts.all (·.all Char.isDigit)
  match cs.drop mantissa.length with
  | [] => isNumber
  | _ :: exponent =>
    let digits := match exponent with
      | '-' :: digits | '+' :: digits => digits
      | digits => digits
    isNumber && !digits.isEmpty && digits.all Char.isDigit

/-- A number behind a plus sign. All other numbers are patterns too. -/
def isPlusNumber (value : String) : Bool :=
  match value.toList with
  | '+' :: cs => isDecimal cs || ["inf", "infinity", "nan"].contains (String.ofList cs).toLower
  | _ => false

/-- **Read a field**: a name, or a name and a number or a pattern for its value.
What stands behind a second sign of equality does not count. -/
def parse (text : String) : Except DirectiveError FieldPattern :=
  match splitAt '=' text.toList with
  | [] | [[]] => .error .malformed
  | [name] => .ok { name := String.ofList name }
  | name :: value :: _ =>
    let value := String.ofList value
    if isPlusNumber value || Pattern.isWellFormed value then
      .ok { name := String.ofList name, value := some value }
    else .error .field

end FieldPattern

/-- **Where a reader of a directive is**, and where what it reads began. -/
inductive DirectivePlace where
  | start
  /-- in a level, or in the name of a part -/
  | name (start : Nat)
  | span (start : Nat)
  | field (start : Nat)
  /-- behind the fields -/
  | fields
  /-- behind a span -/
  | spanEnd
  | level (start : Nat)
deriving DecidableEq, Repr

namespace LogDirective

/-- A level by its number. -/
def numbered? (text : String) : Option (Option LogLevel) :=
  let digits := match text.toList with
    | '+' :: digits => digits
    | digits => digits
  if digits.isEmpty || !digits.all Char.isDigit then none
  else
    [none, some LogLevel.error, some .warn, some .info, some .debug, some .trace][
      digits.foldl (fun n c => n * 10 + (c.toNat - 48)) 0]?

/-- **A level** by its number, or by its name in any case of letters; `off` and
zero let nothing through. -/
def level? (text : String) : Option (Option LogLevel) :=
  numbered? text <|>
    [("off", none), ("error", some LogLevel.error), ("warn", some .warn), ("info", some .info),
      ("debug", some .debug), ("trace", some .trace)].lookup text.toLower

/-- A level behind its sign of equality; everything if there is none. -/
def levelAfter (text : String) : Except DirectiveError (Option LogLevel) :=
  if text.isEmpty then .ok (some .trace)
  else
    match level? text with
    | some level => .ok level
    | none => .error .level

/-- The first character of a directive without a span. -/
def isFirst (c : Char) : Bool := c == '-' || c == ':' || c == '_' || isAlphanumeric c

/-- The characters of a text from one place up to another. -/
def slice (cs : List Char) (start stop : Nat) : String := String.ofList ((cs.take stop).drop start)

/-- **One character more** at a place of the text. -/
def step (cs : List Char) (state : DirectivePlace × LogDirective) (c : Char) (i : Nat) :
    Except DirectiveError (DirectivePlace × LogDirective) :=
  let d := state.2
  match state.1, c with
  | .start, '[' => .ok (.span (i + 1), d)
  | .start, c => if isFirst c then .ok (.name i, d) else .error .malformed
  | .name start, '=' => .ok (.level (i + 1), { d with target := some (slice cs start i) })
  | .name start, '[' => .ok (.span (i + 1), { d with target := some (slice cs start i) })
  | .span start, ']' => .ok (.spanEnd, { d with span := some (slice cs start i) })
  | .span start, '\x7b' =>
    let name := slice cs start i
    .ok (.field (i + 1), { d with span := if name.isEmpty then none else some name })
  | .field start, '\x7d' => do
    let text := slice cs start i
    if text.isEmpty then throw .malformed
    let field ← FieldPattern.parse text
    pure (.fields, { d with fields := d.fields ++ [field] })
  | .fields, ']' => .ok (.spanEnd, d)
  | .fields, _ => .error .malformed
  | .spanEnd, '=' => .ok (.level (i + 1), d)
  | .spanEnd, _ => .error .malformed
  | place, _ => .ok (place, d)

/-- **The end of a directive.** A name that is a level is none; a name without
a level lets everything through. -/
def finish (cs : List Char) (state : DirectivePlace × LogDirective) : Except DirectiveError LogDirective :=
  let d := state.2
  match state.1 with
  | .name start =>
    let name := slice cs start cs.length
    match level? name with
    | some level => .ok { d with level }
    | none => .ok { d with target := some name }
  | .level start => (levelAfter (slice cs start cs.length)).map fun level => { d with level }
  | .spanEnd => .ok d
  | .start | .span _ | .field _ | .fields => .error .malformed

/-- **Read a directive.** Blanks around it only move the places at which its
parts are cut out. -/
def parse (text : String) : Except DirectiveError LogDirective := do
  let cs := text.toList
  let read ← (trimBlanks cs).zipIdx.foldlM (fun state (c, i) => step cs state c i) (.start, ({} : LogDirective))
  finish cs read

/-! ## Events -/

/-- The directive is about spans, not about events. -/
def isOfSpans (d : LogDirective) : Bool := d.span.isSome || d.fields.any (·.value.isSome)

/-- The directive is about an event. -/
def isAbout (d : LogDirective) (e : LogEvent) : Bool :=
  let begins := match d.target with
    | some target => target.toList.isPrefixOf e.source.name.toList
    | none => true
  !d.isOfSpans && begins && d.fields.all fun f => e.fieldNames.contains f.name

/-- How closely a directive says what it is about: the length of its name, and
the number of its fields. -/
def closeness (d : LogDirective) : Nat × Nat := ((d.target.map (·.length + 1)).getD 0, d.fields.length)

/-- A directive decides before another one about the same event: it is closer,
or as close with fields that come later in the order of their names. -/
def outranks (d other : LogDirective) : Bool :=
  let names := fun d : LogDirective => d.fields.map (·.name)
  if d.closeness.1 != other.closeness.1 then other.closeness.1 < d.closeness.1
  else if d.closeness.2 != other.closeness.2 then other.closeness.2 < d.closeness.2
  else names other < names d

/-- The directive lets an event through. -/
def lets (d : LogDirective) (e : LogEvent) : Bool :=
  match d.level with
  | some level => e.level.detail ≤ level.detail
  | none => false

end LogDirective

namespace LogFilter

/-- The one of two directives that decides, the later one if neither does before
the other. -/
def deciding (earlier : Option LogDirective) (later : LogDirective) : Option LogDirective :=
  match earlier with
  | some d => if d.outranks later then some d else some later
  | none => some later

/-- The directive that decides about an event. -/
def deciding? (f : LogFilter) (e : LogEvent) : Option LogDirective := (f.filter (·.isAbout e)).foldl deciding none

/-- **The filter reports an event.** -/
def reports (f : LogFilter) (e : LogEvent) : Bool :=
  match f.deciding? e with
  | some d => d.lets e
  | none => false

/-- A filter without a directive reports errors. -/
def orErrors (f : LogFilter) : LogFilter :=
  if f.isEmpty then [{ level := some .error }] else f

/-- The directives of a filter as they are written. -/
def parts (text : String) : List String :=
  ((splitAt ',' text.toList).filter fun part => !part.isEmpty).map String.ofList

/-- **Read a filter**, if all of its directives can be read. -/
def parse? (text : String) : Option LogFilter :=
  ((parts text).mapM fun part => (LogDirective.parse part).toOption).map orErrors

/-- **Read what can be read of a filter**, and say what cannot and why. -/
def parse (text : String) : LogFilter × List (String × DirectiveError) :=
  let parts := (parts text).map fun part => (part, LogDirective.parse part)
  (orErrors (parts.filterMap fun p => p.2.toOption), parts.filterMap fun p =>
    match p.2 with
    | .error e => some (p.1, e)
    | .ok _ => none)

end LogFilter

end HttpBench
