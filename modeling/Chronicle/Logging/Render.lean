import Chronicle.Attributes
import Chronicle.Error
import Chronicle.Logging.Config
import Chronicle.Text.Blank

/-!
# Forms of log lines

A line comes out as a document, which holds its fields, event and level, or as text, which is meant
for a console. In a text the stamp, the level, the event and the names of loggers have columns of
their own; the other fields follow in the order of their names, and below them a stack and an
exception, if there are any.

## Main definitions

* `LogLine.document` — a line as a document.
* `LogLine.text` — a line as text.
* `LogConfig.render` — the lines that come out, in their form.
-/

namespace Chronicle

/-- Fills a text up with blanks to a width. -/
def padRight (width : Nat) (s : String) : String := s.pushn ' ' (width - s.length)

namespace LogLine

/-- The names under which no field comes out: what every line carries besides its fields, and what
asks for the present exception or stack. -/
def reserved : List String := ["timestamp", "level", "event", "exc_info", "stack_info"]

/-- The fields that come out. -/
def shownFields (line : LogLine) : List (String × Value) :=
  line.fields.filter fun f => !reserved.contains f.1

/-- The event as a field, if there is one. -/
def eventField (line : LogLine) : List (String × Value) :=
  match line.event with
  | .null => []
  | event => [("event", event)]

def document (line : LogLine) : Attributes :=
  ⟨line.shownFields ++ line.eventField ++ [("level", .text line.level.name)]⟩

/-! ## Text -/

def needsQuotes (c : Char) : Bool := [' ', '\t', '=', '\r', '\n', '"', '\''].contains c

/-- A value of a field: a text stands without quotes where it can. -/
def fieldText : Value → String
  | .text s => if s.any needsQuotes then Text.quoted s else s
  | v => v.written

def loggerNames : List String := ["logger", "logger_name"]

/-- The fields that stand below the others. -/
def appendixNames : List String := ["stack", "exception"]

def fieldValue (line : LogLine) (name : String) : Option Value := line.shownFields.lookup name

/-- The fields that have no place of their own, in the order of their names. -/
def plainFields (line : LogLine) : List (String × Value) :=
  (line.shownFields.filter fun f => !(loggerNames ++ appendixNames).contains f.1).mergeSort
    fun f g => decide (f.1 ≤ g.1)

/-- The columns of the first line of a text. -/
def columns (stamp : String) (line : LogLine) : List String :=
  [stamp, "[" ++ padRight 9 line.level.name ++ "]"]
    ++ line.eventField.map (fun f => padRight 30 f.2.shown)
    ++ (loggerNames.filterMap line.fieldValue).map (fun v => "[" ++ v.shown ++ "]")
    ++ line.plainFields.map fun f => f.1 ++ "=" ++ fieldText f.2

/-- A text on a line of its own. Null is no text but no failure either. -/
def below : Option Value → Except Error (Option String)
  | none | some .null => .ok none
  | some (.text s) => .ok (some ("\n" ++ s))
  | some v => .error (.notText v)

/-- The line between a stack and an exception. -/
def divider : String := "\n\n" ++ "".pushn '=' 79 ++ "\n"

/-- A line as text, after a time stamp. Blanks at the end of the columns are dropped. -/
def text (stamp : String) (line : LogLine) : Except Error String := do
  let columns := (" ".intercalate (line.columns stamp)).toList
  let first := String.ofList (Text.trimEnd (· == ' ') columns)
  let stack ← below (line.fieldValue "stack")
  let exception ← below (line.fieldValue "exception")
  match stack, exception with
  | some stack, some exception => return first ++ stack ++ divider ++ exception
  | stack, exception => return first ++ stack.getD "" ++ exception.getD ""

end LogLine

/-- A line as it comes out. -/
inductive Rendered where
  | document (fields : Attributes)
  | text (s : String)

namespace LogConfig

def form (config : LogConfig) (stamp : String) (line : LogLine) : Except Error Rendered :=
  if config.json then .ok (.document line.document) else .text <$> line.text stamp

/-- The lines that come out, in their form. -/
def render (config : LogConfig) (stamp : String) (lines : List LogLine) :
    Except Error (List Rendered) :=
  (lines.filter config.shows).mapM (config.form stamp)

end LogConfig

end Chronicle
