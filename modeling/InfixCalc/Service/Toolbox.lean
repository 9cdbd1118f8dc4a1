import InfixCalc.Json.Printer
import InfixCalc.Service.Handler

/-!
# Tools with a description

The two tools as they are offered under a name: each passes its parameters to
the handler and answers with the JSON text of what the handler says.
-/

namespace InfixCalc

namespace Tool

/-- Both tools. -/
def all : List Tool := [evaluate, explain]

/-- The name that a tool is offered under. -/
def publicName : Tool → Text
  | evaluate => text "calc.evaluate"
  | explain => text "calc.explain"

/-- What a tool does. -/
def description : Tool → Text
  | evaluate => text "Evaluate an infix arithmetic expression (+ - * / and parentheses)"
  | explain =>
    text "Evaluate an expression and return every shift/reduce step of the two stacks"

/-- The tool that is offered under a name. -/
def ofPublicName? (name : Text) : Option Tool :=
  all.find? fun tool => tool.publicName == name

/-- The text that a tool answers with, and the audit entries. -/
def execute
    (tool : Tool)
    (settings : Settings)
    (circumstances : Circumstances)
    (request : Text)
    (parameters : Option Json) :
    Except (List Issue) (Text × List AuditEntry) :=
  (tool.handle settings circumstances request parameters).map fun handled =>
    (handled.output.toJson.pretty, handled.audit)

end Tool

end InfixCalc
