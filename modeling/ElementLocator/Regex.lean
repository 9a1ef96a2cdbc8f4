import ElementLocator.Regex.Matcher
import ElementLocator.Regex.Reader

/-! # Regular expressions

    The regular expressions in which patterns may be written: a text is compiled to a program,
    or refused with the reason, and a program is searched for in a value. -/

namespace ElementLocator.Regex

/-- The program of a text, or why there is none. -/
def compile (source : String) : Except Fault Program := (read source).bind Program.ofExpression

/-- Whether a text compiles. -/
def compiles (source : String) : Bool := (compile source).isOk

/-- Searches a value for the expression of a text. -/
def search (source value : String) : Except Fault Bool :=
  (compile source).bind fun p => p.search value.toList.toArray

end ElementLocator.Regex
