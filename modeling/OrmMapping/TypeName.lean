import OrmMapping.Text.Blank
import OrmMapping.Text.Casing
import OrmMapping.Text.Segments

/-!
# Canonical type names

Declared types come as database types with arguments (`VARCHAR(50)`), as dotted class names
(`java.sql.Timestamp`) or as short names in any case. Each is brought down to the short name that
mapping documents use; a name that is no alias stands for itself in lower case.

* `canonical`: the short name of a declared type;
* `aliases`: the names with another short name;
* `isIntegral`: the types a numeric version column may have.
-/

namespace OrmMapping.TypeName

/-- The type of whatever declares none. -/
def standard : String := "string"

/-- Known names and the short names they stand for. -/
def aliases : List (String × String) := [
  -- character data
  ("string", "string"), ("varchar", "string"), ("varchar2", "string"), ("nvarchar", "string"),
  ("char", "character"), ("nchar", "character"), ("character", "character"), ("text", "text"),
  ("clob", "text"), ("longvarchar", "text"),
  -- binary data
  ("binary", "binary"), ("varbinary", "binary"), ("blob", "binary"), ("byte[]", "binary"),
  -- truth values
  ("boolean", "boolean"), ("bool", "boolean"), ("bit", "boolean"), ("yes_no", "yes_no"),
  ("yes-no", "yes_no"), ("yesno", "yes_no"), ("true_false", "true_false"),
  ("true-false", "true_false"), ("truefalse", "true_false"),
  -- numbers
  ("int", "integer"), ("integer", "integer"), ("short", "short"), ("smallint", "short"),
  ("tinyint", "byte"), ("byte", "byte"), ("long", "long"), ("bigint", "big_integer"),
  ("biginteger", "big_integer"), ("big_integer", "big_integer"), ("big-integer", "big_integer"),
  ("float", "float"), ("real", "float"), ("double", "double"), ("numeric", "double"),
  ("number", "double"), ("decimal", "big_decimal"), ("bigdecimal", "big_decimal"),
  ("big_decimal", "big_decimal"), ("big-decimal", "big_decimal"),
  -- dates and times
  ("date", "date"), ("time", "time"), ("timestamp", "timestamp"), ("datetime", "timestamp"),
  ("eurodate", "timestamp"), ("usdate", "timestamp"), ("calendar", "calendar"),
  ("calendar_date", "calendar_date"),
  -- others
  ("uuid", "uuid-char"), ("guid", "uuid-char"), ("serializable", "serializable")]

/-- Whether an argument list that was just opened is closed on the same line. -/
def closes (cs : List Char) : Bool :=
  cs.find? (fun c => c == ')' || c == '\n') == some ')'

/-- Drops every argument list, from an opening parenthesis to the first closing one after it. One
that its line does not close is no argument list and stays. `inside` says that the characters stand
in an argument list. -/
def dropArguments : (inside : Bool) → List Char → List Char
  | _, [] => []
  | true, c :: rest => dropArguments (c != ')') rest
  | false, c :: rest =>
    if c == '(' && closes rest then dropArguments true rest else c :: dropArguments false rest

/-- The lower-case name of a declared type, without arguments and without the dotted part before
it. -/
def bareName (raw : String) : String :=
  let lowered := Text.lower (Text.trim raw)
  Text.lastSegment (Text.trim (String.ofList (dropArguments false lowered.toList)))

/-- The short name of a declared type. -/
def canonical (raw : String) : String :=
  let name := bareName raw
  let short := (aliases.lookup name).getD name
  if short.isEmpty then standard else short

/-- Whether a version column of this type counts upwards. -/
def isIntegral (name : String) : Bool :=
  ["integer", "long", "short"].contains name

end OrmMapping.TypeName
