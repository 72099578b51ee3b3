import OrmMapping.Text.Casing

/-!
# Quoted identifiers

Names of tables and columns stand between backticks in a mapping document when a database would
take them for a word of its language, or when all names are to be quoted.

* `quoteIdentifier`: a name as it is written;
* `reservedWords`: the words that need quotes.
-/

namespace OrmMapping

/-- The words of the query language that no bare name may be. -/
def reservedWords : List String := [
  "all", "alter", "and", "as", "asc", "between", "by", "case", "check", "column", "constraint",
  "create", "default", "delete", "desc", "distinct", "drop", "else", "end", "exists", "foreign",
  "from", "grant", "group", "having", "in", "index", "inner", "insert", "into", "is", "join", "key",
  "left", "like", "limit", "not", "null", "offset", "on", "or", "order", "outer", "primary",
  "references", "right", "select", "set", "table", "then", "to", "union", "unique", "update",
  "user", "values", "when", "where", "with"]

/-- Whether a name is a reserved word, whatever its case. -/
def isReserved (name : String) : Bool :=
  reservedWords.contains (Text.lower name)

/-- The mark that identifiers are quoted with. -/
def identifierQuote : Char := '\x60'

/-- Whether a name already begins with the mark. -/
def isQuoted (name : String) : Bool :=
  name.toList.head? == some identifierQuote

/-- A name as it is written: quoted when it is reserved, or always when `all` is set. A name that
begins with the mark is left alone. -/
def quoteIdentifier (all : Bool) (name : String) : String :=
  if isQuoted name then name
  else if all || isReserved name then
    identifierQuote.toString ++ name ++ identifierQuote.toString
  else name

end OrmMapping
