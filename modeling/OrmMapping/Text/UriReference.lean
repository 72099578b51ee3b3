/-!
# References to resources

Namespaces of elements go by references to resources in their general form: possibly a scheme, an
authority, a path, a query and a fragment, with all other characters escaped.

* `isUriReference`: whether a text is such a reference;
* `skip`: passes over characters of a class and over escapes;
* `authority?`: passes over the authority, which names a host.
-/

namespace OrmMapping.Text.UriReference

/-! ## Characters -/

/-- A letter or digit of ASCII. -/
def isAlphanumeric (c : Char) : Bool :=
  c.isAlpha || c.isDigit

/-- A character that stands for itself everywhere. -/
def isUnreserved (c : Char) : Bool :=
  isAlphanumeric c || c == '-' || c == '.' || c == '_' || c == '~'

/-- A character that may divide the data within a part. -/
def isSubDelimiter (c : Char) : Bool :=
  ['!', '$', '&', '\'', '(', ')', '*', '+', ',', ';', '='].contains c

/-- A character of a host name. -/
def isHostChar (c : Char) : Bool :=
  isUnreserved c || isSubDelimiter c

/-- A character of the first segment of a path without a scheme, where a colon would end one. -/
def isFirstSegmentChar (c : Char) : Bool :=
  isHostChar c || c == '@'

/-- A character of a path, the slashes between segments included. -/
def isPathChar (c : Char) : Bool :=
  isFirstSegmentChar c || c == ':' || c == '/'

/-- A character of a query. -/
def isQueryChar (c : Char) : Bool :=
  isPathChar c || c == '?'

/-- A character of a fragment. Brackets are let through, since fragments use them to point. -/
def isFragmentChar (c : Char) : Bool :=
  isQueryChar c || c == '[' || c == ']'

/-- A hexadecimal digit. -/
def isHexDigit (c : Char) : Bool :=
  c.isDigit || ('a' ≤ c && c ≤ 'f') || ('A' ≤ c && c ≤ 'F')

/-- Passes over characters of a class and over escapes, each a percent sign with two digits. -/
def skip (isPart : Char → Bool) : List Char → List Char
  | '%' :: a :: b :: rest =>
    if isHexDigit a && isHexDigit b then skip isPart rest else '%' :: a :: b :: rest
  | c :: rest => if isPart c then skip isPart rest else c :: rest
  | [] => []

/-! ## The authority -/

/-- Passes over a decimal number below 256 without zeros in front; of three digits, those that
begin with `25` are all let through. -/
def octet? : List Char → Option (List Char)
  | a :: b :: c :: rest =>
    if !a.isDigit then none
    else if !b.isDigit then some (b :: c :: rest)
    else if a == '0' then none
    else if !c.isDigit then some (c :: rest)
    else if a == '1' || (a == '2' && b ≤ '5') then some rest
    else none
  | [a, b] =>
    if !a.isDigit then none
    else if !b.isDigit then some [b]
    else if a == '0' then none
    else some []
  | [a] => if a.isDigit then some [] else none
  | [] => none

/-- Passes over a dot. -/
def dot? : List Char → Option (List Char)
  | '.' :: rest => some rest
  | _ => none

/-- Passes over a numeric address of four parts. -/
def address? (cs : List Char) : Option (List Char) := do
  let cs ← dot? (← octet? cs)
  let cs ← dot? (← octet? cs)
  let cs ← dot? (← octet? cs)
  octet? cs

/-- Passes over a host: an address in brackets, a numeric address, or a name, which may be empty. -/
def host? (cs : List Char) : Option (List Char) :=
  match cs with
  | '[' :: rest =>
    match rest.dropWhile (· != ']') with
    | [] => none
    | _ :: after => some after
  | cs => some ((address? cs).getD (skip isHostChar cs))

/-- The greatest number that may follow a host. -/
def maxHostNumber : Nat := 0x7FFFFFFF

/-- Passes over the number that may follow a host, when a colon announces one. -/
def hostNumber? : List Char → Option (List Char)
  | ':' :: rest =>
    let digits := rest.takeWhile Char.isDigit
    let number := digits.foldl (fun n d => 10 * n + (d.toNat - 0x30)) 0
    if digits.isEmpty || maxHostNumber < number then none else some (rest.dropWhile Char.isDigit)
  | cs => some cs

/-- Passes over what stands before an at sign in front of the host, if there is one. -/
def dropUser (cs : List Char) : List Char :=
  match skip (fun c => isHostChar c || c == ':') cs with
  | '@' :: rest => rest
  | _ => cs

/-- Passes over the authority: possibly a user, a host, and possibly a number. -/
def authority? (cs : List Char) : Option (List Char) :=
  (host? (dropUser cs)).bind hostNumber?

/-! ## References -/

/-- Whether what follows the path is at most a query and a fragment. -/
def endsAfterPath (cs : List Char) : Bool :=
  let cs :=
    match cs with
    | '?' :: rest => skip isQueryChar rest
    | cs => cs
  match cs with
  | '#' :: rest => (skip isFragmentChar rest).isEmpty
  | cs => cs.isEmpty

/-- Whether an authority stands here, with a path, a query and a fragment as they may follow. -/
def isFromAuthority (cs : List Char) : Bool :=
  match authority? cs with
  | none => false
  | some ('/' :: rest) => endsAfterPath (skip isPathChar rest)
  | some rest => endsAfterPath rest

/-- Whether the text is what follows a scheme. -/
def isAfterScheme : List Char → Bool
  | '/' :: '/' :: rest => isFromAuthority rest
  | cs => endsAfterPath (skip isPathChar cs)

/-- Whether the text is a reference with a scheme. -/
def isAbsolute (cs : List Char) : Bool :=
  let isSchemeChar (c : Char) : Bool := isAlphanumeric c || c == '+' || c == '-' || c == '.'
  match cs.dropWhile isSchemeChar with
  | ':' :: rest => cs.head?.any Char.isAlpha && isAfterScheme rest
  | _ => false

/-- Whether the text is a reference without a scheme. -/
def isRelative : List Char → Bool
  | '/' :: '/' :: rest => isFromAuthority rest
  | '/' :: rest => endsAfterPath (skip isPathChar rest)
  | cs =>
    match skip isFirstSegmentChar cs with
    | '/' :: rest => endsAfterPath (skip isPathChar rest)
    | rest => endsAfterPath rest

end OrmMapping.Text.UriReference

namespace OrmMapping.Text

/-- Whether a text is a reference to a resource. -/
def isUriReference (s : String) : Bool :=
  UriReference.isAbsolute s.toList || UriReference.isRelative s.toList

end OrmMapping.Text
