import DesignLint.Number.Reading
import DesignLint.Pattern.Fault
import DesignLint.Problem
import DesignLint.Json.Reader

/-! # Faults -/

namespace DesignLint

/-! ## Documents -/

/-- Why a document cannot be used. -/
inductive DocumentFault
  | unreadable (cause : Json.Reader.Cause) (place : Json.Reader.Place)
  | notObject (kind : String)
  | innerNotObject
  | invalidFields (count : Nat) (first : Complaint) (pointer : String)
  | noPages
  | noClass (pointer : String)
  | noId (pointer : String)
  | noFrame (pointer : String)
  | duplicateId (id earlier pointer : String)
  /-- A fault that a check states itself, with anything for a place. -/
  | stated (headline : String) (pointer : Json)

namespace DocumentFault

def pointer : DocumentFault → Json
  | unreadable _ _ => .null
  | notObject _ => .null
  | innerNotObject => .str "/document"
  | invalidFields _ _ p => .str p
  | noPages => .null
  | noClass p => .str p
  | noId p => .str p
  | noFrame p => .str p
  | duplicateId _ _ p => .str p
  | stated _ p => p

def headline : DocumentFault → String
  | unreadable cause place => "Cannot parse document JSON: " ++ cause.text ++ ": " ++ place.text
  | notObject kind => "Document must be a JSON object, got " ++ kind
  | innerNotObject => "'document' must be a JSON object"
  | invalidFields count first _ => toString count ++ " invalid field(s); first: " ++ first.message
  | noPages => "Document has no 'pages'"
  | noClass _ => "Node has no '_class'"
  | noId _ => "Node has no 'do_objectID'"
  | noFrame _ => "Node has no valid 'frame'"
  | duplicateId id earlier _ =>
    "Duplicate object id '" ++ id ++ "' (first seen at " ++ earlier ++ ")"
  | stated headline _ => headline

def text (f : DocumentFault) : String :=
  if f.pointer.isGiven then f.headline ++ " (at " ++ f.pointer.display ++ ")" else f.headline

end DocumentFault

/-! ## Files -/

inductive Obstacle
  | absent
  | directory
  | underFile
  | longName
  deriving DecidableEq

namespace Obstacle

def name : Obstacle → String
  | absent => "FileNotFoundError"
  | directory => "IsADirectoryError"
  | underFile => "NotADirectoryError"
  | longName => "OSError"

def number : Obstacle → Nat
  | absent => 2
  | directory => 21
  | underFile => 20
  | longName => 36

def text : Obstacle → String
  | absent => "No such file or directory"
  | directory => "Is a directory"
  | underFile => "Not a directory"
  | longName => "File name too long"

end Obstacle

structure FileFault where
  cause : Obstacle
  path : String

def FileFault.text (f : FileFault) : String :=
  "[Errno " ++ toString f.cause.number ++ "] " ++ f.cause.text ++ ": " ++ Text.quoted f.path

/-! ## Configuration files -/

/-- Why a configuration file cannot be used; the path is the one given, that of the cause the full
one. -/
inductive ConfigFileFault
  | unreadable (path : String) (cause : FileFault)
  | notJson (path : String) (cause : Json.Reader.Cause) (place : Json.Reader.Place)
  | wrongShape (path : String)
  | stated (text : String)

def ConfigFileFault.text : ConfigFileFault → String
  | unreadable path cause => "Cannot read rule config " ++ path ++ ": " ++ cause.text
  | notJson path cause place =>
    "Rule config " ++ path ++ " is not valid JSON: " ++ cause.text ++ ": " ++ place.text
  | wrongShape path =>
    "Rule config " ++ path ++ " must look like \x7b\"rules\": \x7bname: \x7b...\x7d\x7d\x7d"
  | stated text => text

/-! ## Options -/

inductive OptionFault
  | invalid (rule : String) (problems : List String)
  | notDeclared (rule option : String)
  | missing (rule option : String)
  /-- A fault that a check states itself, by name and text, about anything. -/
  | stated (name text : String) (about : Keyed Json)

namespace OptionFault

def name : OptionFault → String
  | invalid _ _ => "OptionValidationFailed"
  | notDeclared _ _ => "OptionNotDeclared"
  | missing _ _ => "OptionMissing"
  | stated name _ _ => name

def about : OptionFault → Keyed Json
  | invalid rule problems => [("rule_name", .str rule), ("problems", .texts problems)]
  | notDeclared rule option => [("rule_name", .str rule), ("option_name", .str option)]
  | missing rule option => [("rule_name", .str rule), ("option_name", .str option)]
  | stated _ _ about => about

def invalidText (rule : String) (problems : List String) : String :=
  "Invalid options for rule '" ++ rule ++ "': " ++ "; ".intercalate problems

def notDeclaredText (rule option : String) : String :=
  "Rule '" ++ rule ++ "' did not declare an option named '" ++ option ++ "'"

def missingText (rule option : String) : String :=
  "Option '" ++ option ++ "' of rule '" ++ rule ++ "' has no value"

def text : OptionFault → String
  | invalid rule problems => invalidText rule problems
  | notDeclared rule option => notDeclaredText rule option
  | missing rule option => missingText rule option
  | stated _ text _ => text

end OptionFault

/-! ## Values of the wrong kind -/

/-- A value was used as something it is not; kinds are named. -/
inductive Misuse
  | noOrder (left right : String)
  | noKey (kind : String)
  | noSequence (kind : String)
  | noTexts
  | noJoin (position : Nat) (kind : String)
  | noMapping (kind : String)
  | noPair (position : Nat)
  | noPlace (kind : String)
  | noNumber (kind : String)
  | arguments (name : String) (missing : List String)
  /-- Arguments are counted with the value that is made. -/
  | tooMany (name : String) (least most given : Nat)
  | noReport (kind : String)
  | noText (kind : String)

def Misuse.nameList : List String → String
  | [] => ""
  | [n] => "'" ++ n ++ "'"
  | [n, m] => "'" ++ n ++ "' and '" ++ m ++ "'"
  | n :: rest => "'" ++ n ++ "', " ++ nameList rest

def Misuse.text : Misuse → String
  | noOrder left right =>
    "'<' not supported between instances of '" ++ left ++ "' and '" ++ right ++ "'"
  | noKey kind => "unhashable type: '" ++ kind ++ "'"
  | noSequence kind => "'" ++ kind ++ "' object is not iterable"
  | noTexts => "can only join an iterable"
  | noJoin position kind =>
    "sequence item " ++ toString position ++ ": expected str instance, " ++ kind ++ " found"
  | noMapping kind => "'" ++ kind ++ "' object is not a mapping"
  | noPair position =>
    "cannot convert dictionary update sequence element #" ++ toString position ++ " to a sequence"
  | noPlace kind => "tuple indices must be integers or slices, not " ++ kind
  | noNumber kind => "float() argument must be a string or a real number, not '" ++ kind ++ "'"
  | arguments name missing =>
    name ++ ".__init__() missing " ++
      Complaint.counted missing.length "required positional argument" ++ ": " ++ nameList missing
  | tooMany name least most given =>
    name ++ ".__init__() takes " ++
      (if least = most then "" else "from " ++ toString least ++ " to ") ++
      Complaint.counted most "positional argument" ++ " but " ++ toString given ++ " were given"
  | noReport kind => "Cannot report against " ++ kind ++ ": it has no object id"
  | noText kind => "Rule text must be a string or callable, got " ++ kind

/-! ## All faults -/

inductive Fault
  | document (f : DocumentFault)
  | configFile (f : ConfigFileFault)
  | file (f : FileFault)
  /-- A path or a variable of the environment holds the character that ends texts outside. -/
  | innerNull
  /-- The name of a variable of the environment holds the sign between name and value. -/
  | variableName
  /-- A variable of the environment has no name. -/
  | namelessVariable
  | option (f : OptionFault)
  | duplicateRule (name : String)
  | contextClosed (rule : String)
  | invalidRecord (record : String) (problems : List Problem)
  | severity (value : Json)
  | size (text : String)
  | floatForm (text : String)
  | wholeForm (f : Number.WholeFault)
  | digits (count : Nat)
  | pairLength (position length : Nat)
  | optionType (name : String)
  /-- The name of a schema holds the character that ends texts outside. -/
  | schemaName
  | pattern (text : String) (cause : Pattern.Cause) (offset : Option Nat)
  | hugeRepeat
  | hugeWhole
  | constraint (text : String)
  | encoding
  | outOfRange
  /-- A place that is too far from the first one for any list. -/
  | hugePlace
  | lacking (kind name : String)
  | misuse (m : Misuse)
  | stated (name text : String)

namespace Fault

def name : Fault → String
  | document _ => "DocumentMalformed"
  | configFile _ => "ConfigFileInvalid"
  | file f => f.cause.name
  | innerNull => "ValueError"
  | variableName => "ValueError"
  | namelessVariable => "OSError"
  | option f => f.name
  | duplicateRule _ => "DuplicateRule"
  | contextClosed _ => "ContextClosed"
  | invalidRecord _ _ => "ValidationError"
  | severity _ => "ValueError"
  | size _ => "ValueError"
  | floatForm _ => "ValueError"
  | wholeForm _ => "ValueError"
  | digits _ => "ValueError"
  | pairLength _ _ => "ValueError"
  | optionType _ => "ValueError"
  | schemaName => "ValueError"
  | pattern _ _ _ => "error"
  | hugeRepeat => "OverflowError"
  | hugeWhole => "OverflowError"
  | constraint _ => "SchemaError"
  | encoding => "UnicodeDecodeError"
  | outOfRange => "IndexError"
  | hugePlace => "IndexError"
  | lacking _ _ => "AttributeError"
  | misuse _ => "TypeError"
  | stated name _ => name

/-- The site that explains complaints, and the edition of its pages. -/
def helpSite : String × String := ("errors.pydantic.dev", "2.14")

def helpPage (code : String) : String :=
  "https:" ++ "/" ++ "/" ++ helpSite.1 ++ "/" ++ helpSite.2 ++ "/v/" ++ code

def shownBytes : Nat := 50

/-- The longest start of `s` within `limit` bytes. -/
def startWithin (limit : Nat) : List Char → List Char
  | [] => []
  | c :: rest => if c.utf8Size ≤ limit then c :: startWithin (limit - c.utf8Size) rest else []

/-- A text of a value, with its middle left out when it is long. -/
def shortened (s : String) : String :=
  if s.utf8ByteSize ≤ shownBytes then s
  else
    let half := shownBytes / 2
    String.ofList (startWithin half s.toList) ++ "..." ++
      String.ofList (startWithin (half - 1) s.toList.reverse).reverse

def problemText (p : Problem) : String :=
  Problem.dotted p.path ++ "\n  " ++ p.message ++ " [type=" ++ p.complaint.code ++
    ", input_value=" ++ shortened p.found.literal ++ ", input_type=" ++ p.found.typeName ++
    "]\n    For further information visit " ++ helpPage p.complaint.code

/-- Every fault has a text; an exception of which no text can be made has no place here. -/
def text : Fault → String
  | document f => f.text
  | configFile f => f.text
  | file f => f.text
  | innerNull => "embedded null byte"
  | variableName => "illegal environment variable name"
  | namelessVariable => "[Errno 22] Invalid argument"
  | option f => f.text
  | duplicateRule name => "A rule named '" ++ name ++ "' is already registered"
  | contextClosed rule => "Context of rule '" ++ rule ++ "' is closed"
  | invalidRecord record problems =>
    Complaint.counted problems.length "validation error" ++ " for " ++ record ++ "\n" ++
      "\n".intercalate (problems.map problemText)
  | severity v => v.literal ++ " is not a valid Severity"
  | size text => "Invalid size '" ++ text ++ "'"
  | floatForm text => "could not convert string to float: " ++ Text.quoted text
  | wholeForm f => f.text
  | digits count => Number.excessText count
  | pairLength position length =>
    "dictionary update sequence element #" ++ toString position ++ " has length " ++
      toString length ++ "; 2 is required"
  | optionType name => "Unknown option type: " ++ name
  | schemaName => "type name must not contain null characters"
  | pattern text cause offset => Pattern.describe text cause offset
  | hugeRepeat => "the repetition number is too large"
  | hugeWhole => "int too large to convert to float"
  | constraint text => "Invalid constraint: " ++ text
  | encoding => "The bytes are no text"
  | outOfRange => "tuple index out of range"
  | hugePlace => "cannot fit 'int' into an index-sized integer"
  | lacking kind name => "'" ++ kind ++ "' object has no attribute '" ++ name ++ "'"
  | misuse m => m.text
  | stated _ text => text

/-- Faults that end the whole program rather than one rule. A fault is known by its name alone, so that
others of this sort, with names of their own, are not told apart from ordinary ones. -/
def fatalNames : List String :=
  ["SystemExit", "KeyboardInterrupt", "GeneratorExit", "CancelledError", "BaseExceptionGroup",
    "BaseException"]

def isFatal (f : Fault) : Bool := fatalNames.contains f.name

/-- The text, or the name when the text is empty. -/
def shown (f : Fault) : String := if f.text.isEmpty then f.name else f.text

end Fault

end DesignLint
