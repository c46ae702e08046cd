/-
  Failures that end an operation.

  Each constructor is one cause.  `kind` is the class under which a failure is logged and reported,
  and `message` its wording.
-/
import SchemaAssist.Text.Utf8

namespace SchemaAssist

inductive Fault where
  /-- A text that is no integer in the given base. -/
  | integerText (base : Nat) (text : String)
  /-- A value of a kind that has no integer reading. -/
  | integerKind (kind : String)
  | integerOfNan
  | integerOfInfinity
  /-- An integer literal with too many digits. -/
  | digitLimit (count : Nat)
  /-- An integer with too many digits to be written. -/
  | shownDigits
  | floatText (text : String)
  /-- An integer beyond all doubles. -/
  | floatSize
  /-- A numeric text that ends before its first digit. -/
  | emptyNumber
  /-- A word that is not one of the truth words. -/
  | truthWord (text : String)
  /-- A text that is no date. -/
  | dateText
  /-- A collection in the place of a date. -/
  | dateKind
  | yearRange (year : Nat)
  /-- A part of a date or a time of day that lies outside its bounds. -/
  | clockRange (part : String) (first last : Nat)
  /-- A day that its month does not have. -/
  | dayRange
  /-- A time zone, in minutes, that is a day or more away. -/
  | zoneRange (offset : Int)
  /-- A descent without an end. -/
  | recursion
  /-- An escape beyond the last code point. -/
  | codePoint
  /-- An escape that does not even fit a machine word. -/
  | codePointSize
  /-- A value that cannot serve as a look-up key. -/
  | unhashable (kind : String)
  /-- A log level that is no number. -/
  | levelOrder (kind : String)
  /-- A path that no file can have. -/
  | nullByte
  | noSuchFile (path : String)
  | fileExists (path : String)
  | notDirectory (path : String)
  | isDirectory (path : String)
  /-- Root properties were asked of an absent schema. -/
  | noSchema
  /-- A cursor past the end of the buffer. -/
  | cursorBeyond (cursor : Int) (size : Nat)
  | undecodable (error : Text.Utf8Error)
  /-- A closing tag without its opening tag. -/
  | closingTag (markup : String) (position : Nat)
  /-- An anonymous closing tag with no tag open. -/
  | nothingToClose (position : Nat)
  deriving DecidableEq, Repr

namespace Fault

/-- Operating-system wording for a path. -/
def osMessage (code : Nat) (reason path : String) : String :=
  s!"[Errno {code}] " ++ reason ++ ": " ++ Text.quoteString path

/-- A span of minutes by its days and seconds. -/
def spanText (minutes : Int) : String :=
  let days := minutes / 1440
  let seconds := minutes % 1440 * 60
  let parts := (if days = 0 then [] else [s!"days={days}"]) ++
    (if seconds = 0 then [] else [s!"seconds={seconds}"])
  "datetime.timedelta(" ++ (if parts.isEmpty then "0" else ", ".intercalate parts) ++ ")"

def message : Fault → String
  | integerText base text =>
    s!"invalid literal for int() with base {base}: " ++
      String.ofList ((Text.quote text.toList).take 200)
  | integerKind kind =>
    "int() argument must be a string, a bytes-like object or a real number, not '" ++ kind ++ "'"
  | integerOfNan => "cannot convert float NaN to integer"
  | integerOfInfinity => "cannot convert float infinity to integer"
  | digitLimit count =>
    s!"Exceeds the limit (4300 digits) for integer string conversion: value has {count} digits; " ++
      "use sys.set_int_max_str_digits() to increase the limit"
  | shownDigits =>
    "Exceeds the limit (4300 digits) for integer string conversion; " ++
      "use sys.set_int_max_str_digits() to increase the limit"
  | floatText text => "could not convert string to float: " ++ Text.quoteString text
  | floatSize => "int too large to convert to float"
  | emptyNumber => "string index out of range"
  | truthWord text => Text.quoteString text
  | dateText => "'NoneType' object has no attribute 'groupdict'"
  | dateKind => "expected string or bytes-like object, got 'list'"
  | yearRange year => s!"year {year} is out of range"
  | clockRange part first last => part ++ s!" must be in {first}..{last}"
  | dayRange => "day is out of range for month"
  | zoneRange offset =>
    "offset must be a timedelta strictly between -timedelta(hours=24) and " ++
      "timedelta(hours=24), not " ++ spanText offset ++ "."
  | recursion => "maximum recursion depth exceeded in comparison"
  | codePoint => "chr() arg not in range(0x110000)"
  | codePointSize => "Python int too large to convert to C int"
  | unhashable kind => "unhashable type: '" ++ kind ++ "'"
  | levelOrder kind => "'>=' not supported between instances of 'int' and '" ++ kind ++ "'"
  | nullByte => "embedded null byte"
  | noSuchFile path => osMessage 2 "No such file or directory" path
  | fileExists path => osMessage 17 "File exists" path
  | notDirectory path => osMessage 20 "Not a directory" path
  | isDirectory path => osMessage 21 "Is a directory" path
  | noSchema => "'NoneType' object has no attribute 'children'"
  | cursorBeyond cursor size => s!"cursor_position={cursor}, len_text={size}"
  | undecodable error => error.message
  | closingTag markup position =>
    "closing tag '" ++ markup ++ s!"' at position {position} doesn't match any open tag"
  | nothingToClose position => s!"closing tag '[/]' at position {position} has nothing to close"

/-- The class of a failure. -/
def kind : Fault → String
  | integerText .. | integerOfNan | digitLimit _ | shownDigits | floatText _ | codePoint
  | yearRange _ | clockRange .. | dayRange | zoneRange _ | nullByte => "ValueError"
  | integerKind _ | unhashable _ | levelOrder _ | dateKind => "TypeError"
  | integerOfInfinity | floatSize | codePointSize => "OverflowError"
  | emptyNumber => "IndexError"
  | truthWord _ => "KeyError"
  | noSuchFile _ => "FileNotFoundError"
  | fileExists _ => "FileExistsError"
  | notDirectory _ => "NotADirectoryError"
  | isDirectory _ => "IsADirectoryError"
  | noSchema | dateText => "AttributeError"
  | recursion => "RecursionError"
  | cursorBeyond .. => "AssertionError"
  | undecodable _ => "UnicodeDecodeError"
  | closingTag .. | nothingToClose _ => "MarkupError"

end Fault

end SchemaAssist
