import SchemaSharp.Text.Ranges
import SchemaSharp.Text.Quoted

/-!
Numbers written by people: blanks around them, a sign, single underscores between digits, and the
decimal digits of any script.
-/

namespace SchemaSharp.Text

def blankRuns : List (Nat × Nat) := [
  (0x9, 0xd), (0x20, 0x20), (0x85, 0x85), (0xa0, 0xa0), (0x1680, 0x1680), (0x2000, 0x200a),
  (0x2028, 0x2029), (0x202f, 0x202f), (0x205f, 0x205f), (0x3000, 0x3000)]

def isBlank (c : Char) : Bool := covers blankRuns c

/-- The zeros of the scripts beyond ASCII with decimal digits; the other nine digits follow each of them. -/
def zeroDigits : List Nat := [
  0x660, 0x6f0, 0x7c0, 0x966, 0x9e6, 0xa66, 0xae6, 0xb66, 0xbe6, 0xc66,
  0xce6, 0xd66, 0xde6, 0xe50, 0xed0, 0xf20, 0x1040, 0x1090, 0x17e0, 0x1810,
  0x1946, 0x19d0, 0x1a80, 0x1a90, 0x1b50, 0x1bb0, 0x1c40, 0x1c50, 0xa620, 0xa8d0,
  0xa900, 0xa9d0, 0xa9f0, 0xaa50, 0xabf0, 0xff10, 0x104a0, 0x10d30, 0x11066, 0x110f0,
  0x11136, 0x111d0, 0x112f0, 0x11450, 0x114d0, 0x11650, 0x116c0, 0x11730, 0x118e0, 0x11950,
  0x11c50, 0x11d50, 0x11da0, 0x16a60, 0x16ac0, 0x16b50, 0x1d7ce, 0x1d7d8, 0x1d7e2, 0x1d7ec,
  0x1d7f6, 0x1e140, 0x1e2f0, 0x1e950, 0x1fbf0]

def digit? (c : Char) : Option Nat :=
  if c.toNat < 0x80 then
    if c.isDigit then some (c.toNat - 0x30) else none
  else
    zeroDigits.findSome? fun first =>
      if first ≤ c.toNat && c.toNat < first + 10 then some (c.toNat - first) else none

inductive NumeralFault where
  | notInteger (text : String)
  | tooManyDigits (count : Nat)
  deriving DecidableEq, Repr

/-- No more digits than this are converted. -/
def digitLimit : Nat := 4300

/-- The message shows at most the first 200 characters of the quoted text. -/
def NumeralFault.message : NumeralFault → String
  | .notInteger text =>
      "invalid literal for int() with base 10: " ++ String.ofList ((quoted text).toList.take 200)
  | .tooManyDigits count =>
      "Exceeds the limit (" ++ toString digitLimit
        ++ " digits) for integer string conversion: value has " ++ toString count
        ++ " digits; use sys.set_int_max_str_digits() to increase the limit"

def dropBlanks (text : List Char) : List Char := text.dropWhile isBlank

def trimBlanks (text : List Char) : List Char :=
  (dropBlanks (dropBlanks text).reverse).reverse

/-- The run of digits and underscores a text begins with: the digits, whether every underscore
stands between two digits, and the rest. -/
def digitRun : Bool → List Char → List Nat × Bool × List Char
  | afterDigit, [] => ([], afterDigit, [])
  | afterDigit, c :: rest =>
      match digit? c with
      | some value =>
          let (values, wellPlaced, after) := digitRun true rest
          (value :: values, wellPlaced, after)
      | none =>
          if c == '_' then
            let (values, wellPlaced, after) := digitRun false rest
            (values, afterDigit && wellPlaced, after)
          else ([], afterDigit, c :: rest)

def takeSign : List Char → Bool × List Char
  | '-' :: rest => (true, rest)
  | '+' :: rest => (false, rest)
  | text => (false, text)

def ofDigits (values : List Nat) : Nat :=
  values.foldl (fun total value => 10 * total + value) 0

def readInteger (text : String) : Except NumeralFault Int :=
  let (negative, body) := takeSign (dropBlanks text.toList)
  let (values, wellPlaced, after) := digitRun false body
  if values.isEmpty || !wellPlaced then .error (.notInteger text)
  else if digitLimit < values.length then .error (.tooManyDigits values.length)
  else if !(dropBlanks after).isEmpty then .error (.notInteger text)
  else
    let size : Int := ofDigits values
    .ok (if negative then -size else size)

/-! ## Decimal fractions

Only whether a text is a number matters here, never which one.
-/

def skipDigits (text : List Char) : Bool × List Char :=
  let (values, _, after) := digitRun false text
  (!values.isEmpty, after)

/-- Underscores may stand only between two digits. -/
def underscoresFit : Option Char → List Char → Bool
  | _, [] => true
  | before, '_' :: rest =>
      (before.bind digit?).isSome && (rest.head?.bind digit?).isSome && underscoresFit (some '_') rest
  | _, c :: rest => underscoresFit (some c) rest

def isExponent : List Char → Bool
  | [] => true
  | mark :: rest =>
      (mark == 'e' || mark == 'E') &&
        let (any, after) := skipDigits (takeSign rest).2
        any && after.isEmpty

def isDecimalNumeral (text : List Char) : Bool :=
  let body := (takeSign (trimBlanks text)).2
  let lower := String.ofList (body.map Char.toLower)
  lower == "inf" || lower == "infinity" || lower == "nan" ||
    (underscoresFit none body &&
      let (whole, afterWhole) := skipDigits body
      match afterWhole with
      | '.' :: rest =>
          let (part, after) := skipDigits rest
          (whole || part) && isExponent after
      | after => whole && isExponent after)

end SchemaSharp.Text
