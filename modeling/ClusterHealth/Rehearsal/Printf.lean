import ClusterHealth.Decimal.Reading
import ClusterHealth.Decimal.Text
import ClusterHealth.Rehearsal.Escapes
import ClusterHealth.Text.Affix

/-!
Formatted printing: a format is used again until no argument is left. Arguments that are no numbers
are printed as far as they are; a directive that nothing is known of ends the printing.
-/
namespace ClusterHealth.Rehearsal.Printf
open Text (Bytes)

/-- What is wrong with an argument or a directive. -/
inductive Complaint where
  | notNumeric (arg : String)
  | trailing (arg : String)
  | outOfRange (arg : String)
  | directive (text : String)
  /-- The format ends within a directive. -/
  | openDirective (text : String)
  deriving DecidableEq

/-- Who prints. -/
inductive Printer where
  | program
  | shell
  deriving DecidableEq

def Printer.dialect : Printer → Dialect
  | .program => .format
  | .shell => Dialect.format.shell

/-- The text of a complaint and the code that it ends with. -/
def Printer.message : Printer → Complaint → String × Nat
  | .program, .notNumeric arg => (s!"printf: '{arg}': expected a numeric value", 1)
  | .program, .trailing arg => (s!"printf: '{arg}': value not completely converted", 1)
  | .program, .outOfRange arg => (s!"printf: '{arg}': Numerical result out of range", 1)
  | .program, .directive text => (s!"printf: {text}: invalid conversion specification", 1)
  | .program, .openDirective text => (s!"printf: {text}: invalid conversion specification", 1)
  | .shell, .notNumeric arg => (s!"printf: {arg}: expected numeric value", 1)
  | .shell, .trailing arg => (s!"printf: {arg}: not completely converted", 1)
  | .shell, .outOfRange arg => (s!"printf: {arg}: Numerical result out of range", 1)
  | .shell, .directive text => (s!"printf: {text}: invalid directive", 2)
  | .shell, .openDirective _ => ("printf: missing format character", 2)

/-- A width or a precision. -/
inductive Extent where
  | given (n : Nat)
  /-- The next argument says it. -/
  | argument
  deriving DecidableEq

/-- How an argument is printed. -/
structure Conversion where
  kind : Char
  flags : List Char
  width : Extent
  precision : Option Extent

inductive Part where
  | text (bytes : Bytes)
  | conversion (c : Conversion)
  /-- Nothing is printed any more. -/
  | stop (complaint : Option Complaint)

def isFlag (c : Char) : Bool := c = '-' || c = '0' || c = '+' || c = ' ' || c = '#'

def isSize (c : Char) : Bool := "hlLjqtz".toList.contains c

def kinds : List Char := "diouxXfFcsb".toList

def readExtent (chars : List Char) : Extent × List Char :=
  match chars with
  | '*' :: rest => (.argument, rest)
  | chars =>
    (.given (Decimal.natOfDigits (chars.takeWhile Decimal.isDigit)),
      chars.dropWhile Decimal.isDigit)

/-- Reads behind a percent sign. -/
def readConversion (p : Printer) (chars : List Char) : Part × List Char :=
  let flags := chars.takeWhile isFlag
  let (width, rest) := readExtent (chars.dropWhile isFlag)
  let (precision, rest) := match rest with
    | '.' :: rest =>
      let (extent, rest) := readExtent rest
      (some extent, rest)
    | rest => (none, rest)
  let rest := if p = .program then rest.dropWhile isSize else rest
  match rest with
  | [] => (.stop (some (.openDirective (.ofList ('%' :: chars)))), [])
  | kind :: rest =>
    if kinds.contains kind then (.conversion ⟨kind, flags, width, precision⟩, rest)
    else
      let directive := '%' :: chars.take (chars.length - rest.length)
      (.stop (some (.directive (.ofList directive))), [])

/-- Reads a format. Each part spends one unit of fuel. -/
def readParts (p : Printer) : Nat → List Char → List Part
  | 0, _ | _, [] => []
  | fuel + 1, '%' :: '%' :: rest => .text [0x25] :: readParts p fuel rest
  | fuel + 1, '%' :: rest =>
    let (part, rest) := readConversion p rest
    part :: readParts p fuel rest
  | fuel + 1, c :: rest =>
    if p = .program ∧ c = '\\' ∧ rest.head? = some 'c' then [.stop none]
    else
      match if c = '\\' then Escape.read? p.dialect rest else none with
      | some (byte, rest) => .text [byte] :: readParts p fuel rest
      | none => .text (String.utf8EncodeChar c) :: readParts p fuel rest

/-- The number that a text spells in decimal digits, or else zero. -/
def number (text : String) : Int := (Decimal.readInt? text.toList).getD 0

/-- The digits of a base at the beginning of a text. -/
def takeDigits (base : Nat) (chars : List Char) : Nat × List Char :=
  let isOfBase (c : Char) := (Json.hexValue? c).any (· < base)
  let digits := chars.takeWhile isOfBase
  (digits.foldl (fun n c => n * base + (Json.hexValue? c).getD 0) 0, chars.dropWhile isOfBase)

/-- The whole number at the beginning of a text, and what follows it; two letters announce
hexadecimal digits, and a zero octal ones. -/
def takeNumber (chars : List Char) : Option (Int × List Char) :=
  let (negative, chars) := Decimal.takeSign (chars.dropWhile (·.isWhitespace))
  let (n, rest) := match chars with
    | '0' :: 'x' :: c :: rest | '0' :: 'X' :: c :: rest =>
      if Json.isHex c then takeDigits 16 (c :: rest) else (0, 'x' :: c :: rest)
    | '0' :: rest => takeDigits 8 rest
    | chars => takeDigits 10 chars
  if (chars.head?.map Decimal.isDigit).getD false then
    some (if negative then -(n : Int) else n, rest)
  else none

/-- The number that an argument stands for: a quote stands in front of a byte. -/
def value (signed : Bool) (arg : String) : Int × Option Complaint :=
  match arg.toList with
  | [] => (0, none)
  | '\x27' :: c :: _ | '"' :: c :: _ => (((String.utf8EncodeChar c).headD 0).toNat, none)
  | chars =>
    match takeNumber chars with
    | none => (0, some (.notNumeric arg))
    | some (n, rest) =>
      let low : Int := if signed then -Nat.pow 2 63 else 1 - Nat.pow 2 64
      let high : Int := if signed then Nat.pow 2 63 - 1 else Nat.pow 2 64 - 1
      let complaint := if n < low ∨ high < n then some (Complaint.outOfRange arg)
        else if rest.isEmpty then none else some (.trailing arg)
      let n := max low (min high n)
      (if signed || 0 ≤ n then n else n + Nat.pow 2 64, complaint)

/-- A conversion whose extents are known. -/
structure Layout where
  left : Bool
  width : Nat
  precision : Option Nat

/-- Fills up to the width. -/
def Layout.fill (l : Layout) (bytes : Bytes) : Bytes :=
  let blanks := List.replicate (l.width - bytes.length) 0x20
  if l.left then bytes ++ blanks else blanks ++ bytes

/-- Puts digits behind a sign or a mark of their base, with zeros between them if there is room. -/
def Layout.fillNumber (l : Layout) (flags : List Char) (exact : Bool) (sign digits : String) :
    Bytes :=
  let wanted := if exact && l.precision.isNone && flags.contains '0' && !l.left
      || !exact && flags.contains '0' && !l.left then l.width - sign.length
    else if exact then l.precision.getD 1 else 0
  let zeros := String.ofList (List.replicate (wanted - digits.length) '0')
  l.fill (Text.encodeUtf8 (sign ++ zeros ++ digits))

def signOf (flags : List Char) (negative : Bool) : String :=
  if negative then "-" else if flags.contains '+' then "+"
  else if flags.contains ' ' then " " else ""

def digitsOf (base n : Nat) : String := .ofList (Nat.toDigits base n)

/-- Prints a floating-point number. -/
def convertFloat (l : Layout) (flags : List Char) (arg : String) : Bytes × Option Complaint :=
  let number := if arg.isEmpty then some (.ofFloat 0) else Decimal.readFloat? arg
  let x := number.getD (.ofFloat 0)
  let text := x.fixed (l.precision.getD 6)
  let digits := (Text.after? text "-").getD text
  (l.fillNumber flags false (signOf flags x.negative) digits,
    if number.isNone then some (.notNumeric arg) else none)

/-- Prints one argument; tells whether an escape in it ends all printing. -/
def convert (p : Printer) (kind : Char) (flags : List Char) (l : Layout) (arg : String) :
    Bytes × Option Complaint × Bool :=
  let cut (bytes : Bytes) := bytes.take (l.precision.getD bytes.length)
  let unsigned (write : Nat → String × String) :=
    let (n, complaint) := value false arg
    let (mark, digits) := write n.toNat
    let mark := if flags.contains '#' && n ≠ 0 then mark else ""
    (l.fillNumber flags true mark digits, complaint, false)
  match kind with
  | 'd' | 'i' =>
    let (n, complaint) := value true arg
    (l.fillNumber flags true (signOf flags (n < 0)) (digitsOf 10 n.natAbs), complaint, false)
  | 'u' => unsigned fun n => ("", digitsOf 10 n)
  | 'o' => unsigned fun n => ("0", digitsOf 8 n)
  | 'x' => unsigned fun n => ("0x", digitsOf 16 n)
  | 'X' => unsigned fun n => ("0X", (digitsOf 16 n).toUpper)
  | 'f' | 'F' =>
    let (bytes, complaint) := convertFloat l flags arg
    (bytes, complaint, false)
  | 'c' => (l.fill ((Text.encodeUtf8 arg ++ [0]).take 1), none, false)
  | 'b' =>
    let (bytes, ended) := unescape { p.dialect with zeroLed := true } arg
    (l.fill (cut bytes), none, ended)
  | _ => (l.fill (cut (Text.encodeUtf8 arg)), none, false)

/-- What has been printed, and what there was to complain about. -/
structure Output where
  bytes : Bytes := []
  complaints : List Complaint := []
  stopped : Bool := false

def Output.add (o : Output) (bytes : Bytes) (complaints : List Complaint) (stopped : Bool) :
    Output :=
  ⟨o.bytes ++ bytes, o.complaints ++ complaints, stopped⟩

/-- The number of an extent, and the arguments that are left. A negative one has its sign as a
flag. -/
def Extent.resolve (args : List String) : Extent → Int × List String
  | .given n => (n, args)
  | .argument => ((value true (args.headD "")).1, args.tail)

/-- Prints the parts once, and returns the arguments that are left. -/
def printOnce (p : Printer) : List Part → List String → Output → Output × List String
  | [], args, o => (o, args)
  | .text bytes :: rest, args, o => printOnce p rest args (o.add bytes [] false)
  | .stop complaint :: _, args, o => (o.add [] complaint.toList true, args)
  | .conversion c :: rest, args, o =>
    let (width, args) := c.width.resolve args
    let (precision, args) := match c.precision with
      | none => (none, args)
      | some extent =>
        let (n, args) := extent.resolve args
        (if n < 0 then none else some n.toNat, args)
    let l : Layout := ⟨c.flags.contains '-' || width < 0, width.natAbs, precision⟩
    let (bytes, complaint, ended) := convert p c.kind c.flags l (args.headD "")
    let o := o.add bytes complaint.toList ended
    if ended then (o, args.tail) else printOnce p rest args.tail o

/-- Prints the parts, and again while they take arguments and there are any. -/
def printAgain (p : Printer) (parts : List Part) : Nat → List String → Output → Output
  | 0, _, o => o
  | times + 1, args, o =>
    let (o, left) := printOnce p parts args o
    if o.stopped || left.isEmpty || left.length = args.length then o
    else printAgain p parts times left o

def print (p : Printer) (format : String) (args : List String) : Output :=
  printAgain p (readParts p format.length format.toList) (args.length + 1) args {}

/-- The code that a printer ends with. -/
def Output.code (o : Output) (p : Printer) : Nat :=
  (o.complaints.map fun complaint => (p.message complaint).2).foldl max 0

end ClusterHealth.Rehearsal.Printf
