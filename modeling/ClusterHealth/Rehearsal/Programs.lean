import ClusterHealth.Ending
import ClusterHealth.Rehearsal.Machine
import ClusterHealth.Rehearsal.Md5
import ClusterHealth.Rehearsal.Printf
import ClusterHealth.Text.Blank

/-! Programs of a rehearsal's machine. Each one turns its arguments and its input into output. -/
namespace ClusterHealth.Rehearsal
open Text (Bytes)

namespace Program

def printed (out : Bytes) : Ending := ⟨.code 0, out, []⟩

def ended (code : Nat) : Ending := ⟨.code code, [], []⟩

def refused (code : Nat) (complaint : String) : Ending :=
  ⟨.code code, [], Text.encodeUtf8 (complaint ++ "\n")⟩

def missing : String := "No such file or directory"

/-- Ends one after another; the highest code counts. -/
def joined (endings : List Ending) : Ending where
  exit := .code ((endings.map fun e => match e.exit with
    | .code n => n
    | .signal _ => 1).foldl max 0)
  stdout := endings.flatMap (·.stdout)
  stderr := endings.flatMap (·.stderr)

/-! Printing. -/

def isEchoOption (arg : String) : Bool :=
  match arg.toList with
  | '-' :: c :: rest => (c :: rest).all fun c => c = 'n' || c = 'e' || c = 'E'
  | _ => false

/-- Prints words with blanks between them and, unless escapes end it before, a final line break. -/
def echoWords (escapes : Option Dialect) (newline : Bool) (words : List String) : Bytes :=
  let text := " ".intercalate words
  let (bytes, cut) := match escapes with
    | some d => unescape d text
    | none => (Text.encodeUtf8 text, false)
  if newline && !cut then bytes ++ [0x0a] else bytes

def echo (args : List String) : Ending :=
  let options := (args.takeWhile isEchoOption).flatMap String.toList
  let escapes := options.foldl (fun on c => if c = 'e' then true else on && c ≠ 'E') false
  let dialect := if escapes then some Dialect.text else none
  printed (echoWords dialect (!options.contains 'n') (args.dropWhile isEchoOption))

def printf : List String → Ending
  | [] | ["--"] => refused 1 "printf: missing operand\nTry 'printf --help' for more information."
  | "--" :: format :: args | format :: args =>
    let o := Printf.print .program format args
    let complaints := o.complaints.map fun c => (Printf.Printer.program.message c).1 ++ "\n"
    ⟨.code (o.code .program), o.bytes, Text.encodeUtf8 (String.join complaints)⟩

/-! Files. -/

/-- What a name of a file stands for; a single dash is the input. -/
def content (m : Machine) (input : Bytes) (path : String) : Except String Bytes :=
  if path = "-" then .ok input
  else
    match m.file? path, m.locate path with
    | some bytes, _ => .ok bytes
    | none, .ok .dir => .error "Is a directory"
    | none, .error .notDirectory => .error "Not a directory"
    | none, .error .tooLong => .error "File name too long"
    | none, _ => .error missing

/-- A name as a complaint shows it. -/
def shown (name : String) : String := if name.isEmpty then "''" else name

/-- The files among some arguments, or the input if there are none. -/
def filesOf (args : List String) : List String :=
  let files := args.filter fun arg => arg = "-" || !Text.startsWith arg "-"
  if files.isEmpty then ["-"] else files

/-- Treats files one after another. -/
def forFiles (m : Machine) (name : String) (args : List String) (input : Bytes)
    (treat : String → Bytes → Bytes) : Ending :=
  joined ((filesOf args).map fun path =>
    match content m input path with
    | .ok bytes => printed (treat path bytes)
    | .error reason =>
      if reason ≠ "Is a directory" && ["head", "tail"].contains name then
        refused 1 s!"{name}: cannot open '{path}' for reading: {reason}"
      else refused 1 s!"{name}: {shown path}: {reason}")

def cat (m : Machine) (args : List String) (input : Bytes) : Ending :=
  forFiles m "cat" args input fun _ bytes => bytes

def md5sum (m : Machine) (args : List String) (input : Bytes) : Ending :=
  forFiles m "md5sum" args input fun path bytes =>
    Text.encodeUtf8 s!"{Md5.text bytes}  {path}\n"

/-- Lists files, and the names in directories. -/
def ls (m : Machine) (args : List String) : Ending :=
  joined ((filesOf args).map fun path =>
    let path := if path = "-" then "." else path
    if (m.file? path).isSome then printed (Text.encodeUtf8 (path ++ "\n"))
    else if m.isDir path then ended 0
    else refused 2 s!"ls: cannot access '{path}': {missing}")

/-! Filters. -/

def options (args : List String) : List Char :=
  (args.filter (Text.startsWith · "-")).flatMap fun arg => arg.toList.drop 1

def lineCount (bytes : Bytes) : Nat := bytes.count 0x0a

def wordCount (bytes : Bytes) : Nat :=
  let words := Text.splitWhere Text.isBlank (Text.decodeUtf8Lenient bytes).toList
  (words.filter (!·.isEmpty)).length

/-- Counts, each in seven places if there are several. -/
def counts (selected : List Char) (bytes : Bytes) : String :=
  let all := [('l', lineCount bytes), ('w', wordCount bytes),
    ('m', (Text.decodeUtf8Lenient bytes).length), ('c', bytes.length)]
  let selected := if selected.isEmpty then ['l', 'w', 'c'] else selected
  let texts := (all.filter fun (c, _) => selected.contains c).map fun (_, n) => toString n
  if texts.length ≤ 1 then "".intercalate texts
  else " ".intercalate (texts.map fun text =>
    .ofList (List.replicate (7 - text.length) ' ') ++ text)

def wc (m : Machine) (args : List String) (input : Bytes) : Ending :=
  forFiles m "wc" args input fun path bytes =>
    let label := if path = "-" then "" else " " ++ path
    Text.encodeUtf8 (counts (options args) bytes ++ label ++ "\n")

/-- Spells out ranges in a set of characters. -/
def members : List Char → List Char
  | a :: '-' :: b :: rest =>
    ((List.range (b.toNat + 1 - a.toNat)).map fun n => Char.ofNat (a.toNat + n)) ++ members rest
  | c :: rest => c :: members rest
  | [] => []

def charSet (text : String) : List Char :=
  members (Text.decodeUtf8Lenient (unescape .format text).1).toList

/-- Replaces a member of `source` by the one of `target` in its place, or by the last one. -/
def translated (source target : List Char) (c : Char) : Char :=
  match source.idxOf? c with
  | some place => target.getD place (target.getLastD c)
  | none => c

def tr (args : List String) (input : Bytes) : Ending :=
  let text := (Text.decodeUtf8Lenient input).toList
  match args with
  | ["-d", set] =>
    printed (Text.encodeUtf8 (.ofList (text.filter (!(charSet set).contains ·))))
  | [source, target] =>
    printed (Text.encodeUtf8 (.ofList (text.map (translated (charSet source) (charSet target)))))
  | _ => refused 1 "tr: missing operand\nTry 'tr --help' for more information."

/-- The first lines, each with its line break. -/
def firstLines : Nat → Bytes → Bytes
  | 0, _ => []
  | count + 1, bytes =>
    match bytes.dropWhile (· != 0x0a) with
    | [] => bytes
    | _ :: rest => bytes.takeWhile (· != 0x0a) ++ 0x0a :: firstLines count rest

def natOf (text : String) : Nat := Decimal.natOfDigits (text.toList.filter Decimal.isDigit)

/-- How much of a file is wanted. -/
inductive Share where
  | lines (n : Nat)
  | bytes (n : Nat)

/-- Reads a share and the files behind it; ten lines are the default. -/
def Share.ofArgs : List String → Share × List String
  | "-c" :: count :: files => (.bytes (natOf count), files)
  | "-n" :: count :: files => (.lines (natOf count), files)
  | arg :: files =>
    if Text.startsWith arg "-c" then (.bytes (natOf arg), files)
    else if Text.startsWith arg "-" then (.lines (natOf arg), files)
    else (.lines 10, arg :: files)
  | [] => (.lines 10, [])

def Share.first : Share → Bytes → Bytes
  | .lines n, text => firstLines n text
  | .bytes n, text => text.take n

def Share.last : Share → Bytes → Bytes
  | .lines n, text => text.drop (firstLines (lineCount text - n) text).length
  | .bytes n, text => text.drop (text.length - n)

/-- The file of zeros has as many of them as are wanted. -/
def head (m : Machine) (args : List String) (input : Bytes) : Ending :=
  match Share.ofArgs args with
  | (.bytes n, ["/dev/zero"]) => printed (List.replicate n 0)
  | (share, files) => forFiles m "head" files input fun _ bytes => share.first bytes

def tail (m : Machine) (args : List String) (input : Bytes) : Ending :=
  let (share, files) := Share.ofArgs args
  forFiles m "tail" files input fun _ bytes => share.last bytes

/-! Sequences. -/

def line (text : String) : Bytes := Text.encodeUtf8 (text ++ "\n")

/-- Numbers from the first one to the last one. -/
def countUp (first step last : Int) : List Int :=
  let steps := if step = 0 then 0 else ((last - first).fdiv step + 1).toNat
  (List.range steps).map fun (n : Nat) => first + n * step

def seq (args : List String) : Ending :=
  match args.map fun arg => Decimal.readInt? arg.toList with
  | [some last] => printed ((countUp 1 1 last).flatMap (line <| toString ·))
  | [some first, some last] => printed ((countUp first 1 last).flatMap (line <| toString ·))
  | [some first, some step, some last] =>
    printed ((countUp first step last).flatMap (line <| toString ·))
  | _ => refused 1 "seq: missing operand\nTry 'seq --help' for more information."

/-- How often a line without an end is printed; its readers stop long before. -/
def endless : Nat := 200000

def yes (args : List String) : Ending :=
  let text := if args.isEmpty then "y" else " ".intercalate args
  printed (List.replicate endless (line text)).flatten

/-- A text without what it ends in, unless that is all of it. -/
def withoutEnd (text ending : String) : String :=
  if ending.length < text.length && ending.toList.isSuffixOf text.toList then
    .ofList (text.toList.take (text.length - ending.length))
  else text

/-- The last name in a path. -/
def basename : List String → Ending
  | path :: endings =>
    let name := (FileTree.names path).getLastD (if Text.startsWith path "/" then "/" else "")
    printed (line (withoutEnd name (endings.headD "")))
  | [] => refused 1 "basename: missing operand\nTry 'basename --help' for more information."

/-! Conditions. -/

def compareNumbers (order : Int → Int → Bool) (a b : String) : Bool :=
  order (Printf.number a) (Printf.number b)

/-- What the words of a condition say about a machine. -/
def holds (m : Machine) : List String → Bool
  | "!" :: rest => !holds m rest
  | [text] => !text.isEmpty
  | ["-z", text] => text.isEmpty
  | ["-n", text] => !text.isEmpty
  | ["-d", path] => m.isDir path
  | ["-x", path] => m.isDir path || m.runs path
  | [a, "-o", b] => !a.isEmpty || !b.isEmpty
  | [a, "-a", b] => !a.isEmpty && !b.isEmpty
  | ["-e", path] | ["-r", path] | ["-w", path] => (m.file? path).isSome || m.exists? path
  | ["-f", path] => (m.file? path).isSome || (m.exists? path && !m.isDir path)
  | ["-s", path] => (m.file? path).any (!·.isEmpty)
  | [a, "=", b] | [a, "==", b] => a = b
  | [a, "!=", b] => a ≠ b
  | [a, "-eq", b] => compareNumbers (· == ·) a b
  | [a, "-ne", b] => compareNumbers (· != ·) a b
  | [a, "-lt", b] => compareNumbers (· < ·) a b
  | [a, "-le", b] => compareNumbers (· ≤ ·) a b
  | [a, "-gt", b] => compareNumbers (· > ·) a b
  | [a, "-ge", b] => compareNumbers (· ≥ ·) a b
  | _ => false

/-- What is wrong with a condition. -/
inductive Oddity where
  /-- A compared word is no number. -/
  | notNumber (word : String)
  /-- Nothing follows an operator, or the word in its place. -/
  | openEnd (first last : String)
  /-- An option that asks for nothing. -/
  | option (word : String)
  /-- Two words with something between them that compares nothing. -/
  | operator (first word : String)
  deriving DecidableEq

def comparisons : List String := ["-eq", "-ne", "-lt", "-le", "-gt", "-ge"]

def isComparison (word : String) : Bool :=
  ["=", "==", "!=", "<", ">", "-nt", "-ot", "-ef", "-a", "-o"].contains word
    || comparisons.contains word

/-- Letters of the options that ask about one word. -/
def questions : List Char := "bcdefghknprstuwxzGLNOS".toList

/-- What is wrong with the words of a condition, as far as there are no more than three. -/
def oddity? : List String → Option Oddity
  | "!" :: rest => oddity? rest
  | [first, last] =>
    match first.toList with
    | ['-', c] => if questions.contains c then none else some (.option first)
    | _ => some (.openEnd first last)
  | [a, operator, b] =>
    if comparisons.contains operator then
      ([a, b].find? fun text => (Decimal.readInt? text.toList).isNone).map .notNumber
    else if isComparison operator || (a = "(" && b = ")") then none
    else some (.operator a operator)
  | _ => none

/-- A program's words for what is wrong. -/
def Oddity.text : Oddity → String
  | .notNumber word => s!"invalid integer '{word}'"
  | .openEnd _ last => s!"missing argument after '{last}'"
  | .option word => s!"'{word}': unary operator expected"
  | .operator _ word => s!"'{word}': binary operator expected"

def test (m : Machine) (words : List String) : Ending :=
  match oddity? words with
  | some oddity => refused 2 s!"test: {oddity.text}"
  | none => ended (if holds m words then 0 else 1)

/-- Pauses take no time. -/
def sleep (args : List String) : Ending :=
  let usage := "\nTry 'sleep --help' for more information."
  let isInterval (arg : String) :=
    let chars := arg.toList
    let number := if chars.getLast?.any "smhd".toList.contains then chars.dropLast else chars
    (Decimal.readUnsigned? false number).isSome
  match args, args.find? (!isInterval ·) with
  | [], _ => refused 1 s!"sleep: missing operand{usage}"
  | _, some arg =>
    match arg.toList with
    | '-' :: c :: _ => refused 1 s!"sleep: invalid option -- '{Char.toString c}'{usage}"
    | _ => refused 1 s!"sleep: invalid time interval '{arg}'{usage}"
  | _, none => ended 0

/-- A condition whose last word is a bracket. -/
def bracket (m : Machine) (words : List String) : Ending :=
  if words.getLast? = some "]" then test m words.dropLast else refused 2 "[: missing ']'"

/-- The programs by their names. -/
def table : List (String × (Machine → List String → Bytes → Ending)) := [
  ("true", fun _ _ _ => ended 0),
  ("false", fun _ _ _ => ended 1),
  ("sleep", fun _ args _ => sleep args),
  ("echo", fun _ args _ => echo args),
  ("printf", fun _ args _ => printf args),
  ("cat", cat),
  ("md5sum", md5sum),
  ("ls", fun m args _ => ls m args),
  ("date", fun m _ _ => printed (Text.encodeUtf8 (m.clock.text ++ "\n"))),
  ("hostname", fun _ _ _ => printed (Text.encodeUtf8 "host\n")),
  ("wc", wc),
  ("tr", fun _ args input => tr args input),
  ("head", head),
  ("tail", tail),
  ("seq", fun _ args _ => seq args),
  ("yes", fun _ args _ => yes args),
  ("basename", fun _ args _ => basename args),
  ("test", fun m args _ => test m args),
  ("[", fun m args _ => bracket m args)]

end Program
end ClusterHealth.Rehearsal
