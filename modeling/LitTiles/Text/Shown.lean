/-!
# What is shown of a text

Control characters are not shown, apart from the blanks among them, and neither are the commands for
terminals that begin with an escape character. Most commands end with a final character; those that
carry a text go on up to a control character that ends them, and some of them also end within a
character beyond ASCII (`CommandState.endsText`).

What is shown comes in runs. A run begins with a character that is shown where it stands
(`CommandState.shows`) and goes on up to the next control character that is no blank. A blank may
begin a run inside of a command; the command is then suspended, and goes on after the run unless a
character beyond ASCII was in it.
-/

namespace LitTiles

/-- Where a reader of commands for terminals stands. -/
inductive CommandState where
  /-- Outside of commands. -/
  | outside
  /-- After the escape character. -/
  | started
  /-- In a command without parameters. -/
  | plain
  /-- In a command with parameters. -/
  | parameters
  /-- At the start of a command to the device. -/
  | device
  /-- In the parameters of a command to the device. -/
  | deviceParameters
  /-- After the parameters of a command to the device. -/
  | deviceMarks
  /-- In the text of a command. -/
  | text
  /-- In the title of a window, which a bell ends. -/
  | title
  deriving DecidableEq, Inhabited

namespace CommandState

/-- Whether a character is a control character that is shown as a blank. -/
def isBlankControl (c : Char) : Bool := c == '\t' || c == '\n' || c == '\x0c' || c == '\r'

/-- Whether a run of characters that are shown goes on with a character. -/
def continuesRun (c : Char) : Bool := isBlankControl c || (' ' ≤ c && c != '\x7f')

/-- Whether a character begins a run of characters that are shown. -/
def shows (s : CommandState) (c : Char) : Bool :=
  match s with
  | outside => continuesRun c
  | started | plain | parameters => isBlankControl c
  | device | deviceParameters | deviceMarks | text | title => false

/-- Whether the text of a command ends within a character. The byte that ends it is a control
character where characters are bytes; here it is one of the later bytes of a character. -/
def endsText (c : Char) : Bool := ((String.utf8EncodeChar c).drop 1).contains 0x9c

/-- The state after a character that is not shown. -/
def next (s : CommandState) (c : Char) : CommandState :=
  let isMark := ' ' ≤ c && c ≤ '/'
  let isParameter := '0' ≤ c && c ≤ ';'
  let isFinal := '@' ≤ c && c ≤ '~'
  if c = '\x1b' then started
  else if c = '\x18' || c = '\x1a' then outside
  else
    match s with
    | outside => outside
    | started =>
      if c = '[' then parameters
      else if c = ']' then title
      else if c = 'P' then device
      else if c = 'X' || c = '^' || c = '_' then text
      else if isMark then plain
      else if '0' ≤ c && c ≤ '~' then outside
      else started
    | plain => if '0' ≤ c && c ≤ '~' then outside else plain
    | parameters => if isFinal then outside else parameters
    | device =>
      if isMark then deviceMarks
      else if '0' ≤ c && c ≤ '?' then deviceParameters
      else if isFinal then text
      else device
    | deviceParameters =>
      if isMark then deviceMarks
      else if isParameter then deviceParameters
      else if '<' ≤ c && c ≤ '~' then text
      else deviceParameters
    | deviceMarks => if '0' ≤ c && c ≤ '~' then text else deviceMarks
    | text => if endsText c then outside else text
    | title => if c = '\x07' then outside else title

end CommandState

/-- What is shown of a text, in a run or not, from a state on. -/
def shownFrom (inRun : Bool) (s : CommandState) : List Char → List Char
  | [] => []
  | c :: cs =>
    if inRun && CommandState.continuesRun c || s.shows c then
      c :: shownFrom true (if 0x80 ≤ c.toNat then .outside else s) cs
    else shownFrom false (s.next c) cs

/-- What is shown of a text. -/
def shownText (text : String) : String := String.ofList (shownFrom false .outside text.toList)

end LitTiles
