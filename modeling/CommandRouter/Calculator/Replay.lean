import CommandRouter.Bot.Serving
import CommandRouter.Calculator.Arguments
import CommandRouter.Calculator.Routes
import CommandRouter.Command.Wire
import CommandRouter.Config.Loader
import CommandRouter.Interaction.Wire
import CommandRouter.Json.Printer
import CommandRouter.Text.Lines

/-!
# Replaying interactions

The calculator goes live on a session without a network, reads interactions from its input, one a
line, and prints every reply. Blank lines and lines that are no interaction are passed over; a line
that cannot be read ends the replay.
-/

namespace CommandRouter.Calculator

/-! ## Lines -/

/-- The lines of a text. -/
def inputLines (text : String) : List String :=
  (Text.linesOf '\n' '\r' text.toList).map String.ofList

/-- Reads a line from its bytes, which must be UTF-8. -/
def readLine (bytes : List UInt8) : Except String String :=
  match String.fromUTF8? bytes.toByteArray with
  | some line => .ok line
  | none => .error "stream did not contain valid UTF-8"

/-- The lines of an input, or why they cannot be read. -/
def readLines (input : ByteArray) : List (Except String String) :=
  (Text.linesOf 10 13 input.data.toList).map readLine

/-- A line that a reply is printed as: the id of the interaction, a tab and the response. -/
def replyLine (reply : String × Response) : String :=
  reply.1 ++ "\t" ++ reply.2.encode.toCompact ++ "\n"

/-- The commands as they are printed. -/
def commandLines (commands : List ApplicationCommand) : String :=
  (Json.array (commands.map ApplicationCommand.encode)).toPretty ++ "\n"

/-! ## Replaying -/

/-- Replays a line: the replies to it, unless the session does not take the interaction. -/
def replayLine (line : String) (x : Exchange) :
    Except SessionError (List (String × Response) × Exchange) :=
  if Text.isBlankText line.toList then .ok ([], x)
  else match Interaction.decode.ofText line with
    | .error _ => .ok ([], x.report .lineSkipped)
    | .ok i => (x.deliver i).map fun x =>
      let (replies, session) := x.session.takeResponses
      (replies, { x with session })

/-- Replays lines until one cannot be read or the session does not take an interaction: the replies
to them. -/
def replay : List (Except String String) → Exchange → List (String × Response) × Exchange
  | [], x => ([], x)
  | .error reason :: _, x => ([], x.report (.inputUnreadable reason))
  | .ok line :: lines, x =>
    match replayLine line x with
    | .error e => ([], x.report (.deliveryFailed e))
    | .ok (replies, x) =>
      let (more, x) := replay lines x
      (replies ++ more, x)

/-- The work of the live bot: what it prints for the given lines. -/
def work (a : Arguments) (scope : Scope) (lines : List (Except String String)) (x : Exchange) :
    String × Exchange :=
  let commands :=
    if a.printsCommands then commandLines ((x.session.published? scope).getD []) else ""
  let (replies, x) := replay lines x
  (commands ++ String.join (replies.map replyLine), x)

/-! ## The program -/

/-- What came of the program. -/
inductive Ending where
  /-- It printed a text. -/
  | done (output : String)
  /-- It was asked for help. -/
  | help
  /-- It was asked for its version. -/
  | version
  /-- The command line is wrong. -/
  | badArguments (e : ArgumentError)
  /-- There is no configuration. -/
  | badConfig (e : ConfigError)
  /-- The bot could not go live, or could not stop after it had printed a text. -/
  | failed (output : String) (e : BotError)
  deriving DecidableEq

namespace Ending

/-- The number that the program ends with. -/
def code : Ending → Nat
  | done _ | help | version => 0
  | badConfig _ | failed .. => 1
  | badArguments _ => 2

/-- What was printed. -/
def output : Ending → String
  | done s | failed s _ => s
  | _ => ""

end Ending

/-- Runs the bot with a configuration on the lines of an input. -/
def runWith (a : Arguments) (c : Config) (lines : List (Except String String)) : Ending :=
  let scope := c.bot.scope
  match bot scope with
  | .error e => .failed "" e
  | .ok b =>
    let run := b.runUntil (work a scope lines) { session := { applicationId := a.applicationId } }
    let output := run.work.getD ""
    match run.result with
    | .ok () => .done output
    | .error e => .failed output e

/-- Runs the program with the given arguments and the bytes of its input. -/
def runOnBytes (arguments : List String) (s : Surroundings) (input : ByteArray) : Ending :=
  match Request.parse arguments with
  | .error e => .badArguments e
  | .ok .help => .help
  | .ok .version => .version
  | .ok (.run a) =>
    match Loader.load { file := a.config } s with
    | .error e => .badConfig e
    | .ok c => runWith a c (readLines input)

/-- Runs the program with the given arguments and an input that is a text. -/
def run (arguments : List String) (s : Surroundings) (input : String) : Ending :=
  runOnBytes arguments s input.toUTF8

end CommandRouter.Calculator
