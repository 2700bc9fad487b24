import CommandRouter.Bot.Basic
import CommandRouter.Router.Instruments

/-!
# The routes of the calculator

A small bot: it calculates with integers of 64 bits and answers a greeting. A reply that cannot be
sent is given up, which is reported.
-/

namespace CommandRouter.Calculator

/-- Replies with a text. -/
def reply (content : Interaction → String) : Handler :=
  .reply (fun i => .ofMessage (content i)) fun e => [.event (.replyFailed e)]

/-- Replies with the result of an operation on the numbers of the interaction. -/
def arithmetic (op : Arithmetic) : Handler :=
  reply (op.reply "Both numbers are required." "That result can't be computed.")

/-- The answer to a greeting in the given mood. -/
def greeting : Option String → String
  | some "happy" => "Glad to hear it!"
  | some "sad" => "Sorry to hear that."
  | _ => "Hi!"

/-- Replies to a greeting. -/
def greet : Handler := reply fun i => greeting ((i.option? "happy").bind (·.string?))

/-- The routes of the bot. -/
def routes : List (String × Handler) := [
  ("/math add num1:integer num2:integer", arithmetic .add),
  ("/math subtract num1:integer num2:integer", arithmetic .subtract),
  ("/math multiply num1:integer num2:integer", arithmetic .multiply),
  ("/math divide num1:integer num2:integer", arithmetic .divide),
  ("/hi happy:string<happy,sad>", greet)]

/-- The bot, which publishes its commands for a scope. -/
def bot (scope : Scope) : Except BotError Bot :=
  routes.foldlM (fun b (pattern, h) => (b.handle pattern h).map (·.2))
    (Bot.use { scope } [Middleware.logger])

end CommandRouter.Calculator
