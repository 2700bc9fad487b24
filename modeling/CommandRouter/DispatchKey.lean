import CommandRouter.Pattern.Basic

/-!
# Dispatch keys

A dispatch key names one routable node of the command tree: a slash and the name of the command,
then the names on the way down, each after a space. The key of a pattern and the key of an incoming
invocation are made by the same function, so a router that stores handlers by the first finds them
by the second.
-/

namespace CommandRouter

/-- The name of a routable node. -/
structure DispatchKey where
  /-- The key as a text. -/
  text : String
  deriving DecidableEq

namespace DispatchKey

/-- The key of the node below a command that the given names lead to. -/
def ofPath (command : String) (path : List String) : DispatchKey :=
  ⟨.ofList ('/' :: [' '].intercalate ((command :: path).map String.toList))⟩

/-- The name of the command, without its slash. -/
def commandName (k : DispatchKey) : String :=
  .ofList ((k.text.toList.drop 1).takeWhile (· != ' '))

/-- The keys in the order of their texts, each once. -/
def sorted (keys : List DispatchKey) : List DispatchKey :=
  (keys.mergeSort fun a b => decide (a.text ≤ b.text)).eraseReps

end DispatchKey

/-- The key of the node that a pattern describes. -/
def Pattern.key (p : Pattern) : DispatchKey := .ofPath p.name p.path

end CommandRouter
