/-!
# Option types

The type of a command option. Two of the types *nest*: a sub-command and a group of sub-commands
hold further options. The other seven describe a value and have a name by which a pattern refers
to them. On the wire a type is a small number.
-/

namespace CommandRouter

/-- The type of a command option. -/
inductive OptionType where
  /-- A sub-command, which holds value options. -/
  | subCommand
  /-- A group, which holds sub-commands. -/
  | subCommandGroup
  /-- A text. -/
  | string
  /-- A whole number. -/
  | integer
  /-- True or false. -/
  | boolean
  /-- The id of a user. -/
  | user
  /-- The id of a channel. -/
  | channel
  /-- The id of a role. -/
  | role
  /-- The id of a user or a role. -/
  | mentionable
  deriving DecidableEq

namespace OptionType

/-- The number that stands for the type on the wire. -/
def code : OptionType → Nat
  | subCommand => 1
  | subCommandGroup => 2
  | string => 3
  | integer => 4
  | boolean => 5
  | user => 6
  | channel => 7
  | role => 8
  | mentionable => 9

/-- The type that a number on the wire stands for. -/
def ofCode? : Nat → Option OptionType
  | 1 => some subCommand
  | 2 => some subCommandGroup
  | 3 => some string
  | 4 => some integer
  | 5 => some boolean
  | 6 => some user
  | 7 => some channel
  | 8 => some role
  | 9 => some mentionable
  | _ => none

/-- The name of the type. -/
def name : OptionType → String
  | subCommand => "subcommand"
  | subCommandGroup => "subcommand_group"
  | string => "string"
  | integer => "integer"
  | boolean => "boolean"
  | user => "user"
  | channel => "channel"
  | role => "role"
  | mentionable => "mentionable"

/-- Whether options of this type hold further options. -/
def isNesting : OptionType → Bool
  | subCommand | subCommandGroup => true
  | _ => false

/-- Whether an option of this type may restrict its values to a list of choices. -/
def takesChoices : OptionType → Bool
  | string | integer => true
  | _ => false

/-- Whether values of this type are ids. -/
def isReference : OptionType → Bool
  | user | channel | role | mentionable => true
  | _ => false

/-- The types that describe a value. -/
def valueTypes : List OptionType := [string, integer, boolean, user, channel, role, mentionable]

/-- The value type of the given name. The nesting types cannot be named. -/
def ofName? (s : String) : Option OptionType := valueTypes.find? fun t => t.name == s

/-! ## Small facts -/

@[simp] theorem ofCode?_code (t : OptionType) : ofCode? t.code = some t := by cases t <;> rfl

theorem code_eq_of_ofCode? {n : Nat} {t : OptionType} (h : ofCode? n = some t) : t.code = n := by
  unfold ofCode? at h
  split at h <;> simp_all [code] <;> subst h <;> rfl

theorem mem_valueTypes {t : OptionType} : t ∈ valueTypes ↔ t.isNesting = false := by
  cases t <;> decide

end OptionType

end CommandRouter
