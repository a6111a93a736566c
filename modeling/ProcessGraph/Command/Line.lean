import ProcessGraph.Command.Listing
import ProcessGraph.Command.Watch

/-!
# Command lines

* `Level`: the options, flags and operands that a command knows.
* `scan`: reads the words of a level from left to right. A command name ends the top level.
* `Options`: what a command line asks for; `Options.parse` reads it.

An option takes its value from the next word or after an equals sign, and is given once per level.
The next word is no value if it begins with a dash, unless it is nothing else. After two dashes there
are only operands. A value that is a word of its own is looked at when the level goes on or ends; the
top level ends after the command.
-/

namespace ProcessGraph.Command

/-- What is done for a command line. -/
inductive Task where
  | containers
  | processes (container : String)
  | list (target : ListTarget)
  | call (c : Call)
  | watch (w : Watch)
deriving DecidableEq, Repr

/-- Why there is nothing to be done: the command line is ill-formed, or asks for help or for the
version. -/
inductive Stop where
  | usage
  | help
  | version
deriving DecidableEq, Repr

/-- What a command line asks for. -/
structure Options where
  config : Option String
  baseUrl : Option String
  task : Task
deriving DecidableEq, Repr

namespace Line

/-! ## words -/

/-- The kinds of words. -/
inductive Word where
  | dashes
  | long (name : String) (value : Option String)
  | short (letters : List Char)
  | plain

/-- The kind of a word. -/
def Word.of (word : String) : Word :=
  match word.toList with
  | ['-', '-'] => dashes
  | '-' :: '-' :: cs =>
    let name := String.ofList (cs.takeWhile (· ≠ '='))
    match cs.dropWhile (· ≠ '=') with
    | [] => long name none
    | _ :: value => long name (some (String.ofList value))
  | '-' :: c :: cs => short (c :: cs)
  | _ => plain

/-- Can the word be the value of the option before it? -/
def isValue (word : String) : Bool :=
  match Word.of word with
  | .plain => true
  | _ => false

/-- An unsigned number of 64 bits; a plus sign may stand before it. -/
def natural? (word : String) : Option Nat :=
  let digits := match word.toList with
    | '+' :: cs => cs
    | cs => cs
  if digits.isEmpty || !digits.all (fun c => '0' ≤ c && c ≤ '9') then none
  else
    let n := digits.foldl (fun n d => n * 10 + (d.toNat - '0'.toNat)) 0
    if n < Nat.pow 2 64 then some n else none

/-! ## levels -/

/-- The options that a level knows, each with a check of its value; its flags; how many operands it
takes, and their check; and whether it is the one before the command name. -/
structure Level where
  options : List (String × (String → Bool))
  flags : List String
  operands : Nat
  isOperand : String → Bool
  isTop : Bool

/-- What has been read of a level. The option that was read last may have a value that has not been
looked at. -/
structure Scan where
  values : List (String × String)
  flags : List String
  operands : List String
  open? : Option (String × String)

/-- The value of an option. -/
def Scan.value? (s : Scan) (name : String) : Option String := Keyed.find? name s.values

/-- Takes the value of an option. -/
def takeValue (level : Level) (s : Scan) (name value : String) : Except Stop Scan :=
  match level.options.find? fun o => o.1 = name with
  | none => .error .usage
  | some (_, check) =>
    if (s.value? name).isSome || !check value then .error .usage
    else .ok { s with values := s.values ++ [(name, value)] }

/-- Looks at the value that has not been looked at. -/
def settle (level : Level) (s : Scan) : Except Stop Scan :=
  match s.open? with
  | none => .ok s
  | some (name, value) => takeValue level { s with open? := none } name value

/-- Takes a flag. -/
def takeFlag (s : Scan) (name : String) : Except Stop Scan :=
  if s.flags.contains name then .error .usage else .ok { s with flags := s.flags ++ [name] }

/-- Takes operands. -/
def takeOperands (level : Level) (s : Scan) (words : List String) : Except Stop Scan :=
  if s.operands.length + words.length ≤ level.operands ∧ words.all level.isOperand then
    .ok { s with operands := s.operands ++ words }
  else .error .usage

/-- Takes a word that needs no other one beside it: an operand, a flag, or an option with its
value. -/
def takeWord (level : Level) (s : Scan) : Word → String → Except Stop Scan
  | .plain, word => takeOperands level s [word]
  | .long _ none, "--help" | .short ('h' :: _), _ => .error .help
  | .long _ none, "--version" | .short ('V' :: _), _ =>
    .error (if level.isTop then .version else .usage)
  | .long name none, _ => if level.flags.contains name then takeFlag s name else .error .usage
  | .long name (some value), _ => takeValue level s name value
  | _, _ => .error .usage

/-- Does the word name an option whose value is the next word? -/
def opensOption (level : Level) : Word → Option String
  | .long name none => if level.options.any (·.1 = name) then some name else none
  | _ => none

/-- Reads the words of a level. Gives the words from the command name on. -/
def scan (level : Level) (s : Scan) (words : List String) : Except Stop (Scan × List String) :=
  match words with
  | [] => .ok (s, [])
  | word :: rest =>
    match Word.of word with
    | .dashes => (takeOperands level s rest).map fun s => (s, [])
    | kind =>
      if level.isTop && isValue word then .ok (s, word :: rest)
      else
        match settle level s with
        | .error e => .error e
        | .ok s =>
          match opensOption level kind, rest with
          | none, rest =>
            match takeWord level s kind word with
            | .ok s => scan level s rest
            | .error e => .error e
          | some name, value :: rest =>
            if isValue value then scan level { s with open? := some (name, value) } rest
            else .error .usage
          | some _, [] => .error .usage
termination_by words.length

/-- Accepts every value. -/
def anyValue : String → Bool := fun _ => true

/-- Accepts values that are not empty. -/
def notEmpty : String → Bool := fun value => !value.isEmpty

/-- Accepts unsigned numbers. -/
def isNatural : String → Bool := fun value => (natural? value).isSome

/-- The options that every level knows. -/
def common : List (String × (String → Bool)) := [("config", notEmpty), ("base-url", anyValue)]

/-- What the server can list, by name. -/
def listTarget? (name : String) : Option ListTarget :=
  match name with
  | "containers" => some .containers
  | "processes" => some .processes
  | _ => none

/-- The level before the command name. -/
def top : Level := ⟨common, [], 0, anyValue, true⟩

/-- The level of a command. -/
def levelOf? (name : String) : Option Level :=
  match name with
  | "containers" => some ⟨common, [], 0, anyValue, false⟩
  | "processes" => some ⟨("container", anyValue) :: common, [], 0, anyValue, false⟩
  | "list" => some ⟨common, [], 1, fun word => (listTarget? word).isSome, false⟩
  | "call" =>
    some ⟨("container", anyValue) :: ("process", anyValue) :: ("args", anyValue) :: common,
      ["execute"], 0, anyValue, false⟩
  | "watch" =>
    some ⟨("container", anyValue) :: ("process", anyValue) :: ("args", anyValue) ::
      ("interval-ms", isNatural) :: ("ticks", isNatural) :: common, [], 0, anyValue, false⟩
  | _ => none

/-! ## tasks -/

/-- The task of a command whose words have been read. -/
def task? (name : String) (s : Scan) : Option Task :=
  match name with
  | "containers" => some .containers
  | "processes" => (s.value? "container").map .processes
  | "list" => (s.operands.head?.bind listTarget?).map .list
  | "call" => do
    let container ← s.value? "container"
    let process ← s.value? "process"
    let execute := s.flags.contains "execute"
    if execute && (s.value? "args").isSome then none
    return .call ⟨container, process, s.value? "args", execute⟩
  | "watch" => do
    let container ← s.value? "container"
    let process ← s.value? "process"
    return .watch ⟨container, process, s.value? "args", (s.value? "interval-ms").bind natural?,
      (s.value? "ticks").bind natural?⟩
  | _ => none

/-- What a request for help about some commands comes to. -/
def helpStop : List String → Stop
  | [] => .help
  | [name] => if name = "help" || (levelOf? name).isSome then .help else .usage
  | _ => .usage

end Line

/-- Reads a command line. The deeper level wins over the other one, and both over the base URL of
the environment. -/
def Options.parse (environmentUrl : Option String) (words : List String) : Except Stop Options := do
  let nothing : Line.Scan := ⟨[], [], [], none⟩
  let (top, rest) ← Line.scan Line.top nothing words
  match rest with
  | [] => throw .usage
  | name :: rest =>
    if name = "help" then throw (Line.helpStop rest)
    match Line.levelOf? name with
    | none => throw .usage
    | some level =>
      let (sub, _) ← Line.scan level nothing rest
      let sub ← Line.settle level sub
      match Line.task? name sub with
      | none => throw .usage
      | some task =>
        let top ← Line.settle Line.top top
        let value (name : String) := (sub.value? name).orElse fun _ => top.value? name
        return ⟨value "config", (value "base-url").orElse fun _ => environmentUrl, task⟩

end ProcessGraph.Command
