import ScriptScope.Disk.Path
import ScriptScope.Text.Parts

/-!
# Arguments

The arguments are flags and operands. Flags of the program stand before the verb; all that follows
the verb belongs to it. A flag can be written in any of its spellings, a long one also by a
beginning that no other flag shares, and its value as the next argument or with it. After a double
dash everything is an operand.

Arguments are read from left to right, and the first thing that settles the matter counts: a request
for help wins over anything wrong behind it.
-/

namespace ScriptScope.Cli

/-- What the program can be asked to do. -/
inductive Verb where
  | scope
  | names
  | members
  | settings
  deriving DecidableEq, Repr

/-- The flags of the program and of its verbs. -/
inductive Flag where
  | help
  | catalog
  | modulePath
  | seed
  | indent
  deriving DecidableEq, Repr

/-- The operands that can follow flags. -/
inductive Slot where
  /-- An operand that has to be there. -/
  | one
  /-- An operand that may be absent. -/
  | optional
  /-- A verb and all that follows it. -/
  | command
  deriving DecidableEq, Repr

namespace Flag

/-- How a flag is written. -/
def spellings : Flag → List String
  | help => ["-h", "--help"]
  | catalog => ["-c", "--catalog"]
  | modulePath => ["-m", "--module-path"]
  | seed => ["-s", "--seed"]
  | indent => ["-i", "--indent"]

end Flag

namespace Args

/-! ### What an argument is -/

/-- A flag as it stands in an argument. -/
structure FlagUse where
  flag : Flag
  /-- Whether it is written with one dash. -/
  short : Bool
  /-- The value that is written with it. -/
  value : Option String
  deriving DecidableEq, Repr

/-- What an argument is taken for. -/
inductive Mark where
  | operand
  /-- A double dash. -/
  | separator
  /-- A flag; absent inside if it is not known. -/
  | flag (use : Option FlagUse)
  deriving DecidableEq, Repr

namespace Mark

/-- Whether a mark is that of a flag. -/
def isFlag : Mark → Bool
  | flag _ => true
  | _ => false

end Mark

/-- The flag with a spelling. -/
def flag? (flags : List Flag) (spelling : String) : Option Flag :=
  flags.find? (fun f => f.spellings.contains spelling)

/-- Splits an argument at its first equals sign. -/
def splitValue (arg : String) : String × Option String :=
  let name := arg.toList.takeWhile (· != '=')
  match arg.toList.drop name.length with
  | _ :: value => (String.ofList name, some (String.ofList value))
  | [] => (arg, none)

/-- The flags that an argument can stand for that is not the spelling of one. -/
def candidates (flags : List Flag) (arg : String) : List FlagUse :=
  if Text.startsWith arg "--" then
    let (name, value) := splitValue arg
    flags.flatMap (fun f =>
      (f.spellings.filter (Text.startsWith · name)).map (fun _ => ⟨f, false, value⟩))
  else
    let value := String.ofList (arg.toList.drop 2)
    (flags.filter (fun f => f.spellings.contains (String.ofList (arg.toList.take 2)))).map
      (fun f => ⟨f, true, some value⟩)

/-- Whether an argument is a negative number. -/
def isNegative (arg : String) : Bool :=
  match arg.toList with
  | '-' :: rest =>
    let whole := rest.takeWhile Char.isDigit
    match rest.drop whole.length with
    | [] => !whole.isEmpty
    | '.' :: fraction => !fraction.isEmpty && fraction.all Char.isDigit
    | _ => false
  | _ => false

/-- What an argument is taken for; absent if it can stand for several flags. -/
def mark? (flags : List Flag) (arg : String) : Option Mark :=
  let isShort := !Text.startsWith arg "--"
  if !Text.startsWith arg "-" || arg == "-" then some .operand
  else match flag? flags arg with
    | some f => some (.flag (some ⟨f, isShort, none⟩))
    | none =>
      let (name, value) := splitValue arg
      match value.bind (fun _ => flag? flags name) with
      | some f => some (.flag (some ⟨f, isShort, value⟩))
      | none =>
        match candidates flags arg with
        | [use] => some (.flag (some use))
        | _ :: _ :: _ => none
        | [] => some (if isNegative arg || Text.contains arg " " then .operand else .flag none)

/-- Arguments with what they are taken for. -/
abbrev Marked := List (String × Mark)

/-- Marks arguments; after a double dash all are operands. -/
def marks? (flags : List Flag) : List String → Option Marked
  | [] => some []
  | arg :: rest =>
    if arg = "--" then some ((arg, .separator) :: rest.map (·, .operand))
    else match mark? flags arg, marks? flags rest with
      | some mark, some marked => some ((arg, mark) :: marked)
      | _, _ => none

/-! ### Operands -/

/-- An operand that was found. -/
inductive Filled where
  | operand (value : Option String)
  | command (args : List String)
  deriving DecidableEq, Repr

/-- Fills as many slots as arguments from the left can. A double dash goes with an operand next to
it, and the first one of an operand's arguments is dropped. -/
def fill : List Slot → Marked → List Filled × List Slot × Marked
  | [], args => ([], [], args)
  | slot :: slots, args =>
    let lead := args.takeWhile (fun a => a.2 == .separator)
    match args.drop lead.length, slot with
    | (_, .operand) :: _, .command => ([.command (args.map Prod.fst)], slots, [])
    | (value, .operand) :: rest, _ =>
      let trail := rest.takeWhile (fun a => a.2 == .separator)
      let texts := lead.map Prod.fst ++ value :: trail.map Prod.fst
      let (filled, unfilled, left) := fill slots (rest.drop trail.length)
      (.operand (texts.erase "--").head? :: filled, unfilled, left)
    | rest, .optional =>
      let (filled, unfilled, left) := fill slots rest
      (.operand none :: filled, unfilled, left)
    | _, _ => ([], slot :: slots, args)

/-! ### Flags and operands together -/

/-- Why reading ends early. -/
inductive Halt where
  | help
  | misuse
  deriving DecidableEq, Repr

/-- What was read. -/
structure Taken where
  values : List (Flag × String) := []
  filled : List Filled := []
  /-- Whether something was given that has no place. -/
  surplus : Bool := false
  deriving DecidableEq, Repr

/-- Short flags written together, the first of which asked for help: help is given if the others can
be read. -/
def cluster (flags : List Flag) (next : Marked) : List Char → Halt
  | [] => .misuse
  | c :: rest =>
    match flag? flags (String.ofList ['-', c]) with
    | none => .misuse
    | some .help => if rest.isEmpty then .help else cluster flags next rest
    | some _ =>
      if !rest.isEmpty || (next.head?.map Prod.snd) == some .operand then .help else .misuse

/-- Takes a flag: its value, and the arguments that follow. -/
def takeFlag (flags : List Flag) (use : FlagUse) (rest : Marked) : Except Halt (String × Marked) :=
  match use.flag, use.value with
  | .help, none => .error .help
  | .help, some value => .error (if use.short then cluster flags rest value.toList else .misuse)
  | _, some value => .ok (value, rest)
  | _, none =>
    match rest with
    | (value, .operand) :: rest => .ok (value, rest)
    | _ => .error .misuse

/-- Reads arguments. Operands are taken in runs between the flags. The fuel bounds the number of
steps. -/
def takeFrom (flags : List Flag) : Nat → List Slot → Marked → Taken → Except Halt Taken
  | 0, _, _, _ => .error .misuse
  | fuel + 1, slots, args, taken =>
    match args with
    | (_, .flag none) :: rest => takeFrom flags fuel slots rest { taken with surplus := true }
    | (_, .flag (some use)) :: rest =>
      match takeFlag flags use rest with
      | .error halt => .error halt
      | .ok (value, rest) =>
        takeFrom flags fuel slots rest { taken with values := taken.values ++ [(use.flag, value)] }
    | args =>
      let (filled, slots, left) := fill slots args
      let taken := { taken with filled := taken.filled ++ filled }
      if args.any (fun a => a.2.isFlag) then
        if left.length < args.length then takeFrom flags fuel slots left taken
        else takeFrom flags fuel slots (left.dropWhile (fun a => !a.2.isFlag))
          { taken with surplus := true }
      else if slots.contains .one then .error .misuse
      else .ok { taken with surplus := taken.surplus || !left.isEmpty }

/-- Reads the arguments for flags and slots. -/
def take (flags : List Flag) (slots : List Slot) (args : List String) : Except Halt Taken :=
  match marks? flags args with
  | none => .error .misuse
  | some marked => takeFrom flags (args.length + 1) slots marked {}

/-- The value of a flag; the last one counts. -/
def Taken.value? (t : Taken) (flag : Flag) : Option String :=
  (t.values.reverse.find? (fun v => v.1 == flag)).map Prod.snd

end Args

/-! ### Requests -/

namespace Verb

/-- How a verb is written. -/
def spelling : Verb → String
  | scope => "scope"
  | names => "names"
  | members => "members"
  | settings => "settings"

/-- The verb with a spelling. -/
def ofSpelling? (text : String) : Option Verb :=
  [scope, names, members, settings].find? (fun v => v.spelling == text)

/-- The flags of a verb. -/
def flags : Verb → List Flag
  | members => [.help, .seed, .indent]
  | _ => [.help]

/-- The operands of a verb. -/
def slots : Verb → List Slot
  | scope => [.one]
  | names => [.one, .optional]
  | members => [.one, .one]
  | settings => []

end Verb

/-- What is to be done. -/
inductive Command where
  /-- Show the scopes of a script. -/
  | scope (file : Path)
  /-- Show the names at the end of a script that start with a text. -/
  | names (file : Path) (start : String)
  /-- Show the members of an expression at the end of a script. -/
  | members (file : Path) (expression seed indent : String)
  /-- Show the settings. -/
  | settings
  deriving DecidableEq, Repr

/-- A command and what it works with besides the settings. -/
structure Invocation where
  /-- A catalog in place of the one of the settings. -/
  catalog : Option Path := none
  /-- Search roots after those of the settings. -/
  roots : List Path := []
  command : Command
  deriving DecidableEq, Repr

/-- What the program is asked for. -/
inductive Request where
  /-- Help on a verb, or on the program. -/
  | help (topic : Option Verb)
  | perform (invocation : Invocation)
  deriving DecidableEq, Repr

namespace Args

/-- The command of a verb with what was read for it. -/
def Taken.command? (t : Taken) : Verb → Option Command
  | .scope =>
    match t.filled with
    | [.operand (some file)] => some (.scope (.ofText file))
    | _ => none
  | .names =>
    match t.filled with
    | [.operand (some file), .operand start] => some (.names (.ofText file) (start.getD ""))
    | _ => none
  | .members =>
    match t.filled with
    | [.operand (some file), .operand (some expression)] =>
      let seed := (t.value? .seed).getD ""
      let indent := (t.value? .indent).getD ""
      some (.members (.ofText file) expression seed indent)
    | _ => none
  | .settings => some .settings

/-- The request that arguments make; absent if they make none. -/
def request? (args : List String) : Option Request :=
  match take [.help, .catalog, .modulePath] [.command] args with
  | .error .help => some (.help none)
  | .error .misuse => none
  | .ok taken =>
    match taken.filled with
    | [.command (name :: rest)] =>
      match Verb.ofSpelling? name with
      | none => none
      | some verb =>
        match take verb.flags verb.slots rest with
        | .error .help => some (.help (some verb))
        | .error .misuse => none
        | .ok inner =>
          if taken.surplus || inner.surplus then none
          else (inner.command? verb).map (fun command => .perform {
            catalog := (taken.value? .catalog).map .ofText
            roots := (taken.values.filter (fun v => v.1 == .modulePath)).map (fun v => .ofText v.2)
            command })
    | _ => if taken.surplus then none else some (.help none)

end Args

end ScriptScope.Cli
