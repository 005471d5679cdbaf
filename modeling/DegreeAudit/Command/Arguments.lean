import DegreeAudit.Command.Options

/-!
# Arguments of the command

Arguments are read from left to right and the first thing that stops the reading decides. An option
is written by its long name or its letter; its value follows an equals sign, follows the letter at
once, or is the next argument, which then must not look like an option. The version and the help are
answered as soon as they are asked for. Options given twice, unknown ones, refused values and
arguments that belong to no option are errors of usage.
-/

namespace DegreeAudit.Command

inductive Stop where
  | version
  | help
  | usage
deriving DecidableEq, Repr

abbrev Given := List (Opt × String)

namespace Given

def value? (given : Given) (option : Opt) : Option String := given.lookup option

/-- One more option with its value, unless it was given or cannot have the value. -/
def add (given : Given) (option : Opt) (value : String) : Except Stop Given :=
  if (given.value? option).isSome ∨ !option.accepts value then .error .usage
  else .ok (given ++ [(option, value)])

end Given

inductive Argument where
  | opt (option : Opt) (value : Option String)
  | stop (reason : Stop)
  | separator
  | value
deriving DecidableEq, Repr

namespace Argument

/-- An argument that begins with two dashes, without them. -/
def ofLong (s : List Char) : Argument :=
  let name := String.ofList (s.takeWhile (· != '='))
  let value := match s.dropWhile (· != '=') with
    | [] => none
    | _ :: text => some (String.ofList text)
  match Opt.ofName? name with
  | some option => opt option value
  | none =>
    if name = "version" ∧ value.isNone then stop .version
    else if name = "help" ∧ value.isNone then stop .help
    else stop .usage

/-- An argument that begins with one dash: its letter and what follows the letter. -/
def ofShort (letter : Char) (s : List Char) : Argument :=
  match Opt.ofLetter? letter with
  | some option =>
    match s with
    | [] => opt option none
    | '=' :: text => opt option (some (String.ofList text))
    | text => opt option (some (String.ofList text))
  | none =>
    if letter = 'V' then stop .version
    else if letter = 'h' then stop .help
    else stop .usage

/-- What a text is among arguments; a single dash is a value. -/
def ofText (text : String) : Argument :=
  match text.toList with
  | ['-', '-'] => separator
  | '-' :: '-' :: s => ofLong s
  | '-' :: letter :: s => ofShort letter s
  | _ => value

end Argument

def readArguments (given : Given) : List String → Except Stop Given
  | [] => .ok given
  | text :: rest =>
    match Argument.ofText text with
    | .stop reason => .error reason
    | .value => .error .usage
    | .separator => if rest.isEmpty then .ok given else .error .usage
    | .opt option (some value) =>
      (given.add option value).bind fun given => readArguments given rest
    | .opt option none =>
      match rest with
      | [] => .error .usage
      | next :: rest =>
        if Argument.ofText next = .value then
          (given.add option next).bind fun given => readArguments given rest
        else .error .usage

/-- The options that arguments and environment give; arguments count before the environment. -/
def readOptions (arguments : List String) (environment : String → Option String) :
    Except Stop Options :=
  (readArguments [] arguments).bind fun given =>
  let value? (option : Opt) := (given.value? option).or (option.fallback?.bind environment)
  (Options.ofValues? value?).elim (.error .usage) .ok

end DegreeAudit.Command
