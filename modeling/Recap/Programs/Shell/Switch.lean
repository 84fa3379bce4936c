import Recap.Programs.Shell.Signal

/-!
# Options of the shell

## Contents
- `smallOptions`, `largeOptions` — options with letters, by their names.
- `setCommand` — sets options and parameters.
- `switchNames`, `shopt` — options without letters.
-/

namespace Recap.Shell

open Act

/-! ## Options with letters -/

/-- The options of the smaller language by their names. -/
def smallOptions : List (String × Char) :=
  [("errexit", 'e'), ("noglob", 'f'), ("ignoreeof", 'I'), ("interactive", 'i'), ("monitor", 'm'),
    ("noexec", 'n'), ("stdin", 's'), ("xtrace", 'x'), ("verbose", 'v'), ("vi", 'V'), ("emacs", 'E'),
    ("noclobber", 'C'), ("allexport", 'a'), ("notify", 'b'), ("nounset", 'u'), ("privileged", 'p'),
    ("nolog", 'N'), ("debug", 'D')]

/-- The options of the larger language by their names. Those that have no letter are kept by their
    names. -/
def largeOptions : List (String × Option Char) :=
  [("allexport", some 'a'), ("braceexpand", some 'B'), ("emacs", none), ("errexit", some 'e'),
    ("errtrace", some 'E'), ("functrace", some 'T'), ("hashall", some 'h'), ("histexpand", some 'H'),
    ("history", none), ("ignoreeof", none), ("interactive-comments", none), ("keyword", some 'k'),
    ("monitor", some 'm'), ("noclobber", some 'C'), ("noexec", some 'n'), ("noglob", some 'f'),
    ("nolog", none), ("notify", some 'b'), ("nounset", some 'u'), ("onecmd", some 't'),
    ("physical", some 'P'), ("pipefail", none), ("posix", none), ("privileged", some 'p'),
    ("verbose", some 'v'), ("vi", none), ("xtrace", some 'x')]

/-- The option of a name: its letter, or nothing if it has none. -/
def optionOf? (flavour : Flavour) (name : String) : Option (Option Char) :=
  match flavour with
  | .plain => (smallOptions.lookup name).map some
  | .enlarged => largeOptions.lookup name

/-- Whether an option has a letter. -/
def isOptionLetter (flavour : Flavour) (letter : Char) : Bool :=
  match flavour with
  | .plain => (smallOptions.map (·.2)).contains letter
  | .enlarged => (largeOptions.map (·.2)).contains (some letter)

/-- Turns an option on or off by its letter. -/
def setLetter (on : Bool) (letter : Char) : Act Unit := modify fun s =>
  { s with options := (if on then [letter] else []) ++ s.options.filter (· != letter) }

/-- Turns an option on or off by its name. -/
def setSwitch (on : Bool) (name : String) : Act Unit := modify fun s =>
  { s with switches := (if on then [name] else []) ++ s.switches.filter (· != name) }

/-- Turns an option on or off. -/
def setOption (on : Bool) (name : String) : Option Char → Act Unit
  | some letter => setLetter on letter
  | none => setSwitch on name

/-- How options and parameters are set, in the larger language. -/
def setUsage : String := "set [-abefhkmnptuvxBCEHPT] [-o option-name] [--] [-] [arg ...]"

/-- A name and blanks behind it, up to a width. -/
def inWidth (width : Nat) (name : String) : String :=
  name ++ String.ofList (List.replicate (width - name.length) ' ')

/-- Shows which options are on. -/
def showOptions (asCommands : Bool) : Act Unit := do
  let s ← get
  let isOn (name : String) (letter : Option Char) : Bool :=
    match letter with
    | some c => s.options.contains c
    | none => s.switches.contains name || name == "interactive-comments"
  let options : List (String × Option Char) := match s.flavour with
    | .plain => smallOptions.map fun (name, c) => (name, some c)
    | .enlarged => largeOptions
  if s.flavour == .plain && !asCommands then say "Current option settings\n"
  for (name, letter) in options do
    let on := isOn name letter
    if asCommands then say ("set " ++ (if on then "-o " else "+o ") ++ name ++ "\n")
    else
      let state := if on then "on\n" else "off\n"
      say (if s.flavour == .plain then inWidth 16 name ++ state else inWidth 15 name ++ "\t" ++ state)

/-- Complains about an option that there is not. -/
def refuseSetting (on : Bool) (name : String) : Act Unit := do
  if ← isEnlarged then refuseAs "set" 2 (name ++ ": invalid option name")
  else abortAs "set" ("Illegal option " ++ (if on then "-o " else "+o ") ++ name)

/-- Turns the options of letters on or off; whether there are all of them. -/
def setLetters (on : Bool) : List Char → Act Bool
  | [] => return true
  | c :: cs => do
    let s ← get
    let sign := if on then "-" else "+"
    if isOptionLetter s.flavour c || c == 'h' then
      setLetter on c
      setLetters on cs
    else if s.flavour == .enlarged then
      refuseOption "set" (sign ++ c.toString) setUsage
      return false
    else abortAs "set" ("Illegal option " ++ sign ++ c.toString)

/-- Sets options and parameters. `fuel` is more than the number of arguments. -/
def setOptions : Nat → Builtin
  | 0, _ => return
  | fuel + 1, arguments => do
    let put (parameters : List String) : Act Unit := modify fun s => { s with parameters, status := 0 }
    match arguments with
    | [] => setStatus 0
    | "--" :: rest => put rest
    | argument :: rest =>
      match argument.toList with
      | sign :: c :: cs =>
        if sign == '-' || sign == '+' then
          let on := sign == '-'
          match (c :: cs).getLast? == some 'o', rest with
          | true, name :: rest =>
            match optionOf? (← get).flavour name with
            | some letter =>
              if ← setLetters on (c :: cs).dropLast then
                setOption on name letter
                setOptions fuel rest
            | none => refuseSetting on name
          | true, [] =>
            setStatus 0
            showOptions (!on)
          | false, rest => if ← setLetters on (c :: cs) then setOptions fuel rest
        else put arguments
      | ['-'] => if rest.isEmpty then setStatus 0 else put rest
      | _ => put arguments

/-- Sets options and parameters; without arguments, shows the variables. -/
def setCommand : Builtin := fun arguments => do
  if arguments.isEmpty then
    let enlarged ← isEnlarged
    for (name, v) in (← get).bindings.mergeSort fun a b => a.1 ≤ b.1 do
      match v.value? with
      | some value =>
        say (name ++ "=" ++ (if enlarged then quotedIfNeeded value else plainQuoted value) ++ "\n")
      | none => pure ()
    setStatus 0
  else setOptions (arguments.length + 1) arguments

/-! ## Options without letters -/

/-- The options without letters. -/
def switchNames : List String :=
  ["autocd", "assoc_expand_once", "cdable_vars", "cdspell", "checkhash", "checkjobs", "checkwinsize",
    "cmdhist", "compat31", "compat32", "compat40", "compat41", "compat42", "compat43", "compat44",
    "complete_fullquote", "direxpand", "dirspell", "dotglob", "execfail", "expand_aliases", "extdebug",
    "extglob", "extquote", "failglob", "force_fignore", "globasciiranges", "globskipdots", "globstar",
    "gnu_errfmt", "histappend", "histreedit", "histverify", "hostcomplete", "huponexit",
    "inherit_errexit", "interactive_comments", "lastpipe", "lithist", "localvar_inherit",
    "localvar_unset", "login_shell", "mailwarn", "no_empty_cmd_completion", "nocaseglob", "nocasematch",
    "noexpand_translation", "nullglob", "patsub_replacement", "progcomp", "progcomp_alias", "promptvars",
    "restricted_shell", "shift_verbose", "sourcepath", "varredir_close", "xpg_echo"]

/-- The options without letters that are on at first. -/
def usualSwitches : List String :=
  ["checkwinsize", "cmdhist", "complete_fullquote", "extquote", "force_fignore", "globasciiranges",
    "globskipdots", "hostcomplete", "interactive_comments", "patsub_replacement", "progcomp",
    "promptvars", "sourcepath"]

/-- Shows whether an option is on. -/
def showSwitch (asCommand : Bool) (name : String) : Act Unit := do
  let on := (← get).switches.contains name
  if asCommand then say ((if on then "shopt -s " else "shopt -u ") ++ name ++ "\n")
  else say (inWidth 15 name ++ "\t" ++ (if on then "on\n" else "off\n"))

/-- Turns options without letters on or off, or shows whether they are. -/
def shopt : Builtin := fun arguments => do
  let letters := (arguments.takeWhile (·.startsWith "-")).flatMap (·.toList.drop 1)
  let names := arguments.dropWhile (·.startsWith "-")
  setStatus 0
  match letters.find? (!"supqo".toList.contains ·) with
  | some c => refuseOption "shopt" ("-" ++ c.toString) "shopt [-pqsu] [-o] [optname ...]"
  | none =>
    let on := letters.contains 's'
    let changes := on || letters.contains 'u'
    let mut code := 0
    for name in if names.isEmpty then switchNames else names do
      let letter := if letters.contains 'o' then largeOptions.lookup name else none
      if letter.isNone && !switchNames.contains name then
        complain ("shopt: " ++ name ++ ": invalid shell option name")
        code := 1
      else if changes && !names.isEmpty then setOption on name (letter.getD none)
      else
        if !letters.contains 'q' && (!changes || (← get).switches.contains name == on) then
          showSwitch (letters.contains 'p') name
        if !names.isEmpty && !(← get).switches.contains name then code := 1
    setStatus code

end Recap.Shell
